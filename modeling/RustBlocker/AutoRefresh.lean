import RustBlocker.Library.SqlCalendar
import RustBlocker.SourceLists
import RustBlocker.SyncApply

/-!
# The timed refresh

The task of `main` that looks for stale sources every ten minutes, and refreshes them one after
the other.  Whatever else refreshes a source, or changes the sources, does so in between.

* **Stale** is a source that was never updated, or whose interval is over since.  SQLite adds the
  interval to the text of the last update and compares the texts; a negative interval gives NULL.
* **A pass** goes through the sources that one query returned, with their rows as they were.  A
  refresh that fails counts as an update too, if that can be written.
* **The clock** does not go back, and stays within the years that SQLite can write.  This is a
  guard of the machine: an event whose time is before that of the last one is no step.

`upToDate_of_exec` says that no source is forgotten.

## The account

What is said of a source is said as of a check, and there are two checks to speak of: the one that
the pass in progress comes from, `checked`, and the last one whose pass is over, `passed`.  A
check begins only when the pass before it is over, so every check moves one step on.  A start
drops the pass in progress, and with it its check.

`excused` is the time of the last event after which the task cannot be blamed: a source that was
added or changed otherwise than by a refresh, a row that the check could not read, and a refresh
of the pass that failed and whose failure could not be written.  Nothing reads it, nor the two
times.

How often the task looks is not part of the machine; a check may come at any time.  That no
interval is missed by much is then a matter of the timer, and the theorem says what each check
achieves, however late it is.

Nothing is said of a source that is switched off or whose interval is negative.  SQLite never
finds the latter due, and the server leaves the former alone.
-/

namespace RustBlocker

/-! ## Stale sources -/

/-- `datetime(last_updated, '+' || update_interval_hours || ' hours')`.  A second sign is no
modifier. -/
def dueAt (lastUpdated : Str) (hours : Int) : Option Str :=
  if hours < 0 then none
  else do
    let unix ← SqlCalendar.read lastUpdated
    let due ← SqlTime.datetime (unix + 3600 * hours)
    return SqlCalendar.text due

/-- The condition of the query; NULL is not true. -/
def isStale (now : Str) (row : SourceRow) : Bool :=
  row.enabled == 1 &&
    match row.lastUpdated with
    | none => true
    | some last => (dueAt last row.updateIntervalHours).any fun due => due ≤ now

/-- The calls of `get_stale_sources`. -/
inductive StaleCall where
  | connection
  | prepare
  | query
deriving DecidableEq

/-- What a check meets: the blocking task may fail, and rows may not be read. -/
structure StaleWeather where
  task : Bool := true
  calls : Plan StaleCall := .clear
  unread : Nat → Bool := fun _ => false

/-- `get_stale_sources` -/
def getStaleSources (weather : StaleWeather) (now : Str) (db : Db) :
    Except DbError (List DbSource) := do
  weather.calls.attempt .connection .pool
  weather.calls.attempt .prepare .sql
  weather.calls.attempt .query .sql
  return ((db.sources.rows.filter fun row => isStale now row.2).filter
    fun row => !weather.unread row.1).map fun row => row.2.source row.1

/-- The sources of a check, if it has not failed. -/
def checkedSources (weather : StaleWeather) (now : Str) (db : Db) : Option (List DbSource) :=
  if weather.task then (getStaleSources weather now db).toOption else none

/-! ## The server

The task and whatever else writes sources, as one machine with a clock.  Refreshes are whole calls
here, with their fetch, and the times that they write are those of the clock. -/

/-- What changes the sources besides a refresh: `add_source`, `delete_source_with_cleanup` and the
`apply_sources` of a sync. -/
inductive SourceEdit where
  | insert (url listType : Str) (hours : Int)
  | delete (fails : Plan DeleteSourceCall) (leftover : Finset Str) (id : Nat)
  | sync (weather : ApplyWeather) (data : Json)

def SourceEdit.apply (edit : SourceEdit) (site : Site) : Site :=
  match edit with
  | insert url listType hours => { site with db := insertSource site.db url listType hours }
  | delete fails leftover id =>
      { site with db := (deleteSourceWithCleanup fails leftover site.db id).1 }
  | sync weather data => (applySources weather data site).site

/-- The server, as far as it has to do with sources.  The last three fields are an account of the
run, which no event reads but to move it on. -/
structure RefreshServer where
  site : Site
  /-- The time of the last event. -/
  now : Int
  /-- The sources of the pass that are still to be refreshed. -/
  pending : List DbSource := []
  /-- The time of the check that the pass is of, or was, if it is over. -/
  checked : Option Int := none
  /-- The time of the last check whose pass is over; it is moved on when the next check
  succeeds. -/
  passed : Option Int := none
  /-- When a source was last added or changed, left out of a check, or refreshed without a trace.
  None of these is the fault of the task. -/
  excused : Nat → Option Int := fun _ => none

inductive RefreshEvent where
  /-- A start of the process. -/
  | start
  | check (weather : StaleWeather)
  /-- The next refresh of the pass. -/
  | refresh (weather : RefreshWeather)
  /-- A refresh that is not of the pass. -/
  | request (source : DbSource) (weather : RefreshWeather)
  | edit (edit : SourceEdit)
  /-- Anything else. -/
  | write (change : Site → Site)

/-- A site with the sources of another. -/
def Site.withSources (site other : Site) : Site :=
  { site with db := { site.db with sources := other.db.sources } }

namespace RefreshServer

variable (u : CaseTables) (hash : Bytes → UInt64) (s : RefreshServer)

/-- A check returned `listed`. -/
def list (unread : Nat → Bool) (listed : List DbSource) : RefreshServer :=
  { s with
    pending := listed
    checked := some s.now
    passed := s.checked
    excused := fun id => if unread id then some s.now else s.excused id }

/-- A refresh of the pass. -/
def refresh (weather : RefreshWeather) (source : DbSource) (pending : List DbSource) :
    RefreshServer :=
  let out := refreshSource u hash { weather with now := SqlCalendar.text s.now } s.site source
  { s with
    site := out.site
    pending
    excused := fun id =>
      if id = source.id ∧ out.write = none ∧ weather.statusFails then some s.now
      else s.excused id }

def edit (edit : SourceEdit) : RefreshServer :=
  let site := edit.apply s.site
  { s with
    site
    excused := fun id =>
      if site.db.sources.find? id = s.site.db.sources.find? id then s.excused id
      else some s.now }

/-- **One event**, at its time. -/
def act (event : RefreshEvent) : Option RefreshServer :=
  match event with
  | .start => some { s with pending := [], checked := s.passed }
  | .check weather =>
      if s.pending = [] then
        match checkedSources weather (SqlCalendar.text s.now) s.site.db with
        | none => some s
        | some listed => some (s.list weather.unread listed)
      else none
  | .refresh weather =>
      match s.pending with
      | [] => none
      | source :: pending => some (s.refresh u hash weather source pending)
  | .request source weather =>
      some { s with
        site := (refreshSource u hash { weather with now := SqlCalendar.text s.now } s.site
          source).site }
  | .edit edit => some (s.edit edit)
  | .write change => some { s with site := (change s.site).withSources s.site }

end RefreshServer

/-- **The timed refresh among everything else.** -/
def autoRefresh (u : CaseTables) (hash : Bytes → UInt64) :
    StateMachine RefreshServer (Int × RefreshEvent) where
  init s := s.pending = [] ∧ s.checked = none ∧ s.passed = none
  step s timed :=
    if s.now ≤ timed.1 ∧ timed.1 ≤ SqlTime.maxTimestamp then
      RefreshServer.act u hash { s with now := timed.1 } timed.2
    else none

/-! ## What is stale

The query compares texts.  Times of one length are ordered as their texts are, so that what it
finds is what is due. -/

/-- A text of the clock. -/
def IsTime (unix : Int) : Prop := SqlTime.minTimestamp ≤ unix ∧ unix ≤ SqlTime.maxTimestamp

/-- The time of the last update. -/
def SourceRow.updated (row : SourceRow) : Option Int := row.lastUpdated.bind SqlCalendar.read

/-- Every update was at some time up to now, so that no row has a time of the future. -/
def Stamped (db : Db) (now : Int) : Prop :=
  ∀ row ∈ db.sources.values, ∀ last, row.lastUpdated = some last →
    ∃ unix, IsTime unix ∧ unix ≤ now ∧ last = SqlCalendar.text unix

/-- **A source is due** if it was never updated, or its interval is over, which a negative one
never is. -/
def Due (lastUpdated : Option Str) (hours now : Int) : Prop :=
  lastUpdated = none ∨
    0 ≤ hours ∧ ∃ unix, lastUpdated.bind SqlCalendar.read = some unix ∧ unix + 3600 * hours ≤ now

theorem dueAt_text {unix hours now : Int} (time : IsTime unix) (timeNow : IsTime now) :
    ((dueAt (SqlCalendar.text unix) hours).any fun due => due ≤ SqlCalendar.text now) = true ↔
      0 ≤ hours ∧ unix + 3600 * hours ≤ now := by
  unfold dueAt
  split
  next negative =>
    simp only [Option.any_none, Bool.false_eq_true, false_iff]
    omega
  next forward =>
    rw [SqlCalendar.read_text time.1 time.2]
    obtain ⟨low, high⟩ := time
    obtain ⟨lowNow, highNow⟩ := timeNow
    change (((SqlTime.datetime (unix + 3600 * hours)).bind fun due => some _).any _) = true ↔ _
    unfold SqlTime.minTimestamp at low
    unfold SqlTime.datetime SqlTime.minDatetime
    split
    next inside =>
      have lowDue : SqlTime.minTimestamp ≤ unix + 3600 * hours := by
        unfold SqlTime.minTimestamp
        omega
      have compared := SqlCalendar.text_le_text lowDue inside.2 lowNow highNow
      simp only [Option.bind_some, Option.any_some, decide_eq_true_eq, compared]
      omega
    next outside =>
      simp only [Option.bind_none, Option.any_none, Bool.false_eq_true, false_iff]
      omega

/-- **The query** compares texts, and finds what is due. -/
theorem isStale_iff {db : Db} {now : Int} (stamped : Stamped db now) (timeNow : IsTime now)
    {row : SourceRow} (mem : row ∈ db.sources.values) :
    isStale (SqlCalendar.text now) row = true ↔
      row.enabled = 1 ∧ Due row.lastUpdated row.updateIntervalHours now := by
  unfold isStale Due
  rw [Bool.and_eq_true, beq_iff_eq]
  refine and_congr_right fun _ => ?_
  cases updated : row.lastUpdated with
  | none => simp only [true_or]
  | some last =>
      obtain ⟨unix, time, -, rfl⟩ := stamped row mem last updated
      simp only [dueAt_text time timeNow, reduceCtorEq, false_or, Option.bind_some,
        SqlCalendar.read_text time.1 time.2, Option.some.injEq, exists_eq_left']

/-- A check that has not failed returned what is stale, as far as it could be read. -/
theorem checkedSources_eq_some {weather : StaleWeather} {now : Str} {db : Db}
    {listed : List DbSource} (checked : checkedSources weather now db = some listed) :
    listed = ((db.sources.rows.filter fun row => isStale now row.2).filter
      fun row => !weather.unread row.1).map fun row => row.2.source row.1 := by
  unfold checkedSources at checked
  split at checked
  next ran =>
    cases read : getStaleSources weather now db with
    | error error =>
        rw [read] at checked
        cases checked
    | ok sources =>
        rw [read] at checked
        obtain rfl := Option.some.inj checked
        obtain ⟨-, read⟩ := Plan.attempt_bind_eq_ok.mp read
        obtain ⟨-, read⟩ := Plan.attempt_bind_eq_ok.mp read
        obtain ⟨-, read⟩ := Plan.attempt_bind_eq_ok.mp read
        exact (Except.ok.inj read).symm
  next => cases checked

/-! ## What an event can do

What each write does to the rows of the sources: the status of one row, or rows that come and go.
-/

section Effects

variable (u : CaseTables) (hash : Bytes → UInt64)

/-- A refresh writes its status to the row of its source, or nothing at all. -/
theorem refreshSource_sources (weather : RefreshWeather) (site : Site) (source : DbSource) :
    let out := refreshSource u hash weather site source
    (∃ status, out.site.db.sources =
        (site.db.updateSourceStatus weather.now source.id status).sources) ∨
      out.write = none ∧ weather.statusFails = true ∧ out.site.db.sources = site.db.sources := by
  intro out
  rcases refreshSource_cases u hash weather site source with
    ⟨error, failed⟩ | ⟨content, newList, -, -, replaced, -⟩
  · cases fails : weather.statusFails with
    | true =>
        refine Or.inr ⟨?_, rfl, ?_⟩
        · simp only [out, failed, failRefresh]
        · simp only [out, failed, failRefresh, fails, if_true]
    | false =>
        refine Or.inl ⟨failedStatus error, ?_⟩
        simp only [out, failed, failRefresh, fails, Bool.false_eq_true, if_false]
  · refine Or.inl ⟨okStatus newList.length, ?_⟩
    rw [replaced, Db.replaceOwned_sources]

end Effects

theorem updated_updateSourceStatus {db : Db} {now : Int} (time : IsTime now) {id : Nat}
    {status : Str} {row : SourceRow}
    (found : (db.updateSourceStatus (SqlCalendar.text now) id status).sources.find? id =
      some row) : row.updated = some now := by
  rw [Db.updateSourceStatus, SqlTable.find?_update] at found
  obtain ⟨before, -, rfl⟩ := Option.map_eq_some_iff.mp found
  rw [if_pos rfl]
  exact SqlCalendar.read_text time.1 time.2

theorem find?_updateSourceStatus_of_ne {db : Db} {now : Str} {id id' : Nat} {status : Str}
    (other : id' ≠ id) :
    (db.updateSourceStatus now id status).sources.find? id' = db.sources.find? id' := by
  rw [Db.updateSourceStatus, SqlTable.find?_update]
  simp only [if_neg other, Option.map_id']

theorem Stamped.updateSourceStatus {db : Db} {now : Int} (stamped : Stamped db now)
    (time : IsTime now) (id : Nat) (status : Str) :
    Stamped (db.updateSourceStatus (SqlCalendar.text now) id status) now := by
  intro row mem last updated
  obtain ⟨id', here⟩ := SqlTable.mem_values.mp mem
  have found := SqlTable.find?_eq_some.mpr here
  rw [Db.updateSourceStatus, SqlTable.find?_update] at found
  obtain ⟨before, foundBefore, rfl⟩ := Option.map_eq_some_iff.mp found
  split at updated
  next =>
    obtain rfl := Option.some.inj updated
    exact ⟨now, time, le_refl _, rfl⟩
  next =>
    refine stamped before ?_ last updated
    exact SqlTable.mem_values.mpr ⟨id', SqlTable.find?_eq_some.mp foundBefore⟩

/-- A row that is new was never updated. -/
theorem SourceEdit.mem_values (edit : SourceEdit) (site : Site) {row : SourceRow}
    (mem : row ∈ (edit.apply site).db.sources.values) :
    row ∈ site.db.sources.values ∨ row.lastUpdated = none := by
  cases edit with
  | insert url listType hours =>
      let new : SourceRow := { url := url, listType := listType, updateIntervalHours := hours }
      change row ∈ (site.db.sources.insertOrIgnore new).values at mem
      cases clash : site.db.sources.clashes new with
      | true =>
          rw [SqlTable.insertOrIgnore_of_clashes clash] at mem
          exact Or.inl mem
      | false =>
          rw [SqlTable.values_insertOrIgnore_of_not_clashes clash, List.mem_append,
            List.mem_singleton] at mem
          exact mem.imp_right fun same => by rw [same]
  | delete fails leftover id =>
      rcases deleteSourceWithCleanup_cases fails leftover site.db id with
        kept | ⟨source, db', -, gone, rfl | ⟨candidates, rfl⟩⟩
      · refine Or.inl ?_
        rw [SourceEdit.apply, kept] at mem
        exact mem
      all_goals
        rw [SourceEdit.apply, gone] at mem
        obtain ⟨id', here, -⟩ := SqlTable.mem_values_deleteWhere.mp mem
        exact Or.inl (SqlTable.mem_values.mpr ⟨id', here⟩)
  | sync weather data =>
      change row ∈ (applySources weather data site).site.db.sources.values at mem
      rcases applyRows_cases weather (parseSources data) (fun table item => table.insert item.row)
          site.db.sources.deleteAll (fun table => { site.db with sources := table }) site with
        ⟨rows, table, -, -, -, written⟩ | ⟨-, kept⟩
      · obtain ⟨items, -, stored⟩ := applySources_stored (congrArg ApplyOutcome.committed written)
        rw [stored] at mem
        obtain ⟨item, -, rfl⟩ := List.mem_map.mp mem
        exact Or.inr rfl
      · rw [applySources, kept] at mem
        exact Or.inl mem

/-! ## No source is forgotten

The invariant has a clause for the check of the pass in progress and one for the check before.
Each kind of event is one lemma, and most of them only say that what was looked after stays so. -/

/-- **A source was looked after** as of some time: it was updated since, or was not due at that
time, or it is excused.  A refresh that failed is an update, if its failure was written. -/
def RefreshServer.LookedAfter (s : RefreshServer) (id : Nat) (row : SourceRow) (time : Int) :
    Prop :=
  (∃ unix, row.updated = some unix ∧
      (time ≤ unix ∨ time < unix + 3600 * row.updateIntervalHours)) ∨
    ∃ since, s.excused id = some since ∧ time ≤ since

/-- The sources that the task refreshes in time: those that are switched on and have an interval
that is not negative. -/
def SourceRow.Regular (row : SourceRow) : Prop := row.enabled = 1 ∧ 0 ≤ row.updateIntervalHours

/-- What holds at all times: of the pass in progress, of the check that it comes from, and of the
check before. -/
structure RefreshServer.Attended (s : RefreshServer) : Prop where
  now : IsTime s.now
  stamped : Stamped s.site.db s.now
  checkedLe : ∀ time, s.checked = some time → time ≤ s.now
  passedLe : ∀ time, s.passed = some time → time ≤ s.now
  ids : (s.pending.map DbSource.id).Nodup
  due : ∀ source ∈ s.pending, ∃ time, s.checked = some time ∧
    Due source.lastUpdated source.updateIntervalHours time
  pass : ∀ time, s.checked = some time → ∀ id row, s.site.db.sources.find? id = some row →
    row.Regular → id ∈ s.pending.map DbSource.id ∨ s.LookedAfter id row time
  past : ∀ time, s.passed = some time → ∀ id row, s.site.db.sources.find? id = some row →
    row.Regular → s.LookedAfter id row time

namespace RefreshServer

variable {u : CaseTables} {hash : Bytes → UInt64} {s t : RefreshServer}

/-- The row of a source, and its excuse, are as they were; then it was looked after if it was
before. -/
def Same (s t : RefreshServer) (id : Nat) : Prop :=
  t.site.db.sources.find? id = s.site.db.sources.find? id ∧ t.excused id = s.excused id

/-- A source was updated right now, or is excused by now; then it was looked after as of any
earlier time. -/
def Touched (t : RefreshServer) (id : Nat) : Prop :=
  (∀ row, t.site.db.sources.find? id = some row → row.updated = some t.now) ∨
    t.excused id = some t.now

theorem lookedAfter_of_touched {id : Nat} (touched : t.Touched id) {row : SourceRow}
    (found : t.site.db.sources.find? id = some row) {time : Int} (past : time ≤ t.now) :
    t.LookedAfter id row time :=
  touched.imp (fun updated => ⟨t.now, updated row found, Or.inl past⟩)
    fun excused => ⟨t.now, excused, past⟩

theorem LookedAfter.same {id : Nat} {row : SourceRow} {time : Int}
    (looked : s.LookedAfter id row time) (same : s.Same t id) : t.LookedAfter id row time := by
  unfold LookedAfter
  rw [same.2]
  exact looked

/-- **An event that refreshes and excuses only** keeps what was looked after. -/
theorem Attended.follow (good : s.Attended) (clock : t.now = s.now)
    (stamped : Stamped t.site.db t.now) (checked : t.checked = s.checked)
    (passed : t.passed = s.passed) (sublist : t.pending.Sublist s.pending)
    (others : ∀ id, s.Same t id ∨ t.Touched id)
    (popped : ∀ id ∈ s.pending.map DbSource.id, id ∈ t.pending.map DbSource.id ∨ t.Touched id) :
    t.Attended where
  now := by rw [clock]; exact good.now
  stamped := stamped
  checkedLe time at_ := by
    rw [clock]
    exact good.checkedLe time (checked ▸ at_)
  passedLe time at_ := by
    rw [clock]
    exact good.passedLe time (passed ▸ at_)
  ids := (sublist.map _).nodup good.ids
  due source mem := by
    rw [checked]
    exact good.due source (sublist.subset mem)
  pass time at_ id row found regular := by
    rw [checked] at at_
    have past : time ≤ t.now := clock ▸ good.checkedLe time at_
    rcases others id with same | touched
    · rcases good.pass time at_ id row (same.1 ▸ found) regular with waits | looked
      · exact (popped id waits).imp_right fun touched => lookedAfter_of_touched touched found past
      · exact Or.inr (looked.same same)
    · exact Or.inr (lookedAfter_of_touched touched found past)
  past time at_ id row found regular := by
    rw [passed] at at_
    rcases others id with same | touched
    · exact (good.past time at_ id row (same.1 ▸ found) regular).same same
    · exact lookedAfter_of_touched touched found (clock ▸ good.passedLe time at_)

/-- Time goes by. -/
theorem Attended.later (good : s.Attended) {now : Int} (forward : s.now ≤ now)
    (high : now ≤ SqlTime.maxTimestamp) : ({ s with now } : RefreshServer).Attended where
  now := ⟨good.now.1.trans forward, high⟩
  stamped row mem last updated := by
    obtain ⟨unix, time, past, rfl⟩ := good.stamped row mem last updated
    exact ⟨unix, time, past.trans forward, rfl⟩
  checkedLe time at_ := (good.checkedLe time at_).trans forward
  passedLe time at_ := (good.passedLe time at_).trans forward
  ids := good.ids
  due := good.due
  pass := good.pass
  past := good.past

/-- A start ends the pass, if one is going on. -/
theorem Attended.start (good : s.Attended) :
    ({ s with pending := [], checked := s.passed } : RefreshServer).Attended where
  now := good.now
  stamped := good.stamped
  checkedLe := good.passedLe
  passedLe := good.passedLe
  ids := List.nodup_nil
  due _ mem := absurd mem List.not_mem_nil
  pass time at_ id row found regular := Or.inr (good.past time at_ id row found regular)
  past := good.past

/-- **A check** lists every source that is due and can be read. -/
theorem Attended.list (good : s.Attended) (done : s.pending = []) {weather : StaleWeather}
    {sources : List DbSource}
    (checked : checkedSources weather (SqlCalendar.text s.now) s.site.db = some sources) :
    (s.list weather.unread sources).Attended := by
  have listed := checkedSources_eq_some checked
  have excused : ∀ id time, time ≤ s.now → (∃ since, s.excused id = some since ∧ time ≤ since) →
      ∃ since, (s.list weather.unread sources).excused id = some since ∧ time ≤ since := by
    rintro id time past ⟨since, excused, after⟩
    change ∃ since, (if weather.unread id then _ else _) = some since ∧ _
    split
    · exact ⟨s.now, rfl, past⟩
    · exact ⟨since, excused, after⟩
  refine
    { now := good.now
      stamped := good.stamped
      checkedLe := fun time at_ => (Option.some.inj at_).ge
      passedLe := good.checkedLe
      ids := ?_
      due := ?_
      pass := ?_
      past := ?_ }
  · change (sources.map DbSource.id).Nodup
    rw [listed, List.map_map]
    refine ((List.filter_sublist.trans List.filter_sublist).map _).nodup ?_
    exact s.site.db.sources.ids_nodup
  · intro source mem
    change source ∈ sources at mem
    rw [listed] at mem
    obtain ⟨row, inside, rfl⟩ := List.mem_map.mp mem
    have stale := List.mem_filter.mp (List.mem_filter.mp inside).1
    have here := SqlTable.mem_values.mpr ⟨row.1, stale.1⟩
    exact ⟨s.now, rfl, ((isStale_iff good.stamped good.now here).mp stale.2).2⟩
  · intro time at_ id row found regular
    obtain rfl := Option.some.inj at_
    have inside := SqlTable.find?_eq_some.mp found
    have here := SqlTable.mem_values.mpr ⟨id, inside⟩
    cases unread : weather.unread id with
    | true =>
        refine Or.inr (Or.inr ⟨s.now, ?_, le_refl _⟩)
        exact if_pos unread
    | false =>
        by_cases due : Due row.lastUpdated row.updateIntervalHours s.now
        · refine Or.inl ?_
          have stale := (isStale_iff good.stamped good.now here).mpr ⟨regular.1, due⟩
          change id ∈ sources.map DbSource.id
          rw [listed, List.map_map]
          refine List.mem_map.mpr ⟨(id, row), List.mem_filter.mpr ⟨?_, ?_⟩, rfl⟩
          · exact List.mem_filter.mpr ⟨inside, stale⟩
          · simp only [unread, Bool.not_false]
        · refine Or.inr (Or.inl ?_)
          cases updated : row.lastUpdated with
          | none => exact absurd (Or.inl updated) due
          | some last =>
              obtain ⟨unix, unixTime, -, rfl⟩ := good.stamped row here last updated
              have read : row.updated = some unix := by
                rw [SourceRow.updated, updated]
                exact SqlCalendar.read_text unixTime.1 unixTime.2
              refine ⟨unix, read, Or.inr ?_⟩
              by_contra late
              exact due (Or.inr ⟨regular.2, unix, read, not_lt.mp late⟩)
  · intro time at_ id row found regular
    have looked := good.pass time at_ id row found regular
    rw [done] at looked
    rcases looked with waits | looked
    · cases waits
    · exact looked.imp_right (excused id time (good.checkedLe time at_))

section Refreshes

variable (u : CaseTables) (hash : Bytes → UInt64) (weather : RefreshWeather) (source : DbSource)

/-- **What a refresh leaves**: its own row updated right now, unless it failed and that could not be
written, and the other rows as they were. -/
theorem refreshed_rows (good : s.Attended) :
    let out := refreshSource u hash { weather with now := SqlCalendar.text s.now } s.site source
    Stamped out.site.db s.now ∧
      (∀ id, id ≠ source.id →
        out.site.db.sources.find? id = s.site.db.sources.find? id) ∧
      ((∀ row, out.site.db.sources.find? source.id = some row → row.updated = some s.now) ∨
        out.write = none ∧ weather.statusFails = true ∧
          out.site.db.sources = s.site.db.sources) := by
  intro out
  rcases refreshSource_sources u hash { weather with now := SqlCalendar.text s.now } s.site source
    with ⟨status, sources⟩ | ⟨unwritten, fails, sources⟩
  · have stamped := good.stamped.updateSourceStatus good.now source.id status
    refine ⟨?_, fun id other => ?_, Or.inl fun row found => ?_⟩
    · unfold Stamped at stamped ⊢
      rw [sources]
      exact stamped
    · rw [sources]
      exact find?_updateSourceStatus_of_ne other
    · rw [sources] at found
      exact updated_updateSourceStatus good.now found
  · have stamped := good.stamped
    refine ⟨?_, fun id other => congrArg (fun table => SqlTable.find? table id) sources,
      Or.inr ⟨unwritten, fails, sources⟩⟩
    unfold Stamped at stamped ⊢
    rw [sources]
    exact stamped

variable {weather source}

/-- A refresh of the pass leaves its source updated or excused. -/
theorem Attended.refresh (good : s.Attended) {pending : List DbSource}
    (waits : s.pending = source :: pending) :
    (s.refresh u hash weather source pending).Attended := by
  obtain ⟨stamped, others, own⟩ := refreshed_rows u hash weather source good
  have touched : (s.refresh u hash weather source pending).Touched source.id := by
    rcases own with updated | ⟨unwritten, fails, -⟩
    · exact Or.inl updated
    · exact Or.inr (if_pos ⟨rfl, unwritten, fails⟩)
  refine good.follow rfl stamped rfl rfl ?_ (fun id => ?_) (fun id mem => ?_)
  · rw [waits]
    exact List.sublist_cons_self _ _
  · by_cases here : id = source.id
    · subst here
      exact Or.inr touched
    · exact Or.inl ⟨others id here, if_neg fun met => here met.1⟩
  · rw [waits, List.map_cons, List.mem_cons] at mem
    rcases mem with rfl | later
    · exact Or.inr touched
    · exact Or.inl later

/-- Any other refresh leaves its source updated, or the row as it was. -/
theorem Attended.request (good : s.Attended) :
    ({ s with
      site := (refreshSource u hash { weather with now := SqlCalendar.text s.now } s.site
        source).site } : RefreshServer).Attended := by
  obtain ⟨stamped, others, own⟩ := refreshed_rows u hash weather source good
  refine good.follow rfl stamped rfl rfl (List.Sublist.refl _) (fun id => ?_)
    (fun id mem => Or.inl mem)
  by_cases here : id = source.id
  · subst here
    rcases own with updated | ⟨-, -, same⟩
    · exact Or.inr (Or.inl updated)
    · exact Or.inl ⟨congrArg (fun table => SqlTable.find? table source.id) same, rfl⟩
  · exact Or.inl ⟨others id here, rfl⟩

/-- A row that an edit changes is excused. -/
theorem Attended.edit (good : s.Attended) (edit : SourceEdit) : (s.edit edit).Attended := by
  refine good.follow rfl ?_ rfl rfl (List.Sublist.refl _) (fun id => ?_) (fun id mem => Or.inl mem)
  · intro row mem last updated
    rcases edit.mem_values s.site mem with old | new
    · exact good.stamped row old last updated
    · rw [new] at updated
      cases updated
  · by_cases same : (edit.apply s.site).db.sources.find? id = s.site.db.sources.find? id
    · exact Or.inl ⟨same, if_pos same⟩
    · exact Or.inr (Or.inr (if_neg same))

theorem Attended.act (good : s.Attended) {event : RefreshEvent}
    (acted : s.act u hash event = some t) : t.Attended := by
  cases event with
  | start =>
      obtain rfl := Option.some.inj acted
      exact good.start
  | check weather =>
      obtain ⟨done, acted⟩ := Option.ite_none_right_eq_some.mp acted
      split at acted
      next =>
        obtain rfl := Option.some.inj acted
        exact good
      next listed checked =>
        obtain rfl := Option.some.inj acted
        exact good.list done checked
  | refresh weather =>
      change (match s.pending with | [] => none | source :: pending => _) = some t at acted
      split at acted
      next => cases acted
      next source pending waits =>
        obtain rfl := Option.some.inj acted
        exact good.refresh u hash waits
  | request source weather =>
      obtain rfl := Option.some.inj acted
      exact good.request u hash
  | edit edit =>
      obtain rfl := Option.some.inj acted
      exact good.edit edit
  | write change =>
      obtain rfl := Option.some.inj acted
      exact good.follow rfl good.stamped rfl rfl (List.Sublist.refl _)
        (fun id => Or.inl ⟨rfl, rfl⟩) (fun id mem => Or.inl mem)

theorem Attended.step (good : s.Attended) {timed : Int × RefreshEvent}
    (stepped : (autoRefresh u hash).step s timed = some t) : t.Attended := by
  obtain ⟨⟨forward, high⟩, acted⟩ := Option.ite_none_right_eq_some.mp stepped
  exact (good.later forward high).act u hash acted

end Refreshes

end RefreshServer

section Runs

variable {u : CaseTables} {hash : Bytes → UInt64} {s : RefreshServer}

/-- **No source is forgotten.**  Whatever else refreshes and changes the sources, a pass refreshes
each of its sources once, and only what was due; every other enabled source was updated since the
check, was not due then, or has an excuse, and all of them as of the check before. -/
theorem upToDate_of_exec {s₀ : RefreshServer} {events : List (Int × RefreshEvent)}
    (start : (autoRefresh u hash).init s₀) (now : IsTime s₀.now)
    (stamped : Stamped s₀.site.db s₀.now)
    (run : (autoRefresh u hash).exec s₀ events = some s) :
    (s.pending.map DbSource.id).Nodup ∧
      (∀ source ∈ s.pending, ∃ time, s.checked = some time ∧
        Due source.lastUpdated source.updateIntervalHours time) ∧
      ∀ id row, s.site.db.sources.find? id = some row → row.Regular →
        (∀ time, s.checked = some time → id ∈ s.pending.map DbSource.id ∨
          s.LookedAfter id row time) ∧
        ∀ time, s.passed = some time → s.LookedAfter id row time := by
  obtain ⟨idle, unchecked, unpassed⟩ := start
  have good : s.Attended := by
    have kept : ∀ s timed t, RefreshServer.Attended s → True →
        (autoRefresh u hash).step s timed = some t → RefreshServer.Attended t :=
      fun _ _ _ good _ stepped => good.step u hash stepped
    refine (autoRefresh u hash).exec_invariant kept ?_
      ((autoRefresh u hash).stepsMeet_true _ _) run
    refine
      { now := now
        stamped := stamped
        checkedLe := fun time at_ => ?_
        passedLe := fun time at_ => ?_
        ids := by rw [idle]; exact List.nodup_nil
        due := fun source mem => ?_
        pass := fun time at_ => ?_
        past := fun time at_ => ?_ }
    · rw [unchecked] at at_
      cases at_
    · rw [unpassed] at at_
      cases at_
    · rw [idle] at mem
      cases mem
    · rw [unchecked] at at_
      cases at_
    · rw [unpassed] at at_
      cases at_
  exact ⟨good.ids, good.due, fun id row found regular =>
    ⟨fun time at_ => good.pass time at_ id row found regular,
      fun time at_ => good.past time at_ id row found regular⟩⟩

/-- A blocklist that was updated on the first of January 2024, a minute before midnight. -/
def newYearSite : Site where
  db := (insertSource {} "https://lists.example/ads".toList "blocklist".toList 24).updateSourceStatus
    (SqlCalendar.text 1704153540) 1 (okStatus 10)

/-- The next day it is due by the second check; its refresh fails, which counts. -/
def newYearEvents : List (Int × RefreshEvent) :=
  [(1704239939, .check {}), (1704240539, .check {}),
    (1704240546, .refresh { fetched := .error "timeout".toList }), (1704241139, .check {})]

theorem stamped_newYearSite : Stamped newYearSite.db 1704153600 := by
  have rows : newYearSite.db.sources.values.map SourceRow.lastUpdated =
      [some (SqlCalendar.text 1704153540)] := by
    decide +kernel
  intro row mem last updated
  have listed := List.mem_map_of_mem (f := SourceRow.lastUpdated) mem
  rw [rows, List.mem_singleton] at listed
  obtain rfl := Option.some.inj (updated.symm.trans listed)
  exact ⟨1704153540, by unfold IsTime; decide, by decide, rfl⟩

theorem upToDate_of_exec_newYear :
    ∃ s row, (autoRefresh .ascii fun _ => 0).exec
        { site := newYearSite, now := 1704153600 } newYearEvents = some s ∧
      s.site.db.sources.find? 1 = some row ∧ s.LookedAfter 1 row 1704240539 := by
  have ends : ((autoRefresh .ascii fun _ => 0).exec
      { site := newYearSite, now := 1704153600 } newYearEvents).map
        (fun s => (s.passed, (s.site.db.sources.find? 1).map
          fun row => (row.enabled, row.updateIntervalHours))) =
      some (some 1704240539, some (1, 24)) := by
    decide +kernel
  obtain ⟨s, run, facts⟩ := Option.map_eq_some_iff.mp ends
  obtain ⟨passed, found⟩ := Prod.mk.inj facts
  obtain ⟨row, found, columns⟩ := Option.map_eq_some_iff.mp found
  obtain ⟨enabled, hours⟩ := Prod.mk.inj columns
  have regular : row.Regular := ⟨enabled, by rw [hours]; decide⟩
  exact ⟨s, row, run, found, ((upToDate_of_exec ⟨rfl, rfl, rfl⟩ (by unfold IsTime; decide)
    stamped_newYearSite run).2.2 1 row found regular).2 _ passed⟩

end Runs

end RustBlocker
