import RustBlocker.Handler
import RustBlocker.Library.SqlTime
import RustBlocker.Library.StateMachine

/-!
# The writer of the query log

Every entry goes through a channel to one task, which collects them in a batch and inserts the
batch in one transaction.  The task waits for an entry, for a tick of its interval, or for the
end of the channel.

* **A flush** takes the batch out before the blocking insert runs.  While it runs the task does
  nothing else, and entries gather in the channel.
* **Failures.**  No connection, no transaction or a failing commit loses the batch, and so does a
  blocking task that is not run; an `INSERT` that fails loses its entry.
* **Pruning** is the last statement of a flush, and is asked of the whole table.  It runs outside
  of the transaction, so rows may be deleted although those of the batch are lost.
* **The account**, read by no step, is the entries the channel accepted and the flushes that
  came to an end, each with what it met.

`losesNothing_of_exec` is the account of every run.  It has two halves.  The entries are followed
from the channel to the flush that took them, and what a flush inserts is compared with what it
took (`Sound`).  The table is followed from the other side: at any time it is what the deletes
of the flushes have left of the rows they inserted (`Stored`).  The second half is what ties the
account to the database; without it, a flush that inserts nothing would lose nothing.

### What is left to chance

A schedule is any list of events, so the order of receives, ticks and the end of the channel is
free, and so is the moment at which a blocking insert ends.  What an insert meets is its
`FlushWeather`: each statement may fail on its own, and no relation is assumed between the times
at which rows are inserted and the time at which old ones are deleted.
-/

namespace RustBlocker

open SqlTime (Timestamp)

/-- `BATCH_SIZE` -/
def batchSize : Nat := 100

/-- The capacity of the channel. -/
def logChannelCapacity : Nat := 4096

/-- A row of `query_log`, whose columns are the texts of the entry. -/
structure LoggedRow where
  timestamp : Timestamp
  entry : QueryEntry

/-- What `flush_entries` meets: which of its operations succeed, and the times at which rows are
written and deleted. -/
structure FlushWeather where
  /-- The blocking task is run to its end. -/
  runs : Bool := true
  connects : Bool := true
  begins : Bool := true
  /-- The `INSERT` of the entry at a position succeeds. -/
  inserts : Nat → Bool := fun _ => true
  commits : Bool := true
  prunes : Bool := true
  /-- The time at which the entry at a position is inserted. -/
  now : Nat → Timestamp
  /-- The time at which old rows are deleted. -/
  prunedAt : Timestamp

/-! ## Flushing

One flush on the table: a transaction that inserts the rows of the batch, and a delete of what is
too old.  Each statement may fail, and what remains is told for each of these cases. -/

namespace FlushWeather

variable (weather : FlushWeather)

/-- `execute` of one `INSERT`; a latency is bound as an `i64`. -/
def executes (position : Nat) (entry : QueryEntry) : Bool :=
  weather.inserts position && entry.latencyUs.all fun us => us.toNat < 2 ^ 63

/-- The rows of a loop over some entries, from a position on. -/
def executed (position : Nat) : List QueryEntry → List LoggedRow
  | [] => []
  | entry :: rest =>
      if weather.executes position entry then
        { timestamp := weather.now position, entry } :: executed (position + 1) rest
      else executed (position + 1) rest

/-- The transaction can be begun. -/
def opens : Bool := weather.runs && weather.connects && weather.begins

/-- The rows that are inserted, before any is pruned. -/
def insertedRows (entries : List QueryEntry) : List LoggedRow :=
  if weather.opens && weather.commits then weather.executed 0 entries else []

/-- `DELETE FROM query_log WHERE timestamp < datetime('now', '-N days')`, where rows are not kept
for ever. -/
def pruned (retentionDays : UInt64) (rows : List LoggedRow) : List LoggedRow :=
  if weather.opens && weather.prunes && decide (0 < retentionDays) then
    rows.filter fun row =>
      !row.timestamp.before (SqlTime.daysBefore weather.prunedAt.unix retentionDays.toNat)
  else rows

/-- The flush does not delete the row: it deletes none, or the row is not that old. -/
def keeps (retentionDays : UInt64) (row : LoggedRow) : Bool :=
  !(weather.opens && weather.prunes && decide (0 < retentionDays) &&
    row.timestamp.before (SqlTime.daysBefore weather.prunedAt.unix retentionDays.toNat))

/-- `flush_entries` -/
def flushEntries (retentionDays : UInt64) (rows : List LoggedRow) (entries : List QueryEntry) :
    List LoggedRow :=
  weather.pruned retentionDays (rows ++ weather.insertedRows entries)

/-- Every operation of the database succeeds. -/
structure Succeeds (entries : List QueryEntry) : Prop where
  opens : weather.opens = true
  executes : ∀ position entry, entries[position]? = some entry →
    weather.executes position entry = true
  commits : weather.commits = true

/-- What is inserted are some of the entries, in their order. -/
theorem executed_sublist (position : Nat) (entries : List QueryEntry) :
    ((weather.executed position entries).map LoggedRow.entry).Sublist entries := by
  induction entries generalizing position with
  | nil => exact .slnil
  | cons entry rest ih =>
      unfold executed
      split
      · exact (ih (position + 1)).cons_cons entry
      · exact (ih (position + 1)).cons entry

theorem executed_eq {position : Nat} {entries : List QueryEntry}
    (all : ∀ offset entry, entries[offset]? = some entry →
      weather.executes (position + offset) entry = true) :
    (weather.executed position entries).map LoggedRow.entry = entries := by
  induction entries generalizing position with
  | nil => rfl
  | cons entry rest ih =>
      have later : (weather.executed (position + 1) rest).map LoggedRow.entry = rest := by
        refine ih fun offset other here => ?_
        rw [Nat.add_assoc, Nat.add_comm 1]
        exact all (offset + 1) other here
      have here : weather.executes position entry = true := all 0 entry rfl
      unfold executed
      rw [if_pos here, List.map_cons, later]

theorem insertedRows_sublist (entries : List QueryEntry) :
    ((weather.insertedRows entries).map LoggedRow.entry).Sublist entries := by
  unfold insertedRows
  split
  · exact weather.executed_sublist 0 entries
  · exact List.nil_sublist entries

/-- **A flush that succeeds** inserts its entries, each once and in order. -/
theorem Succeeds.insertedRows {entries : List QueryEntry} (succeeds : weather.Succeeds entries) :
    (weather.insertedRows entries).map LoggedRow.entry = entries := by
  rw [FlushWeather.insertedRows, succeeds.opens, succeeds.commits, Bool.and_self, if_pos rfl]
  refine weather.executed_eq fun offset entry here => ?_
  rw [Nat.zero_add]
  exact succeeds.executes offset entry here

/-- Each row is pruned for itself. -/
theorem pruned_eq_filter (retentionDays : UInt64) (rows : List LoggedRow) :
    weather.pruned retentionDays rows = rows.filter (weather.keeps retentionDays) := by
  unfold pruned keeps
  split
  next prunes => simp only [prunes, Bool.true_and]
  next rests =>
    rw [Bool.not_eq_true] at rests
    simp only [rests, Bool.false_and, Bool.not_false, List.filter_true]

end FlushWeather

/-! ## The task

The task waits for an entry or for the timer, and flushes in a blocking call, during which it
receives nothing.  The list of flushes that have ended is the account; nothing reads it. -/

/-- Where the task stands. -/
inductive WriterPhase where
  /-- In `select!`. -/
  | waits
  /-- A flush of these entries runs, after which the task waits again or returns. -/
  | flushing (entries : List QueryEntry) (retentionDays : UInt64) (returns : Bool)
  | returned

/-- A flush that came to an end, as the account has it: its batch, the retention it has read, and
what it met. -/
structure EndedFlush where
  /-- The batch it was begun with. -/
  entries : List QueryEntry
  retentionDays : UInt64
  weather : FlushWeather

namespace EndedFlush

/-- The rows that it inserted. -/
def rows (flush : EndedFlush) : List LoggedRow := flush.weather.insertedRows flush.entries

/-- The entries whose rows it inserted. -/
def inserted (flush : EndedFlush) : List QueryEntry := flush.rows.map LoggedRow.entry

/-- Every operation of the flush succeeded. -/
def Succeeded (flush : EndedFlush) : Prop := flush.weather.Succeeds flush.entries

/-- Its delete does not take the row. -/
def keeps (flush : EndedFlush) (row : LoggedRow) : Bool :=
  flush.weather.keeps flush.retentionDays row

/-- The rows that the flushes inserted and none of them deleted, neither the one that inserted
the row nor a later one. -/
def remaining : List EndedFlush → List LoggedRow
  | [] => []
  | flush :: later =>
      (flush.rows.filter fun row => (flush :: later).all fun other => other.keeps row) ++
        remaining later

/-- **No flush deletes a row**, neither one of its own nor one of an earlier flush. -/
structure Unpruned (flushes : List EndedFlush) : Prop where
  own : ∀ flush ∈ flushes, ∀ row ∈ flush.rows, flush.keeps row = true
  earlier : flushes.Pairwise fun before flush => ∀ row ∈ before.rows, flush.keeps row = true

/-- **One more flush** inserts its rows, and deletes what it does not keep. -/
theorem remaining_concat (flushes : List EndedFlush) (flush : EndedFlush) :
    remaining (flushes ++ [flush]) =
      (remaining flushes ++ flush.rows).filter flush.keeps := by
  induction flushes with
  | nil =>
      rw [List.nil_append, remaining, remaining, remaining, List.append_nil, List.nil_append]
      exact List.filter_congr fun row _ => by simp
  | cons first rest ih =>
      rw [List.cons_append, remaining, remaining, ih, List.filter_append, List.filter_append,
        List.filter_append, List.filter_filter, List.append_assoc]
      congr 1
      refine List.filter_congr fun row _ => ?_
      have one : [flush].all (fun other => other.keeps row) = flush.keeps row := by
        rw [List.all_cons, List.all_nil, Bool.and_true]
      rw [← List.cons_append, List.all_append, one, Bool.and_comm]

/-- Where no flush deletes a row, all that were inserted remain. -/
theorem remaining_of_unpruned {flushes : List EndedFlush} (unpruned : Unpruned flushes) :
    remaining flushes = flushes.flatMap rows := by
  induction flushes with
  | nil => rfl
  | cons flush later ih =>
      obtain ⟨own, earlier⟩ := unpruned
      obtain ⟨here, earlier⟩ := List.pairwise_cons.mp earlier
      rw [remaining, List.flatMap_cons,
        ih ⟨fun other mem => own other (List.mem_cons_of_mem flush mem), earlier⟩,
        List.filter_eq_self.mpr]
      intro row mem
      rw [List.all_eq_true]
      intro other among
      rcases List.mem_cons.mp among with rfl | among
      · exact own other List.mem_cons_self row mem
      · exact here other among row mem

end EndedFlush

/-- The task, its channel, the table, and the account of the last two fields: what was accepted,
and which flushes have ended. -/
structure LogWriter where
  channel : List QueryEntry := []
  /-- No sender is left. -/
  closed : Bool := false
  batch : List QueryEntry := []
  phase : WriterPhase := .waits
  /-- The table `query_log`. -/
  rows : List LoggedRow := []
  /-- The entries that the channel took, in the order in which it did. -/
  accepted : List QueryEntry := []
  flushes : List EndedFlush := []

/-- What happens to the task or to its channel; a flush reads the retention when it begins. -/
inductive WriterEvent where
  /-- An entry is offered to the channel. -/
  | record (entry : QueryEntry)
  /-- The last sender is dropped. -/
  | close
  | receive (retentionDays : UInt64)
  /-- `recv` returns `None`. -/
  | ends (retentionDays : UInt64)
  | tick (retentionDays : UInt64)
  /-- The blocking insert is over. -/
  | flushed (weather : FlushWeather)

namespace LogWriter

variable (s : LogWriter)

/-- The task waits again or returns. -/
def next (returns : Bool) : WriterPhase := if returns then .returned else .waits

/-- `flush` up to the blocking insert; an empty batch is not flushed. -/
def flush (retentionDays : UInt64) (returns : Bool) : LogWriter :=
  if s.batch.isEmpty then { s with phase := next returns }
  else { s with batch := [], phase := .flushing s.batch retentionDays returns }

/-- An entry is received. -/
def push (entry : QueryEntry) (rest : List QueryEntry) (retentionDays : UInt64) : LogWriter :=
  let s := { s with channel := rest, batch := s.batch ++ [entry] }
  if batchSize ≤ s.batch.length then s.flush retentionDays false else s

def step (event : WriterEvent) : Option LogWriter :=
  match s.phase, event with
  -- `try_send`: an entry that finds the channel full is dropped
  | _, .record entry =>
      if s.closed then none
      else if s.channel.length < logChannelCapacity then
        some { s with channel := s.channel ++ [entry], accepted := s.accepted ++ [entry] }
      else some s
  | _, .close => if s.closed then none else some { s with closed := true }
  | .waits, .receive retentionDays =>
      match s.channel with
      | [] => none
      | entry :: rest => some (s.push entry rest retentionDays)
  | .waits, .ends retentionDays =>
      if s.closed && s.channel.isEmpty then some (s.flush retentionDays true) else none
  | .waits, .tick retentionDays => some (s.flush retentionDays false)
  | .flushing entries retentionDays returns, .flushed weather =>
      some { s with
        rows := weather.flushEntries retentionDays s.rows entries
        phase := next returns
        flushes := s.flushes ++ [{ entries, retentionDays, weather }] }
  | _, _ => none

/-- The entries of the flush that runs. -/
def taken : List QueryEntry :=
  match s.phase with
  | .flushing entries _ _ => entries
  | _ => []

/-- The entries of all rows that were inserted. -/
def inserted : List QueryEntry := s.flushes.flatMap EndedFlush.inserted

end LogWriter

/-- The task, its channel and the database. -/
def logWriting : StateMachine LogWriter WriterEvent where
  init s := s = {}
  step s event := s.step event

/-! ## What the task keeps

An entry moves from the channel to the batch, from there to the flush, and from there into the
account. The invariant says that these places together have what was accepted, in order. -/

namespace LogWriter

variable {s t : LogWriter}

/-- What holds of the task throughout: every accepted entry is in one place, in order, and the
task returns only when nothing can come any more. -/
structure Sound (s : LogWriter) : Prop where
  /-- Every accepted entry is in one place, and the places are in order. -/
  order : s.flushes.flatMap EndedFlush.entries ++ s.taken ++ s.batch ++ s.channel = s.accepted
  /-- The loop waits with less than a batch. -/
  short : s.phase = .waits → s.batch.length < batchSize
  /-- The batch is empty while it is flushed, and in the end. -/
  emptied : s.phase ≠ .waits → s.batch = []
  /-- The last flush is begun when nothing can be received any more. -/
  last : ∀ entries retentionDays, s.phase = .flushing entries retentionDays true →
    s.channel = [] ∧ s.closed = true
  returned : s.phase = .returned → s.channel = [] ∧ s.closed = true

theorem sound_empty : Sound {} := by
  refine ⟨rfl, fun _ => ?_, fun other => absurd rfl other, fun _ _ phase => ?_, fun phase => ?_⟩
  · show 0 < batchSize
    decide
  · cases phase
  · cases phase

/-- The batch is empty, or a flush of it begins. -/
theorem flush_cases (s : LogWriter) (retentionDays : UInt64) (returns : Bool) :
    s.batch = [] ∧ s.flush retentionDays returns = { s with phase := next returns } ∨
      s.batch ≠ [] ∧ s.flush retentionDays returns =
        { s with batch := [], phase := .flushing s.batch retentionDays returns } := by
  unfold flush
  by_cases empty : s.batch = []
  · exact Or.inl ⟨empty, if_pos (List.isEmpty_iff.mpr empty)⟩
  · exact Or.inr ⟨empty, if_neg fun same => empty (List.isEmpty_iff.mp same)⟩

/-- **A flush begins**, with the entries of the batch in the hands of the blocking insert. -/
theorem sound_flush
    (order : s.flushes.flatMap EndedFlush.entries ++ s.batch ++ s.channel = s.accepted)
    {returns : Bool} (last : returns = true → s.channel = [] ∧ s.closed = true)
    (retentionDays : UInt64) : Sound (s.flush retentionDays returns) := by
  rcases s.flush_cases retentionDays returns with ⟨empty, same⟩ | ⟨-, same⟩
  · rw [same]
    cases returns with
    | false =>
        refine ⟨?_, fun _ => ?_, fun _ => empty, fun _ _ phase => ?_, fun phase => ?_⟩
        · show s.flushes.flatMap EndedFlush.entries ++ [] ++ s.batch ++ s.channel = s.accepted
          rw [List.append_nil]
          exact order
        · show s.batch.length < batchSize
          rw [empty]
          decide
        · cases phase
        · cases phase
    | true =>
        refine ⟨?_, fun phase => ?_, fun _ => empty, fun _ _ phase => ?_, fun _ => last rfl⟩
        · show s.flushes.flatMap EndedFlush.entries ++ [] ++ s.batch ++ s.channel = s.accepted
          rw [List.append_nil]
          exact order
        · cases phase
        · cases phase
  · rw [same]
    refine ⟨?_, fun phase => ?_, fun _ => rfl, fun _ _ phase => ?_, fun phase => ?_⟩
    · show s.flushes.flatMap EndedFlush.entries ++ s.batch ++ [] ++ s.channel = s.accepted
      rw [List.append_nil]
      exact order
    · cases phase
    · cases phase
      exact last rfl
    · cases phase

/-- An entry that is received moves from the channel to the batch. -/
theorem Sound.push (sound : Sound s) (waits : s.phase = .waits) {entry : QueryEntry}
    {rest : List QueryEntry} (here : s.channel = entry :: rest) (retentionDays : UInt64) :
    Sound (s.push entry rest retentionDays) := by
  have order : s.flushes.flatMap EndedFlush.entries ++ (s.batch ++ [entry]) ++ rest =
      s.accepted := by
    have before := sound.order
    rw [taken, waits, here, List.append_nil] at before
    rw [← before, List.append_assoc, List.append_assoc, List.append_assoc]
    rfl
  unfold LogWriter.push
  simp only
  split
  next =>
    exact sound_flush (s := { s with channel := rest, batch := s.batch ++ [entry] }) order
      (fun goesOn => by cases goesOn) retentionDays
  next few =>
    refine ⟨?_, fun _ => not_le.mp few, fun other => absurd waits other, fun _ _ phase => ?_,
      fun phase => ?_⟩
    · show s.flushes.flatMap EndedFlush.entries ++ s.taken ++ (s.batch ++ [entry]) ++ rest = _
      rw [taken, waits, List.append_nil]
      exact order
    · cases waits.symm.trans phase
    · cases waits.symm.trans phase

/-- **What a step can do.** -/
theorem step_cases {event : WriterEvent} (one : s.step event = some t) :
    (∃ entry, event = .record entry ∧ s.closed = false ∧
      (t = { s with channel := s.channel ++ [entry], accepted := s.accepted ++ [entry] } ∨
        t = s)) ∨
    (event = .close ∧ t = { s with closed := true }) ∨
    (∃ retentionDays entry rest, s.phase = .waits ∧ s.channel = entry :: rest ∧
      event = .receive retentionDays ∧ t = s.push entry rest retentionDays) ∨
    (∃ retentionDays, s.phase = .waits ∧ event = .ends retentionDays ∧ s.closed = true ∧
      s.channel = [] ∧ t = s.flush retentionDays true) ∨
    (∃ retentionDays, s.phase = .waits ∧ event = .tick retentionDays ∧
      t = s.flush retentionDays false) ∨
    (∃ entries retentionDays returns weather,
      s.phase = .flushing entries retentionDays returns ∧ event = .flushed weather ∧
      t = { s with
        rows := weather.flushEntries retentionDays s.rows entries
        phase := next returns
        flushes := s.flushes ++ [{ entries, retentionDays, weather }] }) := by
  unfold step at one
  split at one
  next entry =>
    split at one
    next => cases one
    next opened =>
      refine Or.inl ⟨entry, rfl, Bool.eq_false_iff.mpr opened, ?_⟩
      split at one
      · exact Or.inl (Option.some.inj one).symm
      · exact Or.inr (Option.some.inj one).symm
  next =>
    split at one
    · cases one
    · exact Or.inr (Or.inl ⟨rfl, (Option.some.inj one).symm⟩)
  next retentionDays waits =>
    split at one
    next => cases one
    next entry rest here =>
      exact Or.inr (Or.inr (Or.inl ⟨retentionDays, entry, rest, waits, here, rfl,
        (Option.some.inj one).symm⟩))
  next retentionDays waits =>
    split at one
    next nothing =>
      rw [Bool.and_eq_true, List.isEmpty_iff] at nothing
      exact Or.inr (Or.inr (Or.inr (Or.inl ⟨retentionDays, waits, rfl, nothing.1, nothing.2,
        (Option.some.inj one).symm⟩)))
    next => cases one
  next retentionDays waits =>
    exact Or.inr (Or.inr (Or.inr (Or.inr (Or.inl ⟨retentionDays, waits, rfl,
      (Option.some.inj one).symm⟩))))
  next entries retentionDays returns weather flushes =>
    exact Or.inr (Or.inr (Or.inr (Or.inr (Or.inr ⟨entries, retentionDays, returns, weather,
      flushes, rfl, (Option.some.inj one).symm⟩))))
  next => cases one

/-- **Every step keeps what the task keeps.** -/
theorem Sound.step (sound : Sound s) {event : WriterEvent} (one : s.step event = some t) :
    Sound t := by
  have waiting (waits : s.phase = .waits) :
      s.flushes.flatMap EndedFlush.entries ++ s.batch ++ s.channel = s.accepted := by
    have order := sound.order
    rw [taken, waits, List.append_nil] at order
    exact order
  rcases step_cases one with ⟨entry, -, opened, rfl | rfl⟩ | ⟨-, rfl⟩ |
    ⟨retentionDays, entry, rest, waits, here, -, rfl⟩ |
    ⟨retentionDays, waits, -, closed, empty, rfl⟩ |
    ⟨retentionDays, waits, -, rfl⟩ | ⟨entries, retentionDays, returns, weather, flushes, -, rfl⟩
  · -- an entry that is accepted comes last
    refine { sound with order := ?_, last := fun _ _ phase => ?_, returned := fun phase => ?_ }
    · show s.flushes.flatMap EndedFlush.entries ++ s.taken ++ s.batch ++ (s.channel ++ [entry]) =
        s.accepted ++ [entry]
      rw [← sound.order, List.append_assoc _ s.channel]
    · cases opened.symm.trans (sound.last _ _ phase).2
    · cases opened.symm.trans (sound.returned phase).2
  · exact sound
  · exact { sound with
      last := fun entries retentionDays phase => ⟨(sound.last entries retentionDays phase).1, rfl⟩
      returned := fun phase => ⟨(sound.returned phase).1, rfl⟩ }
  · exact sound.push waits here retentionDays
  · exact sound_flush (waiting waits) (fun _ => ⟨empty, closed⟩) retentionDays
  · exact sound_flush (waiting waits) (fun goesOn => by cases goesOn) retentionDays
  · have emptied : s.batch = [] := sound.emptied (by rw [flushes]; exact WriterPhase.noConfusion)
    have order : (s.flushes ++ [EndedFlush.mk entries retentionDays weather]).flatMap
        EndedFlush.entries ++ [] ++ s.batch ++ s.channel = s.accepted := by
      have before := sound.order
      rw [taken, flushes] at before
      rw [List.flatMap_append, List.flatMap_singleton, List.append_nil]
      exact before
    cases returns with
    | false =>
        refine ⟨order, fun _ => ?_, fun _ => emptied, fun _ _ phase => ?_, fun phase => ?_⟩
        · show s.batch.length < batchSize
          rw [emptied]
          decide
        · cases phase
        · cases phase
    | true =>
        refine ⟨order, fun phase => ?_, fun _ => emptied, fun _ _ phase => ?_, fun _ => ?_⟩
        · cases phase
        · cases phase
        · exact sound.last entries retentionDays flushes

theorem sound_of_reachable (reach : logWriting.Reachable s) : Sound s := by
  refine reach.invariant ?_ fun s event t sound one => sound.step one
  rintro _ rfl
  exact sound_empty

/-! ## The table -/

/-- **The table is what the deletes have left** of the rows that were inserted, by whatever flush
they were. -/
def Stored (s : LogWriter) : Prop := s.rows = EndedFlush.remaining s.flushes

theorem Stored.flush (stored : Stored s) (retentionDays : UInt64) (returns : Bool) :
    Stored (s.flush retentionDays returns) := by
  rcases s.flush_cases retentionDays returns with ⟨-, same⟩ | ⟨-, same⟩
  · rw [same]
    exact stored
  · rw [same]
    exact stored

theorem Stored.push (stored : Stored s) (entry : QueryEntry) (rest : List QueryEntry)
    (retentionDays : UInt64) : Stored (s.push entry rest retentionDays) := by
  have moved : Stored { s with channel := rest, batch := s.batch ++ [entry] } := stored
  unfold LogWriter.push
  simp only
  split
  · exact moved.flush retentionDays false
  · exact moved

/-- Nothing but the end of a flush touches the table. -/
theorem Stored.step (stored : Stored s) {event : WriterEvent} (one : s.step event = some t) :
    Stored t := by
  rcases step_cases one with ⟨entry, -, -, rfl | rfl⟩ | ⟨-, rfl⟩ |
    ⟨retentionDays, entry, rest, -, -, -, rfl⟩ | ⟨retentionDays, -, -, -, -, rfl⟩ |
    ⟨retentionDays, -, -, rfl⟩ | ⟨entries, retentionDays, returns, weather, -, -, rfl⟩
  · exact stored
  · exact stored
  · exact stored
  · exact stored.push entry rest retentionDays
  · exact stored.flush retentionDays true
  · exact stored.flush retentionDays false
  · show weather.pruned retentionDays (s.rows ++ weather.insertedRows entries) = _
    have before : s.rows = EndedFlush.remaining s.flushes := stored
    rw [weather.pruned_eq_filter, before, EndedFlush.remaining_concat]
    rfl

theorem stored_of_reachable (reach : logWriting.Reachable s) : Stored s := by
  refine reach.invariant ?_ fun s event t stored one => stored.step one
  rintro _ rfl
  rfl

/-! ## Nothing is lost

What is in the table is what the flushes have inserted and none of them has deleted.  If no flush
deletes a row, this is all that was inserted. -/

/-- **Nothing is lost and nothing is there twice**, but for what failing flushes lose of their
own batches. -/
structure LosesNothing (s : LogWriter) : Prop where
  /-- Every accepted entry is in one place, in the order of acceptance: in a flush that is over,
  in the one that runs, in the batch or in the channel. -/
  order : s.flushes.flatMap EndedFlush.entries ++ s.taken ++ s.batch ++ s.channel = s.accepted
  /-- With a database that succeeds, and no flush running, the rows that were inserted, the batch
  and the channel are what was accepted. -/
  exact : (∀ flush ∈ s.flushes, flush.Succeeded) → s.taken = [] →
    s.inserted ++ s.batch ++ s.channel = s.accepted
  /-- A flush runs only while the loop does not wait and has not returned. -/
  idle : s.phase = .waits ∨ s.phase = .returned → s.taken = []
  /-- A flush inserts no other entries than its own, each at most once and in order. -/
  own : ∀ flush ∈ s.flushes, flush.inserted.Sublist flush.entries
  /-- Whatever other flushes lose, one that succeeds inserts all of its entries. -/
  all : ∀ flush ∈ s.flushes, flush.Succeeded → flush.inserted = flush.entries
  /-- If one flush fails, the entries before its batch and after it are inserted all the same. -/
  failing : ∀ before failed after, s.flushes = before ++ failed :: after →
    (∀ flush ∈ before ++ after, flush.Succeeded) →
    s.inserted = before.flatMap EndedFlush.entries ++ failed.inserted ++
      after.flatMap EndedFlush.entries
  /-- The loop waits with less than a batch. -/
  short : s.phase = .waits → s.batch.length < batchSize
  /-- The writer returns with an empty batch, and nothing is left in the channel. -/
  returned : s.phase = .returned → s.batch = [] ∧ s.channel = []
  /-- The table holds what was inserted and not pruned, in the order of the flushes and, in a
  flush, of its entries. -/
  table : s.rows = EndedFlush.remaining s.flushes
  /-- Where nothing is pruned, the table holds what was inserted. -/
  whole : EndedFlush.Unpruned s.flushes → s.rows.map LoggedRow.entry = s.inserted

/-- With a database that succeeds, what was inserted is what was flushed. -/
theorem flatMap_inserted {flushes : List EndedFlush}
    (succeeded : ∀ flush ∈ flushes, flush.Succeeded) :
    flushes.flatMap EndedFlush.inserted = flushes.flatMap EndedFlush.entries :=
  List.flatMap_congr fun flush mem =>
    FlushWeather.Succeeds.insertedRows flush.weather (succeeded flush mem)

theorem losesNothing_of_reachable (reach : logWriting.Reachable s) : s.LosesNothing := by
  have sound := sound_of_reachable reach
  have stored : s.rows = EndedFlush.remaining s.flushes := stored_of_reachable reach
  refine
    { order := sound.order
      exact := ?_
      idle := ?_
      own := fun flush _ => flush.weather.insertedRows_sublist flush.entries
      all := fun flush _ succeeded => FlushWeather.Succeeds.insertedRows flush.weather succeeded
      failing := ?_
      short := sound.short
      returned := ?_
      table := stored
      whole := ?_ }
  · intro succeeded idle
    rw [LogWriter.inserted, LogWriter.flatMap_inserted succeeded, ← sound.order, idle,
      List.append_nil]
  · rintro (phase | phase) <;> rw [LogWriter.taken, phase]
  · intro before failed after same succeeded
    have first := LogWriter.flatMap_inserted fun flush mem =>
      succeeded flush (List.mem_append_left after mem)
    have later := LogWriter.flatMap_inserted fun flush mem =>
      succeeded flush (List.mem_append_right before mem)
    rw [LogWriter.inserted, same, List.flatMap_append, List.flatMap_cons, first, later,
      List.append_assoc]
  · intro phase
    exact ⟨sound.emptied (by rw [phase]; exact WriterPhase.noConfusion),
      (sound.returned phase).1⟩
  · intro unpruned
    rw [stored, EndedFlush.remaining_of_unpruned unpruned, LogWriter.inserted, List.map_flatMap]
    rfl

end LogWriter

/-- **The log writer loses and duplicates nothing**, for every sequence of entries and every
schedule of receives, ticks and the end of the channel. -/
theorem losesNothing_of_exec {events : List WriterEvent} {s : LogWriter}
    (run : logWriting.exec {} events = some s) : s.LosesNothing :=
  LogWriter.losesNothing_of_reachable ⟨_, events, rfl, run⟩

section Failing

/-- A query for a name, for the runs below. -/
def loggedQuery (domain : Str) : QueryEntry where
  clientIp := .v4 0xC0000201#32
  domain
  queryType := .a
  action := .forwarded

/-- The first second of 1970. -/
def epoch : Timestamp := ⟨0, by decide, by decide⟩

/-- The first second of the third day of 1970. -/
def thirdDay : Timestamp := ⟨172800, by decide, by decide⟩

/-- A flush that fails, between two that do not; the last one prunes what is older than a day. -/
def failingFlushEvents : List WriterEvent :=
  [.record (loggedQuery "a".toList), .receive 1, .tick 1,
    .flushed { now := fun _ => epoch, prunedAt := epoch },
    .record (loggedQuery "b".toList), .receive 1, .tick 1,
    .record (loggedQuery "c".toList),
    .flushed { commits := false, now := fun _ => epoch, prunedAt := epoch },
    .receive 1, .close, .ends 1, .flushed { now := fun _ => thirdDay, prunedAt := thirdDay }]

theorem losesNothing_of_exec_failing :
    ∃ s, logWriting.exec {} failingFlushEvents = some s ∧ s.LosesNothing := by
  have runs : (logWriting.exec {} failingFlushEvents).isSome = true := rfl
  obtain ⟨s, run⟩ := Option.isSome_iff_exists.mp runs
  exact ⟨s, run, losesNothing_of_exec run⟩

/-- The batch of the flush that fails is lost, and no other one; the first row is pruned. -/
example : (logWriting.exec {} failingFlushEvents).map
    (fun s => (s.inserted.map QueryEntry.domain, s.rows.map fun row => row.entry.domain)) =
      some (["a".toList, "c".toList], ["c".toList]) := rfl

end Failing

end RustBlocker
