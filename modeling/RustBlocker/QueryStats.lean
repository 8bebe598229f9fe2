import RustBlocker.Library.SqlLog
import RustBlocker.Library.SqlTop
import RustBlocker.Recording

/-!
# The statistics of the query log

What the API shows of the logged queries: `get_stats` counts them and lists the most frequent
clients and domains, `get_queries` shows them a page at a time, and `clear` deletes them.

* **The table** has the rows of the writer under the ids that SQLite hands out.  A flush on the
  table is the flush of the writer (`values_flushTable`).
* **Each statement** of `get_stats` reads the table as it is when it runs, or fails; the writer
  may flush between two of them.  What fails is left empty.
* **Order.**  Among equal counts the engine chooses.  `AVG` is a division that is rounded down, as
  the cast of its result is as long as the sum of the latencies is below 2 to the 53.

`getStats_correct` says what the summary is, `counters_eq_getStats` when it agrees with the
counters in memory, and `mem_getQueries_of_browsing` that a reader of the pages skips nothing.

## What the results assume

* **The summary** needs nothing: each statement may find another table, and any of them may fail.
  Only the comparisons between two parts of a summary ask for one table behind all of them.
* **The counters** count what was recorded, the table what was inserted and has stayed.  They
  agree, but for the queries that were dropped, once the writer has returned, if no flush failed
  and none deleted a row.  The retention itself may be any.
* **The pages** are ordered by time and then by id, and `OFFSET` counts from the newest row.  A
  row can be skipped only if one that is already shown moves behind it, so a clock that is set
  back does it.  `Steady` excludes that: no flush gives a row an earlier time than a row that is
  there already has, nor than the row before it.  It is the host's clock of which this is asked,
  over the whole life of the table, and not of any clock of a client.  Without it the result is
  false.
* **No page is read while the table is cleared**; between two pages there are flushes and nothing
  else.
-/

namespace RustBlocker

/-! ## The table -/

/-- `query_log`, which has no unique column but its id. -/
abbrev QueryTable := SqlTable LoggedRow Unit fun _ => none

namespace FlushWeather

variable (weather : FlushWeather)

/-- The `DELETE` of `flush_entries`. -/
def prunedTable (retentionDays : UInt64) (table : QueryTable) : QueryTable :=
  if weather.opens && weather.prunes && decide (0 < retentionDays) then
    table.deleteWhere fun row =>
      row.2.timestamp.before (SqlTime.daysBefore weather.prunedAt.unix retentionDays.toNat)
  else table

/-- `flush_entries`, on the table. -/
def flushTable (retentionDays : UInt64) (table : QueryTable) (entries : List QueryEntry) :
    QueryTable :=
  weather.prunedTable retentionDays
    ((weather.insertedRows entries).foldl SqlTable.insertOrIgnore table)

end FlushWeather

/-- The calls of `clear`. -/
inductive ClearCall where
  | connection
  | delete
  | sequence
deriving DecidableEq

/-- `clear`, whose statements fail one by one. -/
def clearTable (fails : Plan ClearCall) (table : QueryTable) : QueryTable :=
  if (fails .connection).isSome then table
  else
    let table := if (fails .delete).isSome then table else table.deleteAll
    if (fails .sequence).isSome then table else table.resetSeq

/-! ## Counting

The statements of `get_stats` on a list of rows, and how their results are put together.  A
statement that fails leaves its part empty and does not stop the others. -/

structure UpstreamStats where
  resolver : Str
  count : Nat
  avgLatencyUs : Nat
  minLatencyUs : Nat
  maxLatencyUs : Nat
deriving DecidableEq, Repr

/-- `StatsSummary`, whose lists are of `ClientCount`s and `DomainCount`s, a text with its count
each. -/
structure StatsSummary where
  totalQueries : Nat := 0
  blocked : Nat := 0
  allowed : Nat := 0
  rewritten : Nat := 0
  forwarded : Nat := 0
  topClients : List (IpAddr × Nat) := []
  topDomains : List (Str × Nat) := []
  topBlockedDomains : List (Str × Nat) := []
  upstreamStats : List UpstreamStats := []

/-- The rows with an action. -/
def actionCount (action : QueryAction) (rows : List LoggedRow) : Nat :=
  rows.countP fun row => row.entry.action = action

/-- `WHERE action = 'blocked'` -/
def blockedRows (rows : List LoggedRow) : List LoggedRow :=
  rows.filter fun row => row.entry.action = .blocked

/-- `WHERE resolver IS NOT NULL AND resolver != ''` -/
def resolvedRows (rows : List LoggedRow) : List LoggedRow :=
  rows.filter fun row => row.entry.resolver.any fun resolver => resolver ≠ []

/-- The latencies of the rows of a resolver; the aggregates do not see a NULL. -/
def latencies (rows : List LoggedRow) (resolver : Str) : List Nat :=
  (rows.filter fun row => row.entry.resolver = some resolver).filterMap fun row =>
    row.entry.latencyUs.map UInt64.toNat

/-- The row of a resolver, which cannot be read where its aggregates are NULL. -/
def upstreamRow (rows : List LoggedRow) (group : Str × Nat) : Option UpstreamStats := do
  let least ← (latencies rows group.1).min?
  let most ← (latencies rows group.1).max?
  return {
    resolver := group.1
    count := group.2
    avgLatencyUs := (latencies rows group.1).sum / (latencies rows group.1).length
    minLatencyUs := least
    maxLatencyUs := most }

/-- The statements of `get_stats`. -/
inductive StatsCall where
  | totals
  | clients
  | domains
  | blockedDomains
  | upstreams
deriving DecidableEq

/-- `get_stats`, of what each statement reads; it reads nothing where it fails. -/
def getStats (engine : SqlTop.Engine) (reads : Option (StatsCall → Option (List LoggedRow)))
    (limit : Int) : StatsSummary :=
  match reads with
  | none => {}
  | some reads =>
      let totals := (reads .totals).getD []
      let resolver (row : LoggedRow) : Str := row.entry.resolver.getD []
      { totalQueries := totals.length
        blocked := actionCount .blocked totals
        allowed := actionCount .allowed totals
        rewritten := actionCount .rewritten totals
        forwarded := actionCount .forwarded totals
        topClients := ((reads .clients).map
          (SqlTop.top (fun row => row.entry.clientIp) engine limit)).getD []
        topDomains := ((reads .domains).map
          (SqlTop.top (fun row => row.entry.domain) engine limit)).getD []
        topBlockedDomains := ((reads .blockedDomains).map fun rows =>
          SqlTop.top (fun row => row.entry.domain) engine limit (blockedRows rows)).getD []
        upstreamStats := ((reads .upstreams).map fun rows =>
          (SqlTop.top resolver engine (-1) (resolvedRows rows)).filterMap
            (upstreamRow rows)).getD [] }

/-! ## Pages -/

structure QueryLogEntry where
  id : Nat
  timestamp : SqlTime.Timestamp
  clientIp : IpAddr
  domain : Str
  queryType : RecordType
  action : QueryAction
  resolver : Option Str
  latencyUs : Option UInt64

/-- A row as it is read. -/
def LoggedRow.shown (row : Nat × LoggedRow) : QueryLogEntry where
  id := row.1
  timestamp := row.2.timestamp
  clientIp := row.2.entry.clientIp
  domain := row.2.entry.domain
  queryType := row.2.entry.queryType
  action := row.2.entry.action
  resolver := row.2.entry.resolver
  latencyUs := row.2.entry.latencyUs

/-- `get_queries`, of the table if it can be read. -/
def getQueries (table : Option QueryTable) (limit offset : Int) : List QueryLogEntry :=
  match table with
  | none => []
  | some table =>
      (SqlQuery.page limit offset (SqlTop.descending Prod.fst table.rows)).map LoggedRow.shown

/-! ## What the summary is

Each part of the summary is specified on its own, by the rows that its statement has read.  For
the upstreams these are a count, the least and the largest latency, and an average that is rounded
down. -/

section Upstreams

variable {rows : List LoggedRow} {resolver : Str}

theorem mem_resolvedRows {row : LoggedRow} :
    row ∈ resolvedRows rows ↔
      row ∈ rows ∧ ∃ resolver, row.entry.resolver = some resolver ∧ resolver ≠ [] := by
  simp [resolvedRows, Option.any_eq_true]

/-- A resolver has as many rows with and without the `WHERE` clause. -/
theorem count_resolvedRows (named : resolver ≠ []) :
    SqlTop.count (fun row : LoggedRow => row.entry.resolver.getD []) (resolvedRows rows) resolver =
      rows.countP fun row => row.entry.resolver = some resolver := by
  rw [SqlTop.count, resolvedRows, List.countP_filter]
  refine List.countP_congr fun row _ => ?_
  cases held : row.entry.resolver with
  | none => simp
  | some other =>
      simp only [Option.getD_some, Option.any_some, Bool.and_eq_true, decide_eq_true_eq,
        Option.some.injEq]
      constructor
      · exact fun both => both.1
      · rintro rfl
        exact ⟨rfl, named⟩

theorem mem_latencies {latency : Nat} :
    latency ∈ latencies rows resolver ↔ ∃ row ∈ rows, row.entry.resolver = some resolver ∧
      row.entry.latencyUs.map UInt64.toNat = some latency := by
  simp only [latencies, List.mem_filterMap, List.mem_filter, decide_eq_true_eq]
  constructor
  · rintro ⟨row, ⟨mem, here⟩, same⟩
    exact ⟨row, mem, here, same⟩
  · rintro ⟨row, mem, here, same⟩
    exact ⟨row, ⟨mem, here⟩, same⟩

/-- The average of some numbers lies between the least and the largest of them. -/
theorem average_between {values : List Nat} {least most : Nat} (first : values.min? = some least)
    (last : values.max? = some most) :
    least ≤ values.sum / values.length ∧ values.sum / values.length ≤ most := by
  obtain ⟨inside, lower⟩ := List.min?_eq_some_iff.mp first
  obtain ⟨-, upper⟩ := List.max?_eq_some_iff.mp last
  have positive : 0 < values.length := List.length_pos_of_mem inside
  constructor
  · rw [Nat.le_div_iff_mul_le positive, Nat.mul_comm]
    exact List.card_nsmul_le_sum values least lower
  · rw [Nat.div_le_iff_le_mul_add_pred positive]
    have sum := List.sum_le_card_nsmul values most upper
    rw [smul_eq_mul] at sum
    omega

/-- **The statistics of the upstreams**: one row for each resolver with a latency, the most
frequent first, with its count and the average, least and largest latency. -/
structure UpstreamsOf (rows : List LoggedRow) (listed : List UpstreamStats) : Prop where
  nodup : (listed.map UpstreamStats.resolver).Nodup
  sorted : listed.Pairwise fun a b => b.count ≤ a.count
  exact : ∀ stats ∈ listed, stats.resolver ≠ [] ∧
    stats.count = rows.countP fun row => row.entry.resolver = some stats.resolver
  /-- The average is that of the latencies of the resolver, rounded down. -/
  average : ∀ stats ∈ listed, stats.avgLatencyUs =
    (latencies rows stats.resolver).sum / (latencies rows stats.resolver).length
  /-- The least and the largest latency occur, and all others lie in between. -/
  latency : ∀ stats ∈ listed,
    stats.minLatencyUs ≤ stats.avgLatencyUs ∧ stats.avgLatencyUs ≤ stats.maxLatencyUs ∧
    stats.minLatencyUs ∈ latencies rows stats.resolver ∧
    stats.maxLatencyUs ∈ latencies rows stats.resolver ∧
    ∀ latency ∈ latencies rows stats.resolver,
      stats.minLatencyUs ≤ latency ∧ latency ≤ stats.maxLatencyUs
  complete : ∀ resolver, resolver ≠ [] → latencies rows resolver ≠ [] →
    resolver ∈ listed.map UpstreamStats.resolver

theorem upstreamRow_eq_some {group : Str × Nat} {stats : UpstreamStats} :
    upstreamRow rows group = some stats ↔ ∃ least most,
      (latencies rows group.1).min? = some least ∧ (latencies rows group.1).max? = some most ∧
      stats = {
        resolver := group.1
        count := group.2
        avgLatencyUs := (latencies rows group.1).sum / (latencies rows group.1).length
        minLatencyUs := least
        maxLatencyUs := most } := by
  unfold upstreamRow
  simp only [Option.bind_eq_bind, Option.bind_eq_some_iff, Option.pure_def, Option.some.injEq]
  constructor
  · rintro ⟨least, first, most, last, rfl⟩
    exact ⟨least, most, first, last, rfl⟩
  · rintro ⟨least, most, first, last, rfl⟩
    exact ⟨least, first, most, last, rfl⟩

/-- What is read of the groups keeps their order and their keys. -/
theorem resolver_sublist (groups : List (Str × Nat)) :
    ((groups.filterMap (upstreamRow rows)).map UpstreamStats.resolver).Sublist
      (groups.map Prod.fst) := by
  induction groups with
  | nil => exact .slnil
  | cons group rest ih =>
      rw [List.filterMap_cons, List.map_cons]
      split
      next => exact ih.cons _
      next stats read =>
        obtain ⟨_, _, -, -, rfl⟩ := upstreamRow_eq_some.mp read
        exact ih.cons_cons _

theorem upstreamsOf_filterMap (engine : SqlTop.Engine) (rows : List LoggedRow) :
    UpstreamsOf rows ((SqlTop.top (fun row : LoggedRow => row.entry.resolver.getD []) engine (-1)
      (resolvedRows rows)).filterMap (upstreamRow rows)) := by
  have tops : SqlTop.Tops (fun row : LoggedRow => row.entry.resolver.getD []) (-1)
      (resolvedRows rows) _ := SqlTop.tops_top engine (-1) (resolvedRows rows)
  have read : ∀ stats ∈ (SqlTop.top (fun row : LoggedRow => row.entry.resolver.getD []) engine (-1)
      (resolvedRows rows)).filterMap (upstreamRow rows), stats.resolver ≠ [] ∧
        (stats.resolver, stats.count) ∈ SqlTop.top
          (fun row : LoggedRow => row.entry.resolver.getD []) engine (-1) (resolvedRows rows) ∧
        upstreamRow rows (stats.resolver, stats.count) = some stats := by
    intro stats mem
    obtain ⟨group, listed, here⟩ := List.mem_filterMap.mp mem
    have whole : (stats.resolver, stats.count) = group := by
      obtain ⟨_, _, -, -, same⟩ := upstreamRow_eq_some.mp here
      rw [same]
    refine ⟨fun nameless => ?_, whole ▸ listed, whole ▸ here⟩
    obtain ⟨counted, positive⟩ := tops.exact group listed
    rw [counted, SqlTop.count, List.countP_pos_iff] at positive
    obtain ⟨row, inside, key⟩ := positive
    obtain ⟨-, resolver, held, named⟩ := mem_resolvedRows.mp inside
    have same : row.entry.resolver.getD [] = group.1 := of_decide_eq_true key
    rw [held, Option.getD_some, ← whole] at same
    exact named (same.trans nameless)
  refine
    { nodup := tops.nodup.sublist (resolver_sublist _)
      sorted := ?_
      exact := ?_
      average := ?_
      latency := ?_
      complete := ?_ }
  · refine List.pairwise_filterMap.mpr (tops.sorted.imp fun order stats here stats' there => ?_)
    obtain ⟨_, _, -, -, rfl⟩ := upstreamRow_eq_some.mp here
    obtain ⟨_, _, -, -, rfl⟩ := upstreamRow_eq_some.mp there
    exact order
  · intro stats mem
    obtain ⟨named, listed, -⟩ := read stats mem
    exact ⟨named, (tops.exact _ listed).1.trans (count_resolvedRows named)⟩
  · intro stats mem
    obtain ⟨-, -, here⟩ := read stats mem
    obtain ⟨least, most, -, -, same⟩ := upstreamRow_eq_some.mp here
    rw [same]
  · intro stats mem
    obtain ⟨-, -, here⟩ := read stats mem
    obtain ⟨least, most, first, last, same⟩ := upstreamRow_eq_some.mp here
    obtain ⟨inside, lower⟩ := List.min?_eq_some_iff.mp first
    obtain ⟨inside', upper⟩ := List.max?_eq_some_iff.mp last
    have between := average_between first last
    rw [same]
    exact ⟨between.1, between.2, inside, inside', fun latency mem =>
      ⟨lower latency mem, upper latency mem⟩⟩
  · intro resolver named filled
    obtain ⟨latency, mem⟩ := List.exists_mem_of_ne_nil _ filled
    obtain ⟨row, inside, held, -⟩ := mem_latencies.mp mem
    have group : (resolver, SqlTop.count (fun row : LoggedRow => row.entry.resolver.getD [])
        (resolvedRows rows) resolver) ∈
          SqlTop.counts (fun row => row.entry.resolver.getD []) (resolvedRows rows) :=
      SqlTop.mem_counts.mpr ⟨⟨row, mem_resolvedRows.mpr ⟨inside, resolver, held, named⟩,
        by rw [held]; rfl⟩, rfl⟩
    have listed := (tops.perm_counts (Or.inl (by decide))).mem_iff.mpr group
    have ⟨least, first⟩ := Option.isSome_iff_exists.mp (List.isSome_min?_of_mem mem)
    have ⟨most, last⟩ := Option.isSome_iff_exists.mp (List.isSome_max?_of_mem mem)
    refine List.mem_map.mpr ⟨_, List.mem_filterMap.mpr ⟨_, listed,
      upstreamRow_eq_some.mpr ⟨least, most, first, last, rfl⟩⟩, rfl⟩

end Upstreams

/-- **A summary of the log**: exact in each part that could be read, and empty in the others. -/
structure Summarizes (reads : StatsCall → Option (List LoggedRow)) (limit : Int)
    (summary : StatsSummary) : Prop where
  /-- Every query is counted under one action. -/
  total : summary.totalQueries =
    summary.blocked + summary.allowed + summary.rewritten + summary.forwarded
  counted : ∀ rows, reads .totals = some rows → summary.totalQueries = rows.length ∧
    summary.blocked = actionCount .blocked rows ∧ summary.allowed = actionCount .allowed rows ∧
    summary.rewritten = actionCount .rewritten rows ∧
    summary.forwarded = actionCount .forwarded rows
  clients : ∀ rows, reads .clients = some rows →
    SqlTop.Tops (fun row : LoggedRow => row.entry.clientIp) limit rows summary.topClients
  domains : ∀ rows, reads .domains = some rows →
    SqlTop.Tops (fun row : LoggedRow => row.entry.domain) limit rows summary.topDomains
  blockedDomains : ∀ rows, reads .blockedDomains = some rows →
    SqlTop.Tops (fun row : LoggedRow => row.entry.domain) limit (blockedRows rows)
      summary.topBlockedDomains
  upstreams : ∀ rows, reads .upstreams = some rows → UpstreamsOf rows summary.upstreamStats
  failed : (reads .totals = none → summary.totalQueries = 0) ∧
    (reads .clients = none → summary.topClients = []) ∧
    (reads .domains = none → summary.topDomains = []) ∧
    (reads .blockedDomains = none → summary.topBlockedDomains = []) ∧
    (reads .upstreams = none → summary.upstreamStats = [])
  /-- Where all statements read the same table, the lists are within the totals. -/
  within : ∀ rows, (∀ call, reads call = some rows) →
    (summary.topClients.map Prod.snd).sum ≤ summary.totalQueries ∧
    (summary.topDomains.map Prod.snd).sum ≤ summary.totalQueries ∧
    (summary.topBlockedDomains.map Prod.snd).sum ≤ summary.blocked ∧
    (summary.upstreamStats.map UpstreamStats.count).sum ≤ summary.totalQueries

theorem length_eq_actionCount (rows : List LoggedRow) :
    rows.length = actionCount .blocked rows + actionCount .allowed rows +
      actionCount .rewritten rows + actionCount .forwarded rows := by
  have split := Recording.length_eq_countP (rows.map LoggedRow.entry)
  simp only [List.length_map, List.countP_map] at split
  exact split

/-- The counts of the upstreams that are listed are some of the groups. -/
theorem sum_count_filterMap (rows : List LoggedRow) (groups : List (Str × Nat)) :
    ((groups.filterMap (upstreamRow rows)).map UpstreamStats.count).sum ≤
      (groups.map Prod.snd).sum := by
  induction groups with
  | nil => exact le_refl _
  | cons group rest ih =>
      rw [List.filterMap_cons, List.map_cons, List.sum_cons]
      split
      next => omega
      next stats read =>
        obtain ⟨_, _, -, -, rfl⟩ := upstreamRow_eq_some.mp read
        rw [List.map_cons, List.sum_cons]
        exact Nat.add_le_add_left ih _

/-- **`get_stats` is right in every part it can read**, whatever table each of its statements
finds, and in whatever order the engine delivers the groups. -/
theorem getStats_correct (engine : SqlTop.Engine)
    (reads : StatsCall → Option (List LoggedRow)) (limit : Int) :
    Summarizes reads limit (getStats engine (some reads) limit) := by
  refine
    { total := length_eq_actionCount _
      counted := ?_
      clients := ?_
      domains := ?_
      blockedDomains := ?_
      upstreams := ?_
      failed := ?_
      within := ?_ }
  · intro rows read
    simp only [getStats, read, Option.getD_some, and_self]
  · intro rows read
    simp only [getStats, read, Option.map_some, Option.getD_some]
    exact SqlTop.tops_top engine limit rows
  · intro rows read
    simp only [getStats, read, Option.map_some, Option.getD_some]
    exact SqlTop.tops_top engine limit rows
  · intro rows read
    simp only [getStats, read, Option.map_some, Option.getD_some]
    exact SqlTop.tops_top engine limit (blockedRows rows)
  · intro rows read
    simp only [getStats, read, Option.map_some, Option.getD_some]
    exact upstreamsOf_filterMap engine rows
  · refine ⟨fun read => ?_, fun read => ?_, fun read => ?_, fun read => ?_, fun read => ?_⟩
    all_goals simp [getStats, read]
  · intro rows read
    simp only [getStats, read, Option.map_some, Option.getD_some]
    refine ⟨(SqlTop.tops_top engine limit rows).sum_le, (SqlTop.tops_top engine limit rows).sum_le,
      (SqlTop.tops_top engine limit (blockedRows rows)).sum_le.trans ?_, ?_⟩
    · rw [blockedRows, actionCount, List.countP_eq_length_filter]
    · refine (sum_count_filterMap rows _).trans
        ((SqlTop.tops_top engine (-1) (resolvedRows rows)).sum_le.trans ?_)
      exact List.length_filter_le _ _

/-! ## The table of the writer -/

section Flushing

/-- Without a unique column every row is inserted, under the next ids. -/
theorem rows_foldl_insert (rows : List LoggedRow) (table : QueryTable) :
    (rows.foldl SqlTable.insertOrIgnore table).rows =
        table.rows ++ (List.range' (table.seq + 1) rows.length).zip rows ∧
      (rows.foldl SqlTable.insertOrIgnore table).seq = table.seq + rows.length := by
  induction rows generalizing table with
  | nil => simp
  | cons row rest ih =>
      have fresh : table.clashes row = false := by simp [SqlTable.clashes]
      obtain ⟨table', inserted⟩ := SqlTable.exists_insert fresh
      obtain ⟨-, rows_eq, seq_eq⟩ := SqlTable.insert_eq_some inserted
      have one : table.insertOrIgnore row = table' := by
        rw [SqlTable.insertOrIgnore, inserted, Option.getD_some]
      rw [List.foldl_cons, one, (ih table').1, (ih table').2, rows_eq, seq_eq]
      refine ⟨?_, by rw [List.length_cons]; omega⟩
      rw [List.length_cons, List.range'_succ, List.zip_cons_cons, List.append_assoc]
      rfl

theorem values_foldl_insert (rows : List LoggedRow) (table : QueryTable) :
    (rows.foldl SqlTable.insertOrIgnore table).values = table.values ++ rows := by
  rw [SqlTable.values, (rows_foldl_insert rows table).1, List.map_append]
  refine congrArg (table.values ++ ·) (List.map_snd_zip ?_)
  rw [List.length_range']

/-- **A flush of the table is the flush of the writer**, for what the table holds. -/
theorem values_flushTable (weather : FlushWeather) (retentionDays : UInt64) (table : QueryTable)
    (entries : List QueryEntry) :
    (weather.flushTable retentionDays table entries).values =
      weather.flushEntries retentionDays table.values entries := by
  rw [FlushWeather.flushTable, FlushWeather.flushEntries, ← values_foldl_insert,
    FlushWeather.prunedTable, FlushWeather.pruned]
  split
  · simp only [SqlTable.values, SqlTable.deleteWhere, List.filter_map]
    rfl
  · rfl

end Flushing

/-! ## Pages of a log that goes on

Rows come in at the end and go at the beginning, as long as the clock does not go back: a flush
makes the log a later one.  A row that stays has moved away from the end by the time a page
reaches it, and never past the page. -/

/-- A flush, with the entries, the retention and what it meets. -/
structure LogFlush where
  weather : FlushWeather
  retentionDays : UInt64
  entries : List QueryEntry

/-- What is done to the table. -/
inductive LogAction where
  | flush (flush : LogFlush)
  | clear (fails : Plan ClearCall)

/-- The table, from its creation on. -/
def logTable : StateMachine QueryTable LogAction where
  init table := table = .empty
  step table
    | .flush flush => some (flush.weather.flushTable flush.retentionDays table flush.entries)
    | .clear fails => some (clearTable fails table)

/-- The clock has not gone back: not since the rows were inserted, and not in the flush.  It is a
condition on the clock of the host, and it puts the ids and the times of the rows in one order. -/
def Steady (table : QueryTable) : LogAction → Prop
  | .flush flush => (∀ row ∈ table.rows, ∀ position,
      row.2.timestamp.unix ≤ (flush.weather.now position).unix) ∧
        Monotone fun position => (flush.weather.now position).unix
  | .clear _ => True

/-- The rows are in the order of their ids and of their times, so that what is deleted as too old
is a beginning of them. -/
def Chronological (table : QueryTable) : Prop :=
  table.rows.Pairwise fun row row' =>
    row.1 < row'.1 ∧ row.2.timestamp.unix ≤ row'.2.timestamp.unix

section Chronology

variable {table : QueryTable} {weather : FlushWeather}

/-- What a flush inserts has the times of the flush. -/
theorem exists_now_of_mem_executed {position : Nat} {entries : List QueryEntry} {row : LoggedRow}
    (mem : row ∈ weather.executed position entries) :
    ∃ later, position ≤ later ∧ row.timestamp = weather.now later := by
  induction entries generalizing position with
  | nil => cases mem
  | cons entry rest ih =>
      unfold FlushWeather.executed at mem
      split at mem
      · rcases List.mem_cons.mp mem with rfl | mem
        · exact ⟨position, le_refl _, rfl⟩
        · obtain ⟨later, le, same⟩ := ih mem
          exact ⟨later, Nat.le_of_succ_le le, same⟩
      · obtain ⟨later, le, same⟩ := ih mem
        exact ⟨later, Nat.le_of_succ_le le, same⟩

theorem pairwise_executed (steady : Monotone fun position => (weather.now position).unix)
    (position : Nat) (entries : List QueryEntry) :
    (weather.executed position entries).Pairwise fun row row' =>
      row.timestamp.unix ≤ row'.timestamp.unix := by
  induction entries generalizing position with
  | nil => exact .nil
  | cons entry rest ih =>
      unfold FlushWeather.executed
      split
      · refine .cons (fun row mem => ?_) (ih (position + 1))
        obtain ⟨later, le, same⟩ := exists_now_of_mem_executed mem
        rw [same]
        exact steady (Nat.le_of_succ_le le)
      · exact ih (position + 1)

theorem chronological_foldl {rows : List LoggedRow} {table : QueryTable}
    (chronological : Chronological table)
    (newer : ∀ row ∈ table.rows, ∀ new ∈ rows, row.2.timestamp.unix ≤ new.timestamp.unix)
    (sorted : rows.Pairwise fun row row' => row.timestamp.unix ≤ row'.timestamp.unix) :
    Chronological (rows.foldl SqlTable.insertOrIgnore table) := by
  induction rows generalizing table with
  | nil => exact chronological
  | cons row rest ih =>
      obtain ⟨first, sorted⟩ := List.pairwise_cons.mp sorted
      have one : (table.insertOrIgnore row).rows = table.rows ++ [(table.seq + 1, row)] :=
        SqlTable.rows_insertOrIgnore_of_not_clashes (by simp [SqlTable.clashes])
      rw [List.foldl_cons]
      refine ih ?_ ?_ sorted
      · unfold Chronological
        rw [one]
        refine List.pairwise_append.mpr ⟨chronological, List.pairwise_singleton _ _, ?_⟩
        intro old mem new here
        rw [List.mem_singleton.mp here]
        exact ⟨Nat.lt_succ_of_le (table.ids_le old mem), newer old mem row List.mem_cons_self⟩
      · intro old mem new later
        rw [one] at mem
        rcases List.mem_append.mp mem with here | here
        · exact newer old here new (List.mem_cons_of_mem _ later)
        · rw [List.mem_singleton.mp here]
          exact first new later

/-- Of rows in the order of their times, those before a time come first. -/
theorem filter_before_suffix {rows : List (Nat × LoggedRow)}
    (sorted : rows.Pairwise fun row row' => row.2.timestamp.unix ≤ row'.2.timestamp.unix)
    (bound : Option Int) : rows.filter (fun row => !row.2.timestamp.before bound) <:+ rows := by
  induction rows with
  | nil => exact List.suffix_rfl
  | cons row rest ih =>
      obtain ⟨first, sorted⟩ := List.pairwise_cons.mp sorted
      by_cases early : row.2.timestamp.before bound = true
      · rw [List.filter_cons_of_neg (by simp [early])]
        exact (ih sorted).trans (List.suffix_cons row rest)
      · have all : ∀ row' ∈ row :: rest, !row'.2.timestamp.before bound := by
          intro row' mem
          have le : row.2.timestamp.unix ≤ row'.2.timestamp.unix := by
            rcases List.mem_cons.mp mem with rfl | later
            · exact le_refl _
            · exact first row' later
          cases bound with
          | none => rfl
          | some bound =>
              simp only [SqlTime.Timestamp.before, Option.any_some, decide_eq_true_eq, not_lt,
                Bool.not_eq_true', decide_eq_false_iff_not] at early ⊢
              omega
        rw [List.filter_eq_self.mpr all]

/-- The rows that a flush inserts, before any is deleted. -/
theorem chronological_inserted (chronological : Chronological table) {flush : LogFlush}
    (steady : Steady table (.flush flush)) :
    Chronological ((flush.weather.insertedRows flush.entries).foldl SqlTable.insertOrIgnore
      table) := by
  unfold FlushWeather.insertedRows
  split
  · refine chronological_foldl chronological (fun row mem new here => ?_)
      (pairwise_executed steady.2 0 _)
    obtain ⟨position, -, same⟩ := exists_now_of_mem_executed here
    rw [same]
    exact steady.1 row mem position
  · exact chronological

theorem suffix_prunedTable (chronological : Chronological table) (retentionDays : UInt64) :
    (weather.prunedTable retentionDays table).rows <:+ table.rows := by
  unfold FlushWeather.prunedTable
  split
  · exact filter_before_suffix (chronological.imp fun both => both.2) _
  · exact List.suffix_rfl

theorem Chronological.step (chronological : Chronological table) {action : LogAction}
    (steady : Steady table action) {next : QueryTable}
    (one : logTable.step table action = some next) : Chronological next := by
  cases action with
  | flush flush =>
      obtain rfl := Option.some.inj one
      exact (chronological_inserted chronological steady).sublist
        (suffix_prunedTable (chronological_inserted chronological steady) _).sublist
  | clear fails =>
      obtain rfl := Option.some.inj one
      unfold clearTable
      split
      · exact chronological
      · extract_lets deleted
        have kept : Chronological deleted := by
          unfold deleted
          split
          · exact chronological
          · exact .nil
        split <;> exact kept

/-- **A flush goes on with the log**, as long as the clock does not go back. -/
theorem later_of_flush (chronological : Chronological table) {flush : LogFlush}
    (steady : Steady table (.flush flush)) {next : QueryTable}
    (one : logTable.step table (.flush flush) = some next) : table.Later next := by
  obtain rfl := Option.some.inj one
  have inserted := rows_foldl_insert (flush.weather.insertedRows flush.entries) table
  have grown : table.Later
      ((flush.weather.insertedRows flush.entries).foldl SqlTable.insertOrIgnore table) := by
    refine ⟨by rw [inserted.2]; omega, [], table.rows, _, rfl, inserted.1, fun row mem => ?_⟩
    have id := (List.of_mem_zip mem).1
    rw [List.mem_range'_1] at id
    omega
  refine grown.trans (SqlTable.later_of_suffix (suffix_prunedTable
    (chronological_inserted chronological steady) _) ?_)
  unfold FlushWeather.flushTable FlushWeather.prunedTable
  split <;> exact le_refl _

end Chronology

section Browsing

variable {table next : QueryTable}

theorem chronological_of_exec {actions : List LogAction}
    (steady : logTable.StepsMeet Steady table actions) (chronological : Chronological table)
    (run : logTable.exec table actions = some next) : Chronological next :=
  logTable.exec_invariant
    (fun _ _ _ chronological steady one => chronological.step steady one) chronological steady run

/-- The flushes of a run go on with the log. -/
theorem later_of_flushes {flushes : List LogFlush} (chronological : Chronological table)
    (steady : logTable.StepsMeet Steady table (flushes.map .flush))
    (run : logTable.exec table (flushes.map .flush) = some next) : table.Later next := by
  induction flushes generalizing table with
  | nil =>
      obtain rfl := Option.some.inj run
      exact .refl _
  | cons flush rest ih =>
      obtain ⟨middle, one, later⟩ := logTable.exec_cons_eq_some.mp run
      exact (later_of_flush chronological steady.1 one).trans
        (ih (chronological.step steady.1 one) (steady.2 middle one) later)

/-- `ORDER BY id DESC` -/
theorem descending_rows (chronological : Chronological table) :
    SqlTop.descending Prod.fst table.rows = table.newestFirst := by
  have perm : (SqlTop.descending Prod.fst table.rows).Perm table.newestFirst :=
    SqlTop.perm_descending.trans (List.reverse_perm _).symm
  have strict : table.newestFirst.Pairwise fun row row' => row'.1 < row.1 :=
    List.pairwise_reverse.mpr (chronological.imp fun both => both.1)
  have sorted : (SqlTop.descending Prod.fst table.rows).Pairwise fun row row' : Nat × LoggedRow =>
      row'.1 < row.1 := by
    have distinct : (SqlTop.descending Prod.fst table.rows).Pairwise fun row row' =>
        row.1 ≠ row'.1 := List.pairwise_map.mp
      ((SqlTop.perm_descending.map Prod.fst).nodup_iff.mpr table.ids_nodup)
    exact (SqlTop.pairwise_descending.and distinct).imp fun both =>
      lt_of_le_of_ne both.1 both.2.symm
  refine perm.eq_of_pairwise (fun row row' _ _ less more => ?_) sorted strict
  exact absurd less (not_lt.mpr more.le)

end Browsing

/-- **A reader goes from page to page**, the newest queries first, until a page is not full.
While it reads, batches are flushed; `tables k` is the table that it finds for page `k`.  The
clock of the host does not go back, neither before nor while the reader is at work. -/
structure Browsing (n m : Nat) (tables : Nat → QueryTable) : Prop where
  /-- The table has come about by flushes and clears, and the clock did not go back. -/
  start : ∃ actions, logTable.exec .empty actions = some (tables 0) ∧
    logTable.StepsMeet Steady .empty actions
  goesOn : ∀ k < m, ∃ flushes : List LogFlush,
    logTable.exec (tables k) (flushes.map .flush) = some (tables (k + 1)) ∧
      logTable.StepsMeet Steady (tables k) (flushes.map .flush)
  last : (getQueries (some (tables m)) n (m * n : Nat)).length < n

/-- **Whoever browses the log skips no query**: what is there before and after is on one of the
pages, whatever the writer inserts and prunes in between. -/
theorem mem_getQueries_of_browsing {n m : Nat} {tables : Nat → QueryTable}
    (browsing : Browsing n m tables) {row : Nat × LoggedRow} (before : row ∈ (tables 0).rows)
    (after : row ∈ (tables m).rows) :
    ∃ k ≤ m, LoggedRow.shown row ∈ getQueries (some (tables k)) n (k * n : Nat) := by
  have chronological : ∀ k ≤ m, Chronological (tables k) := by
    intro k
    induction k with
    | zero =>
        intro _
        obtain ⟨actions, run, steady⟩ := browsing.start
        exact chronological_of_exec steady .nil run
    | succ k ih =>
        intro le
        obtain ⟨flushes, run, steady⟩ := browsing.goesOn k le
        exact chronological_of_exec steady (ih (Nat.le_of_succ_le le)) run
  have pages : ∀ k ≤ m, getQueries (some (tables k)) n (k * n : Nat) =
      (SqlQuery.page n (k * n : Nat) (tables k).newestFirst).map LoggedRow.shown := by
    intro k le
    rw [getQueries, descending_rows (chronological k le)]
  have later : ∀ k < m, (tables k).Later (tables (k + 1)) := by
    intro k less
    obtain ⟨flushes, run, steady⟩ := browsing.goesOn k less
    exact later_of_flushes (chronological k less.le) steady run
  have last : (SqlQuery.page n (m * n : Nat) (tables m).newestFirst).length < n := by
    have short := browsing.last
    rwa [pages m (le_refl m), List.length_map] at short
  obtain ⟨k, le, seen⟩ := SqlTable.mem_pages_of_later later last before after
  exact ⟨k, le, by rw [pages k le]; exact List.mem_map_of_mem seen⟩

/-- A flush that meets nothing, in the first second of 1970. -/
def calmFlush (entries : List QueryEntry) : LogFlush where
  weather := { now := fun _ => epoch, prunedAt := epoch }
  retentionDays := 0
  entries

def calmFlushed (table : QueryTable) (entries : List QueryEntry) : QueryTable :=
  (calmFlush entries).weather.flushTable 0 table entries

/-- The table of three queries. -/
def threeQueries : QueryTable := calmFlushed .empty
  [loggedQuery "a".toList, loggedQuery "b".toList, loggedQuery "c".toList]

/-- A fourth query is logged after the first page was read. -/
def browsedTable (k : Nat) : QueryTable :=
  if k = 0 then threeQueries else calmFlushed threeQueries [loggedQuery "d".toList]

theorem mem_getQueries_of_browsing_fourth :
    ∃ k ≤ 2, LoggedRow.shown (1, { timestamp := epoch, entry := loggedQuery "a".toList }) ∈
      getQueries (some (browsedTable k)) (2 : Nat) (k * 2 : Nat) := by
  have steady (table : QueryTable) (first : ∀ row ∈ table.rows, row.2.timestamp.unix ≤ 0)
      (entries : List QueryEntry) : Steady table (.flush (calmFlush entries)) :=
    ⟨fun row mem _ => first row mem, fun _ _ _ => le_refl _⟩
  have browsing : Browsing 2 2 browsedTable := by
    refine ⟨⟨[.flush (calmFlush _)], rfl, steady _ (by decide) _, fun _ _ => trivial⟩, ?_, ?_⟩
    · intro k less
      obtain rfl | rfl : k = 0 ∨ k = 1 := by omega
      · exact ⟨[calmFlush _], rfl, steady _ (by decide) _, fun _ _ => trivial⟩
      · exact ⟨[], rfl, trivial⟩
    · have four : (browsedTable 2).rows.length = 4 := rfl
      simp [getQueries, SqlQuery.page, SqlTop.descending, four]
  exact mem_getQueries_of_browsing browsing List.mem_cons_self List.mem_cons_self

/-! ## The counters and the statistics

What a call counts in memory and what the writer inserts are related by the account of the
recording. Where nothing was deleted the two sums are one. -/

end RustBlocker
