import RustBlocker.Library.SqlGroups
import RustBlocker.Library.Traversal
import RustBlocker.LogWriter

/-!
# The trend of the queries

`get_query_trend` counts the logged queries of a window of time in forty buckets.  The window ends
at a given time and begins a number of days before it, but not before what is retained.

* **Days** come as `u64`; they are cast to `i64`, multiplied and subtracted with saturation. From
  2 to the 63 on the cast makes them negative, and the window begins after its end.
* **SQLite** turns the begin of the window into a text.  A time before the Julian day 0 gives
  NULL, and no row is later than NULL.
* **The other sums** are plain, and panic when they overflow; `none` is the panic here.

`trendConserves_iff` says which windows are counted without loss.

The property is stated over the integers, without any bound: the window is the one that the two
numbers of days name, and the points are forty, in order, with the last one at the end, and count
the rows of the window, the blocked and the forwarded ones apart as well.  What the code computes
is compared with that.

The condition has three parts, one for each way in which the two can differ: a cast, a time that
SQLite does not know, and a sum of `i64`s.  A window with nothing to count is right whatever the
first two are, as long as nothing overflows.  `NoOverflow` collects what the sums need, and is met
by every window of less than a few hundred billion years.
-/

namespace RustBlocker

open SqlTime (Timestamp datetime minDatetime minTimestamp maxTimestamp)

/-! ## `i64` -/

namespace I64

def minValue : Int := -9223372036854775808

def maxValue : Int := 9223372036854775807

def clamp (x : Int) : Int := max minValue (min x maxValue)

def saturatingAdd (a b : Int) : Int := clamp (a + b)

def saturatingSub (a b : Int) : Int := clamp (a - b)

def saturatingMul (a b : Int) : Int := clamp (a * b)

/-- The result of a plain operation, if it does not overflow. -/
def checked (x : Int) : Option Int := if minValue ≤ x ∧ x ≤ maxValue then some x else none

/-- `as i64` -/
def ofU64 (n : UInt64) : Int := if n.toNat < 2 ^ 63 then n.toNat else n.toNat - 2 ^ 64

end I64

/-! ## The buckets

The begin of the window, its width in buckets, and the query, with the casts and the saturating
operations as they are in the source. -/

structure QueryTrendPoint where
  timestamp : Int
  total : Nat
  blocked : Nat
  forwarded : Nat
deriving DecidableEq, Repr

/-- `POINTS` -/
def trendPoints : Nat := 40

/-- `DAY_SECS` -/
def daySecs : Int := 86400

/-- `COUNT(*)`, `SUM(action = 'blocked')` and `SUM(action = 'forwarded')` -/
structure TrendCounts where
  total : Nat
  blocked : Nat
  forwarded : Nat
deriving DecidableEq, Repr

def TrendCounts.of (rows : List LoggedRow) : TrendCounts where
  total := rows.length
  blocked := rows.countP fun row => row.entry.action = .blocked
  forwarded := rows.countP fun row => row.entry.action = .forwarded

section Trend

variable (rows : List LoggedRow) (endUnix : Int) (requestedDays retentionDays : UInt64)

/-- `SELECT MIN(unixepoch(timestamp)) FROM query_log` -/
def oldestQuery : Option Int := (rows.map fun row => row.timestamp.unix).min?

/-- `end_unix.saturating_sub((days as i64).saturating_mul(DAY_SECS))` -/
def daysBack (days : UInt64) : Int :=
  I64.saturatingSub endUnix (I64.saturatingMul (I64.ofU64 days) daySecs)

def retainedStart : Int :=
  if retentionDays = 0 then (oldestQuery rows).getD (I64.saturatingSub endUnix trendPoints)
  else daysBack endUnix retentionDays

def startUnix : Int :=
  let retained := retainedStart rows endUnix retentionDays
  let requested := if requestedDays = 0 then retained else daysBack endUnix requestedDays
  max requested retained

/-- The width of a bucket, rounded up and at least a second. -/
def bucketSecs (start : Int) : Int :=
  max ((I64.saturatingAdd (I64.saturatingSub endUnix start) (trendPoints - 1)).tdiv trendPoints) 1

/-- The rows of the `WHERE` clause. -/
def trendRows (start : Int) : List LoggedRow :=
  rows.filter fun row =>
    row.timestamp.since (datetime start) && row.timestamp.upTo (datetime endUnix)

/-- `MIN((unixepoch(timestamp) - start) / bucket, POINTS - 1)` -/
def trendBucket (start width : Int) (row : LoggedRow) : Int :=
  min ((row.timestamp.unix - start).tdiv width) (trendPoints - 1)

/-- The counts of the buckets. -/
def trendCounts (start width : Int) : List TrendCounts :=
  (SqlGroups.groups (trendBucket start width) TrendCounts.of
    (trendRows rows endUnix start)).foldl SqlGroups.put
      (List.replicate trendPoints { total := 0, blocked := 0, forwarded := 0 })

/-- The point of a bucket, at its end. -/
def trendPoint (start width : Int) (counts : TrendCounts) (index : Nat) :
    Option QueryTrendPoint := do
  let offset ← I64.checked ((index + 1) * width)
  let time ← I64.checked (start + offset)
  return {
    timestamp := min time endUnix
    total := counts.total
    blocked := counts.blocked
    forwarded := counts.forwarded }

end Trend

/-- `get_query_trend`; without a connection there are no points. -/
def getQueryTrend (connection : Option (List LoggedRow)) (endUnix : Int)
    (requestedDays retentionDays : UInt64) : Option (List QueryTrendPoint) :=
  match connection with
  | none => some []
  | some rows =>
      let start := startUnix rows endUnix requestedDays retentionDays
      let width := bucketSecs endUnix start
      (trendCounts rows endUnix start width).zipIdx.mapM fun entry =>
        trendPoint endUnix start width entry.1 entry.2

/-! ## What the trend is for

The property and the condition, over the integers.  Nothing here saturates, wraps around or is
NULL. -/

section Purpose

variable (rows : List LoggedRow) (endUnix : Int) (requestedDays retentionDays : UInt64)

/-- Some days before the end, over the integers. -/
def exactDaysBack (days : UInt64) : Int := endUnix - days.toNat * 86400

/-- The begin of what is retained: that of the oldest row, if everything is. -/
def exactRetained : Int :=
  if retentionDays = 0 then (oldestQuery rows).getD (endUnix - 40)
  else exactDaysBack endUnix retentionDays

/-- The later one of the requested and the retained begin. -/
def exactStart : Int :=
  let retained := exactRetained rows endUnix retentionDays
  max (if requestedDays = 0 then retained else exactDaysBack endUnix requestedDays) retained

/-- The rows of a window. -/
def window (start : Int) : List LoggedRow :=
  rows.filter fun row => start ≤ row.timestamp.unix ∧ row.timestamp.unix ≤ endUnix

/-- Forty points in order, the last at the end, that count every row of the window.  The rows are
counted over all the points, not point by point. -/
structure Conserves (points : List QueryTrendPoint) : Prop where
  length : points.length = 40
  ordered : (points.map QueryTrendPoint.timestamp).Pairwise (· ≤ ·)
  last : points.getLast?.map QueryTrendPoint.timestamp = some endUnix
  total : (points.map QueryTrendPoint.total).sum =
    (window rows endUnix (exactStart rows endUnix requestedDays retentionDays)).length
  blocked : (points.map QueryTrendPoint.blocked).sum =
    (window rows endUnix (exactStart rows endUnix requestedDays retentionDays)).countP
      fun row => row.entry.action = .blocked
  forwarded : (points.map QueryTrendPoint.forwarded).sum =
    (window rows endUnix (exactStart rows endUnix requestedDays retentionDays)).countP
      fun row => row.entry.action = .forwarded

/-- **The trend neither loses queries nor overflows**: it gives points, and these conserve the
window. -/
def TrendConserves : Prop :=
  ∃ points, getQueryTrend (some rows) endUnix requestedDays retentionDays = some points ∧
    Conserves rows endUnix requestedDays retentionDays points

/-- The number of days stays what it is as an `i64`. -/
def FitsI64 (days : UInt64) : Prop := days.toNat < 2 ^ 63

/-- When it does: the days are `i64`s and the window begins at a time that SQLite knows, or there
is nothing to count, and neither the buckets nor the points overflow.  It is a condition on the
two numbers of days, the end and the rows. -/
def TrendFits : Prop :=
  (FitsI64 requestedDays ∧ FitsI64 retentionDays ∧
      minDatetime ≤ exactStart rows endUnix requestedDays retentionDays) ∨
    (window rows endUnix (exactStart rows endUnix requestedDays retentionDays) = [] ∧
      (FitsI64 requestedDays → FitsI64 retentionDays →
        endUnix - exactStart rows endUnix requestedDays retentionDays ≤
          40 * (I64.maxValue / 40)) ∧
      ∀ days ∈ [requestedDays, retentionDays], ¬ FitsI64 days →
        endUnix + (2 ^ 64 - days.toNat) * 86400 ≤ I64.maxValue - 40)

end Purpose

/-! ## The begin of the window

For days that fit the begin is the exact one, unless it is cut off at the smallest number.  For
days that do not fit it lies behind the end, and how far behind decides about an overflow. -/

section Start

variable {rows : List LoggedRow} {endUnix : Int} {requestedDays retentionDays days : UInt64}

/-- The times a window may end at. -/
structure EndTime (endUnix : Int) : Prop where
  low : 0 ≤ endUnix
  high : endUnix ≤ maxTimestamp

/-- Days that fit are subtracted as they are, down to the smallest number. -/
theorem daysBack_of_fits (ends : EndTime endUnix) (fits : FitsI64 days) :
    daysBack endUnix days = max (exactDaysBack endUnix days) (endUnix - I64.maxValue) := by
  obtain ⟨low, high⟩ := ends
  unfold FitsI64 at fits
  unfold maxTimestamp at high
  have cast : I64.ofU64 days = days.toNat := if_pos fits
  rw [daysBack, cast]
  simp only [I64.saturatingSub, I64.saturatingMul, I64.clamp, I64.minValue, I64.maxValue, daySecs,
    exactDaysBack]
  omega

/-- Days that do not fit are negative, and lead past the end. -/
theorem daysBack_of_wraps (ends : EndTime endUnix) (wraps : ¬ FitsI64 days) :
    endUnix < daysBack endUnix days ∧
      (daysBack endUnix days ≤ I64.maxValue - 40 ↔
        endUnix + (2 ^ 64 - days.toNat) * 86400 ≤ I64.maxValue - 40) := by
  obtain ⟨low, high⟩ := ends
  have range := days.toNat_lt
  unfold FitsI64 at wraps
  unfold maxTimestamp at high
  have cast : I64.ofU64 days = days.toNat - 2 ^ 64 := if_neg wraps
  rw [daysBack, cast]
  simp only [I64.saturatingSub, I64.saturatingMul, I64.clamp, I64.minValue, I64.maxValue, daySecs]
  constructor
  · omega
  · omega

/-- Some days before the end is far enough from the largest number exactly if the days fit, or
are not too many below zero. -/
theorem daysBack_le_iff (ends : EndTime endUnix) :
    daysBack endUnix days ≤ I64.maxValue - 40 ↔
      (¬ FitsI64 days → endUnix + (2 ^ 64 - days.toNat) * 86400 ≤ I64.maxValue - 40) := by
  by_cases fits : FitsI64 days
  · refine iff_of_true ?_ fun wraps => absurd fits wraps
    rw [daysBack_of_fits ends fits, exactDaysBack]
    obtain ⟨low, high⟩ := ends
    unfold maxTimestamp at high
    unfold I64.maxValue
    omega
  · rw [(daysBack_of_wraps ends fits).2]
    exact ⟨fun le _ => le, fun le => le fits⟩

theorem oldestQuery_mem {oldest : Int} (first : oldestQuery rows = some oldest) :
    minTimestamp ≤ oldest ∧ oldest ≤ maxTimestamp := by
  obtain ⟨row, -, rfl⟩ := List.mem_map.mp (List.min?_mem first)
  exact ⟨row.timestamp.low, row.timestamp.high⟩

/-- What is retained begins at the same time, down to the smallest number. -/
theorem retainedStart_of_fits (ends : EndTime endUnix) (fits : FitsI64 retentionDays) :
    retainedStart rows endUnix retentionDays =
      max (exactRetained rows endUnix retentionDays) (endUnix - I64.maxValue) := by
  unfold retainedStart exactRetained
  split
  next =>
    obtain ⟨low, high⟩ := ends
    unfold maxTimestamp at high
    rcases first : oldestQuery rows with _ | oldest
    · show I64.saturatingSub endUnix 40 = max (endUnix - 40) _
      simp only [I64.saturatingSub, I64.clamp, I64.minValue, I64.maxValue]
      omega
    · obtain ⟨early, -⟩ := oldestQuery_mem first
      unfold minTimestamp at early
      show oldest = max oldest (endUnix - I64.maxValue)
      unfold I64.maxValue
      omega
  next => exact daysBack_of_fits ends fits

theorem retainedStart_le_iff (ends : EndTime endUnix) :
    retainedStart rows endUnix retentionDays ≤ I64.maxValue - 40 ↔
      (¬ FitsI64 retentionDays →
        endUnix + (2 ^ 64 - retentionDays.toNat) * 86400 ≤ I64.maxValue - 40) := by
  unfold retainedStart
  split
  next zero =>
    have fits : FitsI64 retentionDays := by
      rw [zero]
      exact Nat.two_pow_pos 63
    refine iff_of_true ?_ fun wraps => absurd fits wraps
    obtain ⟨low, high⟩ := ends
    unfold maxTimestamp at high
    rcases first : oldestQuery rows with _ | oldest
    · show I64.saturatingSub endUnix 40 ≤ _
      simp only [I64.saturatingSub, I64.clamp, I64.minValue, I64.maxValue]
      omega
    · obtain ⟨-, late⟩ := oldestQuery_mem first
      unfold maxTimestamp at late
      show oldest ≤ _
      unfold I64.maxValue
      omega
  next => exact daysBack_le_iff ends

/-- **Days that fit** give the exact begin, down to the smallest number. -/
theorem startUnix_of_fits (rows : List LoggedRow) (ends : EndTime endUnix)
    (requested : FitsI64 requestedDays) (retention : FitsI64 retentionDays) :
    startUnix rows endUnix requestedDays retentionDays =
      max (exactStart rows endUnix requestedDays retentionDays) (endUnix - I64.maxValue) := by
  simp only [startUnix, exactStart]
  rw [retainedStart_of_fits ends retention]
  split
  · rw [max_self, max_self]
  · rw [daysBack_of_fits ends requested, max_max_max_comm, max_self]

/-- **Days that do not fit** put the begin behind the end. -/
theorem lt_startUnix_of_wraps (rows : List LoggedRow) (ends : EndTime endUnix)
    (wraps : ¬ (FitsI64 requestedDays ∧ FitsI64 retentionDays)) :
    endUnix < startUnix rows endUnix requestedDays retentionDays := by
  have nonzero {days : UInt64} (wraps : ¬ FitsI64 days) : days ≠ 0 := by
    rintro rfl
    exact wraps (Nat.two_pow_pos 63)
  simp only [startUnix]
  by_cases requested : FitsI64 requestedDays
  · have retention : ¬ FitsI64 retentionDays := fun fits => wraps ⟨requested, fits⟩
    refine lt_max_of_lt_right ?_
    rw [retainedStart, if_neg (nonzero retention)]
    exact (daysBack_of_wraps ends retention).1
  · rw [if_neg (nonzero requested)]
    exact lt_max_of_lt_left (daysBack_of_wraps ends requested).1

/-- The points overflow exactly if days are too many below zero. -/
theorem startUnix_le_iff (ends : EndTime endUnix) :
    startUnix rows endUnix requestedDays retentionDays ≤ I64.maxValue - 40 ↔
      ∀ days ∈ [requestedDays, retentionDays], ¬ FitsI64 days →
        endUnix + (2 ^ 64 - days.toNat) * 86400 ≤ I64.maxValue - 40 := by
  rw [List.forall_mem_cons, List.forall_mem_singleton]
  simp only [startUnix]
  rw [max_le_iff, retainedStart_le_iff ends]
  refine and_congr_left fun retained => ?_
  split
  next zero =>
    have fits : FitsI64 requestedDays := by
      rw [zero]
      exact Nat.two_pow_pos 63
    exact iff_of_true ((retainedStart_le_iff ends).mpr retained) fun wraps => absurd fits wraps
  next => exact daysBack_le_iff ends

end Start

/-! ## The points

Where no sum overflows the points are those over the integers; where one does, it is the last
point. -/

section Points

variable {rows : List LoggedRow} {endUnix start width : Int}

/-- A window that ends where it begins, or earlier, has buckets of a second. -/
theorem bucketSecs_of_lt (ends : EndTime endUnix) (late : endUnix < start) :
    bucketSecs endUnix start = 1 := by
  obtain ⟨low, high⟩ := ends
  unfold maxTimestamp at high
  have small : I64.saturatingAdd (I64.saturatingSub endUnix start) 39 ≤ 38 := by
    simp only [I64.saturatingAdd, I64.saturatingSub, I64.clamp, I64.minValue, I64.maxValue]
    omega
  show max ((I64.saturatingAdd (I64.saturatingSub endUnix start) 39).tdiv 40) 1 = 1
  refine max_eq_right ?_
  rcases le_total 0 (I64.saturatingAdd (I64.saturatingSub endUnix start) 39) with nonneg | negative
  · rw [Int.tdiv_eq_ediv_of_nonneg nonneg]
    omega
  · have one : Int.sign 40 = 1 := rfl
    rw [Int.tdiv_eq_ediv, one]
    split <;> omega

/-- The width of the buckets of a window. -/
theorem bucketSecs_of_le (ends : EndTime endUnix) (early : start ≤ endUnix) :
    bucketSecs endUnix start =
      max ((min (min (endUnix - start) I64.maxValue + 39) I64.maxValue) / 40) 1 := by
  obtain ⟨low, high⟩ := ends
  unfold maxTimestamp at high
  have sum : I64.saturatingAdd (I64.saturatingSub endUnix start) 39 =
      min (min (endUnix - start) I64.maxValue + 39) I64.maxValue := by
    simp only [I64.saturatingAdd, I64.saturatingSub, I64.clamp, I64.minValue, I64.maxValue]
    omega
  show max ((I64.saturatingAdd (I64.saturatingSub endUnix start) 39).tdiv 40) 1 = _
  rw [sum, Int.tdiv_eq_ediv_of_nonneg (by unfold I64.maxValue; omega)]

theorem bucketSecs_bounds (ends : EndTime endUnix) (start : Int) :
    1 ≤ bucketSecs endUnix start ∧ 40 * bucketSecs endUnix start ≤ I64.maxValue := by
  rcases lt_or_ge endUnix start with late | early
  · rw [bucketSecs_of_lt ends late]
    exact ⟨le_rfl, by decide⟩
  · rw [bucketSecs_of_le ends early]
    unfold I64.maxValue
    omega

/-- The point of a bucket over the integers. -/
def exactPoint (endUnix start width : Int) (counts : TrendCounts) (index : Nat) :
    QueryTrendPoint where
  timestamp := min (start + (index + 1) * width) endUnix
  total := counts.total
  blocked := counts.blocked
  forwarded := counts.forwarded

/-- What the numbers of a window keep to, so that no sum overflows. -/
structure NoOverflow (start width : Int) : Prop where
  positive : 1 ≤ width
  wide : 40 * width ≤ I64.maxValue
  low : I64.minValue ≤ start
  high : start + 40 * width ≤ I64.maxValue

theorem I64.checked_eq {x : Int} (low : I64.minValue ≤ x) (high : x ≤ I64.maxValue) :
    I64.checked x = some x := if_pos ⟨low, high⟩

theorem trendPoint_eq (fits : NoOverflow start width) (counts : TrendCounts) {index : Nat}
    (inside : index < 40) :
    trendPoint endUnix start width counts index =
      some (exactPoint endUnix start width counts index) := by
  obtain ⟨positive, wide, low, high⟩ := fits
  have nonneg : 0 ≤ ((index : Int) + 1) * width :=
    mul_nonneg (by omega) (by omega)
  have small : ((index : Int) + 1) * width ≤ 40 * width :=
    mul_le_mul_of_nonneg_right (by omega) (by omega)
  have offset : I64.checked ((index + 1) * width) = some ((index + 1) * width) := by
    refine I64.checked_eq ?_ (small.trans wide)
    exact le_trans (by decide) nonneg
  have time : I64.checked (start + (index + 1) * width) = some (start + (index + 1) * width) :=
    I64.checked_eq (by omega) (by omega)
  unfold trendPoint
  rw [offset, Option.bind_eq_bind, Option.bind_some, time]
  rfl

/-- The last point of a window that begins too late is an overflow. -/
theorem trendPoint_overflow (late : I64.maxValue - 40 < start) (counts : TrendCounts) :
    trendPoint endUnix start 1 counts 39 = none := by
  have time : I64.checked (start + 40) = none := if_neg fun inside => by omega
  show (I64.checked (start + 40)).bind _ = none
  rw [time]
  rfl

/-- The counts of a bucket. -/
def bucketCounts (rows : List LoggedRow) (endUnix start width : Int) (index : Nat) : TrendCounts :=
  .of (SqlGroups.having (trendBucket start width) index (trendRows rows endUnix start))

theorem trendCounts_eq (rows : List LoggedRow) (endUnix start width : Int) :
    trendCounts rows endUnix start width =
      (List.range 40).map (bucketCounts rows endUnix start width) :=
  SqlGroups.table_groups (trendBucket start width) TrendCounts.of 40 (trendRows rows endUnix start)

/-- The buckets with their places. -/
theorem zipIdx_trendCounts (rows : List LoggedRow) (endUnix start width : Int) :
    (trendCounts rows endUnix start width).zipIdx =
      (List.range 40).map fun index => (bucketCounts rows endUnix start width index, index) := by
  rw [trendCounts_eq]
  refine List.ext_getElem? fun index => ?_
  rw [List.getElem?_zipIdx, List.getElem?_map, List.getElem?_map, Nat.zero_add]
  by_cases inside : index < 40
  · rw [List.getElem?_range inside]
    rfl
  · rw [List.getElem?_eq_none (by simpa using inside)]
    rfl

/-- The points of a window over the integers. -/
def exactPoints (rows : List LoggedRow) (endUnix start width : Int) : List QueryTrendPoint :=
  (List.range 40).map fun index =>
    exactPoint endUnix start width (bucketCounts rows endUnix start width index) index

section Query

variable {requestedDays retentionDays : UInt64}

/-- **Where no sum overflows** the points are those over the integers. -/
theorem getQueryTrend_eq
    (fits : NoOverflow (startUnix rows endUnix requestedDays retentionDays)
      (bucketSecs endUnix (startUnix rows endUnix requestedDays retentionDays))) :
    getQueryTrend (some rows) endUnix requestedDays retentionDays =
      some (exactPoints rows endUnix (startUnix rows endUnix requestedDays retentionDays)
        (bucketSecs endUnix (startUnix rows endUnix requestedDays retentionDays))) := by
  simp only [getQueryTrend]
  rw [zipIdx_trendCounts, List.mapM_map]
  exact Traversal.mapM_eq_some_map fun index inside =>
    trendPoint_eq fits _ (List.mem_range.mp inside)

theorem getQueryTrend_overflow (ends : EndTime endUnix)
    (late : I64.maxValue - 40 < startUnix rows endUnix requestedDays retentionDays) :
    getQueryTrend (some rows) endUnix requestedDays retentionDays = none := by
  have after : endUnix < startUnix rows endUnix requestedDays retentionDays := by
    refine lt_of_le_of_lt (ends.high.trans ?_) late
    decide
  simp only [getQueryTrend]
  rw [zipIdx_trendCounts, List.mapM_map, bucketSecs_of_lt ends after]
  refine Option.not_isSome_iff_eq_none.mp fun all => ?_
  have last := Traversal.isSome_mapM.mp all 39 (List.mem_range.mpr (by decide))
  simp only [Function.comp_apply] at last
  rw [trendPoint_overflow late] at last
  cases last

end Query

/-! ## The sums

Every row of the query falls into one bucket, so the buckets add up to the query. -/

/-- A row that is counted lies in the window. -/
theorem bounds_of_mem_trendRows (ends : EndTime endUnix) {row : LoggedRow}
    (mem : row ∈ trendRows rows endUnix start) :
    start ≤ row.timestamp.unix ∧ row.timestamp.unix ≤ endUnix := by
  have selected := (List.mem_filter.mp mem).2
  rw [Bool.and_eq_true] at selected
  have early : minDatetime ≤ endUnix := le_trans (by decide) ends.low
  refine ⟨?_, (row.timestamp.upTo_iff early ends.high).mp selected.2⟩
  rcases lt_or_ge start minDatetime with before | known
  · have early := row.timestamp.since_early before
    cases early.symm.trans selected.1
  · exact (row.timestamp.since_iff known).mp selected.1

theorem trendBucket_bounds (positive : 1 ≤ width) {row : LoggedRow}
    (after : start ≤ row.timestamp.unix) :
    0 ≤ trendBucket start width row ∧ trendBucket start width row < (40 : Nat) := by
  have nonneg : 0 ≤ row.timestamp.unix - start := by omega
  have quotient : 0 ≤ (row.timestamp.unix - start).tdiv width := by
    rw [Int.tdiv_eq_ediv_of_nonneg nonneg]
    exact Int.ediv_nonneg nonneg (by omega)
  show 0 ≤ min ((row.timestamp.unix - start).tdiv width) 39 ∧
    min ((row.timestamp.unix - start).tdiv width) 39 < 40
  omega

/-- **The buckets count every row of the query once.** -/
theorem sum_bucketCounts (ends : EndTime endUnix) (positive : 1 ≤ width) (p : LoggedRow → Bool) :
    ((List.range 40).map fun (index : Nat) =>
      (SqlGroups.having (trendBucket start width) (index : Int)
        (trendRows rows endUnix start)).countP p).sum =
      (trendRows rows endUnix start).countP p :=
  SqlGroups.sum_slots _ p fun _ mem =>
    trendBucket_bounds positive (bounds_of_mem_trendRows ends mem).1

/-- The points of a window are in order, and the last one is at its end if the buckets reach it. -/
theorem ordered_exactPoints (positive : 1 ≤ width) :
    ((exactPoints rows endUnix start width).map QueryTrendPoint.timestamp).Pairwise (· ≤ ·) := by
  unfold exactPoints
  rw [List.map_map, List.pairwise_map]
  refine List.pairwise_lt_range.imp fun {i j} less => ?_
  show min (start + ((i : Int) + 1) * width) endUnix ≤ min (start + ((j : Int) + 1) * width) endUnix
  have further : ((i : Int) + 1) * width ≤ ((j : Int) + 1) * width :=
    mul_le_mul_of_nonneg_right (by omega) (by omega)
  exact min_le_min_right _ (by omega)

theorem last_exactPoints :
    (exactPoints rows endUnix start width).getLast?.map QueryTrendPoint.timestamp =
      some (min (start + 40 * width) endUnix) := by
  unfold exactPoints
  rw [List.getLast?_map, List.getLast?_range]
  rfl

/-- The sums of the points are the counts of the query. -/
theorem sum_exactPoints (rows : List LoggedRow) (start : Int) (ends : EndTime endUnix)
    (positive : 1 ≤ width) :
    ((exactPoints rows endUnix start width).map QueryTrendPoint.total).sum =
        (trendRows rows endUnix start).length ∧
      ((exactPoints rows endUnix start width).map QueryTrendPoint.blocked).sum =
        (trendRows rows endUnix start).countP (fun row => row.entry.action = .blocked) ∧
      ((exactPoints rows endUnix start width).map QueryTrendPoint.forwarded).sum =
        (trendRows rows endUnix start).countP (fun row => row.entry.action = .forwarded) := by
  unfold exactPoints
  simp only [List.map_map]
  refine ⟨?_, sum_bucketCounts ends positive _, sum_bucketCounts ends positive _⟩
  have every : (trendRows rows endUnix start).countP (fun _ => true) =
      (trendRows rows endUnix start).length := congrFun List.countP_true _
  rw [← every, ← sum_bucketCounts ends positive]
  refine congrArg List.sum (List.map_congr_left fun index _ => ?_)
  exact (congrFun List.countP_true _).symm

/-! ## Counting without loss

The query selects the rows of the window if SQLite knows its begin, and none otherwise.  The two
cases, of days that fit and of days that do not, are settled apart and then put together. -/

section Conserving

variable {requestedDays retentionDays : UInt64}

/-- **The points conserve** if the query selects the rows of the window and the buckets reach its
end. -/
theorem conserves_exactPoints (ends : EndTime endUnix) (positive : 1 ≤ width)
    (reaches : endUnix ≤ start + 40 * width)
    (same : trendRows rows endUnix start =
      window rows endUnix (exactStart rows endUnix requestedDays retentionDays)) :
    Conserves rows endUnix requestedDays retentionDays (exactPoints rows endUnix start width) := by
  obtain ⟨total, blocked, forwarded⟩ := sum_exactPoints rows start ends positive
  refine
    { length := ?_
      ordered := ordered_exactPoints positive
      last := ?_
      total := ?_
      blocked := ?_
      forwarded := ?_ }
  · unfold exactPoints
    rw [List.length_map, List.length_range]
  · rw [last_exactPoints, min_eq_right reaches]
  · rw [total, same]
  · rw [blocked, same]
  · rw [forwarded, same]

/-- What points that conserve say of the query. -/
theorem Conserves.of_exactPoints (ends : EndTime endUnix) (positive : 1 ≤ width)
    (conserves : Conserves rows endUnix requestedDays retentionDays
      (exactPoints rows endUnix start width)) :
    endUnix ≤ start + 40 * width ∧
      (trendRows rows endUnix start = [] →
        window rows endUnix (exactStart rows endUnix requestedDays retentionDays) = []) := by
  constructor
  · have last := conserves.last
    rw [last_exactPoints] at last
    exact min_eq_right_iff.mp (Option.some.inj last)
  · intro nothing
    have total := conserves.total
    rw [(sum_exactPoints rows start ends positive).1, nothing] at total
    exact List.length_eq_zero_iff.mp total.symm

/-- A window that SQLite knows is the one the query selects. -/
theorem trendRows_eq_window (ends : EndTime endUnix) (known : minDatetime ≤ start) :
    trendRows rows endUnix start = window rows endUnix start := by
  have early : minDatetime ≤ endUnix := le_trans (by decide) ends.low
  refine List.filter_congr fun row _ => Bool.eq_iff_iff.mpr ?_
  rw [Bool.and_eq_true, row.timestamp.since_iff known, row.timestamp.upTo_iff early ends.high,
    decide_eq_true_eq]

/-- A window before the Julian day 0, or after its end, selects nothing. -/
theorem trendRows_eq_nil (rows : List LoggedRow) (ends : EndTime endUnix)
    (bad : start < minDatetime ∨ endUnix < start) :
    trendRows rows endUnix start = [] := by
  refine List.eq_nil_iff_forall_not_mem.mpr fun row mem => ?_
  rcases bad with before | after
  · have selected := (List.mem_filter.mp mem).2
    rw [row.timestamp.since_early before] at selected
    cases selected
  · have ⟨low, high⟩ := bounds_of_mem_trendRows ends mem
    omega

/-- No sum overflows if the window begins early enough. -/
theorem noOverflow_bucketSecs (ends : EndTime endUnix) (low : I64.minValue ≤ start)
    (high : start ≤ I64.maxValue - 40) : NoOverflow start (bucketSecs endUnix start) := by
  have ⟨positive, wide⟩ := bucketSecs_bounds ends start
  refine ⟨positive, wide, low, ?_⟩
  rcases lt_or_ge endUnix start with late | early
  · rw [bucketSecs_of_lt ends late]
    omega
  · have late := ends.high
    unfold maxTimestamp at late
    rw [bucketSecs_of_le ends early]
    unfold I64.maxValue
    omega

/-- The buckets reach the end of the window unless they would have to be too wide. -/
theorem reaches_iff (ends : EndTime endUnix) (low : endUnix - I64.maxValue ≤ start) :
    endUnix ≤ start + 40 * bucketSecs endUnix start ↔
      endUnix - start ≤ 40 * (I64.maxValue / 40) := by
  rcases lt_or_ge endUnix start with late | early
  · rw [bucketSecs_of_lt ends late]
    refine iff_of_true (by omega) ?_
    unfold I64.maxValue
    omega
  · rw [bucketSecs_of_le ends early]
    unfold I64.maxValue at low ⊢
    omega

theorem minValue_le_startUnix (ends : EndTime endUnix) :
    I64.minValue ≤ startUnix rows endUnix requestedDays retentionDays := by
  have low := ends.low
  by_cases fits : FitsI64 requestedDays ∧ FitsI64 retentionDays
  · rw [startUnix_of_fits rows ends fits.1 fits.2]
    refine le_trans ?_ (le_max_right _ _)
    unfold I64.minValue I64.maxValue
    omega
  · have late := lt_startUnix_of_wraps rows ends fits
    unfold I64.minValue
    omega

end Conserving

end Points

section Main

variable {endUnix : Int} {rows : List LoggedRow} {requestedDays retentionDays : UInt64}

/-- With days that fit no sum overflows. -/
theorem noOverflow_of_fits (rows : List LoggedRow) (ends : EndTime endUnix)
    (requested : FitsI64 requestedDays) (retention : FitsI64 retentionDays) :
    NoOverflow (startUnix rows endUnix requestedDays retentionDays)
      (bucketSecs endUnix (startUnix rows endUnix requestedDays retentionDays)) := by
  refine noOverflow_bucketSecs ends (minValue_le_startUnix ends) ((startUnix_le_iff ends).mpr ?_)
  rw [List.forall_mem_cons, List.forall_mem_singleton]
  exact ⟨fun wraps => absurd requested wraps, fun wraps => absurd retention wraps⟩

/-- **With days that fit** the window begins at a time that SQLite knows, or there is nothing to
count and the buckets are not too wide. -/
theorem trendConserves_of_fits_iff (ends : EndTime endUnix) (requested : FitsI64 requestedDays)
    (retention : FitsI64 retentionDays) :
    TrendConserves rows endUnix requestedDays retentionDays ↔
      minDatetime ≤ exactStart rows endUnix requestedDays retentionDays ∨
        (window rows endUnix (exactStart rows endUnix requestedDays retentionDays) = [] ∧
          endUnix - exactStart rows endUnix requestedDays retentionDays ≤
            40 * (I64.maxValue / 40)) := by
  have fits := noOverflow_of_fits rows ends requested retention
  have got := getQueryTrend_eq fits
  have start := startUnix_of_fits rows ends requested retention
  have reaches := reaches_iff ends ((le_max_right _ _).trans start.ge)
  have latest := ends.high
  have earliest := ends.low
  unfold maxTimestamp at latest
  constructor
  · rintro ⟨points, returned, conserves⟩
    obtain rfl := Option.some.inj (got.symm.trans returned)
    obtain ⟨long, empty⟩ := conserves.of_exactPoints ends fits.positive
    rcases le_or_gt minDatetime (exactStart rows endUnix requestedDays retentionDays) with
      known | before
    · exact Or.inl known
    · have early : startUnix rows endUnix requestedDays retentionDays < minDatetime := by
        rw [start]
        refine max_lt before ?_
        unfold minDatetime I64.maxValue
        omega
      refine Or.inr ⟨empty (trendRows_eq_nil rows ends (Or.inl early)), ?_⟩
      have short := reaches.mp long
      rw [start] at short
      unfold I64.maxValue at short ⊢
      omega
  · intro good
    refine ⟨_, got, conserves_exactPoints ends fits.positive (reaches.mpr ?_) ?_⟩
    · rw [start]
      rcases good with known | ⟨-, short⟩
      · unfold minDatetime at known
        unfold I64.maxValue
        omega
      · unfold I64.maxValue at short ⊢
        omega
    · rcases le_or_gt minDatetime (exactStart rows endUnix requestedDays retentionDays) with
        known | before
      · have same : startUnix rows endUnix requestedDays retentionDays =
            exactStart rows endUnix requestedDays retentionDays := by
          rw [start]
          refine max_eq_left ?_
          unfold minDatetime at known
          unfold I64.maxValue
          omega
        rw [same]
        exact trendRows_eq_window ends known
      · rcases good with known | ⟨unfit, -⟩
        · exact absurd known (not_le.mpr before)
        · rw [unfit]
          refine trendRows_eq_nil rows ends (Or.inl ?_)
          rw [start]
          refine max_lt before ?_
          unfold minDatetime I64.maxValue
          omega

/-- **With days that do not fit** nothing is counted, and the points overflow if the days are far
below zero. -/
theorem trendConserves_of_wraps_iff (ends : EndTime endUnix)
    (wraps : ¬ (FitsI64 requestedDays ∧ FitsI64 retentionDays)) :
    TrendConserves rows endUnix requestedDays retentionDays ↔
      window rows endUnix (exactStart rows endUnix requestedDays retentionDays) = [] ∧
        startUnix rows endUnix requestedDays retentionDays ≤ I64.maxValue - 40 := by
  have late := lt_startUnix_of_wraps rows ends wraps
  have nothing := trendRows_eq_nil rows ends (Or.inr late)
  constructor
  · rintro ⟨points, returned, conserves⟩
    have high : startUnix rows endUnix requestedDays retentionDays ≤ I64.maxValue - 40 := by
      by_contra high
      have overflow := getQueryTrend_overflow ends (not_le.mp high)
      cases overflow.symm.trans returned
    have fits := noOverflow_bucketSecs ends (minValue_le_startUnix ends) high
    obtain rfl := Option.some.inj ((getQueryTrend_eq fits).symm.trans returned)
    exact ⟨(conserves.of_exactPoints ends fits.positive).2 nothing, high⟩
  · rintro ⟨empty, high⟩
    have fits := noOverflow_bucketSecs ends (minValue_le_startUnix ends) high
    refine ⟨_, getQueryTrend_eq fits, conserves_exactPoints ends fits.positive ?_ ?_⟩
    · have positive := fits.positive
      omega
    · rw [nothing, empty]

/-- **The trend neither loses queries nor overflows** exactly if the days are `i64`s and the
window begins at a time that SQLite knows, or nothing is to be counted and no number is too
large. -/
theorem trendConserves_iff (rows : List LoggedRow) (requestedDays retentionDays : UInt64)
    (ends : EndTime endUnix) :
    TrendConserves rows endUnix requestedDays retentionDays ↔
      TrendFits rows endUnix requestedDays retentionDays := by
  unfold TrendFits
  by_cases fits : FitsI64 requestedDays ∧ FitsI64 retentionDays
  · obtain ⟨requested, retention⟩ := fits
    rw [trendConserves_of_fits_iff ends requested retention]
    have unfit : ∀ days ∈ [requestedDays, retentionDays], ¬ FitsI64 days →
        endUnix + (2 ^ 64 - days.toNat) * 86400 ≤ I64.maxValue - 40 := by
      rw [List.forall_mem_cons, List.forall_mem_singleton]
      exact ⟨fun wraps => absurd requested wraps, fun wraps => absurd retention wraps⟩
    constructor
    · rintro (known | ⟨empty, short⟩)
      · exact Or.inl ⟨requested, retention, known⟩
      · exact Or.inr ⟨empty, fun _ _ => short, unfit⟩
    · rintro (⟨-, -, known⟩ | ⟨empty, short, -⟩)
      · exact Or.inl known
      · exact Or.inr ⟨empty, short requested retention⟩
  · rw [trendConserves_of_wraps_iff ends fits, startUnix_le_iff ends]
    constructor
    · rintro ⟨empty, high⟩
      exact Or.inr ⟨empty, fun requested retention => absurd ⟨requested, retention⟩ fits, high⟩
    · rintro (⟨requested, retention, -⟩ | ⟨empty, -, high⟩)
      · exact absurd ⟨requested, retention⟩ fits
      · exact ⟨empty, high⟩

/-- A query of the first of January 2024. -/
def newYearQuery : LoggedRow where
  timestamp := ⟨1704067200, by decide, by decide⟩
  entry := loggedQuery "a".toList

/-- Two minutes later. -/
theorem endTime_newYear : EndTime 1704067320 := ⟨by decide, by decide⟩

theorem trendConserves_iff_newYear :
    TrendConserves [newYearQuery] 1704067320 0 10000000 ↔
      TrendFits [newYearQuery] 1704067320 0 10000000 :=
  trendConserves_iff [newYearQuery] 0 10000000 endTime_newYear

/-- **Long retentions count nothing**: with ten million days to retain, the query of two minutes
ago is in no point, and with 2 to the 63 the points overflow. -/
theorem not_trendConserves_newYear :
    ¬ TrendConserves [newYearQuery] 1704067320 0 10000000 ∧
      ((getQueryTrend (some [newYearQuery]) 1704067320 0 10000000).map fun points =>
        (points.map QueryTrendPoint.total).sum) = some 0 ∧
      (window [newYearQuery] 1704067320
        (exactStart [newYearQuery] 1704067320 0 10000000)).length = 1 ∧
      getQueryTrend (some [newYearQuery]) 1704067320 0 9223372036854775808 = none := by
  refine ⟨fun conserves => ?_, by decide +kernel, by decide +kernel, by decide +kernel⟩
  have fits : FitsI64 0 ∧ FitsI64 10000000 := ⟨by unfold FitsI64; decide, by unfold FitsI64; decide⟩
  rcases (trendConserves_of_fits_iff endTime_newYear fits.1 fits.2).mp conserves with
    known | ⟨empty, -⟩
  · revert known
    decide +kernel
  · have one : (window [newYearQuery] 1704067320
        (exactStart [newYearQuery] 1704067320 0 10000000)).length = 1 := by decide +kernel
    rw [empty] at one
    cases one

/-- **The windows the web interface asks for**: with a number of days that is not 0, and at most
30, the trend conserves whatever is retained, if the retention is an `i64`. -/
theorem trendConserves_of_le (ends : EndTime endUnix) (positive : requestedDays ≠ 0)
    (short : requestedDays.toNat ≤ 30) (retention : FitsI64 retentionDays) :
    TrendConserves rows endUnix requestedDays retentionDays := by
  have requested : FitsI64 requestedDays := lt_of_le_of_lt short (by decide)
  refine (trendConserves_of_fits_iff ends requested retention).mpr (Or.inl ?_)
  simp only [exactStart]
  rw [if_neg positive]
  refine le_trans ?_ (le_max_left _ _)
  have low := ends.low
  unfold exactDaysBack minDatetime
  omega

end Main

end RustBlocker
