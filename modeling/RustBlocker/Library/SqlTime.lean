import Mathlib.Algebra.Order.Ring.Int
import Mathlib.Tactic.Linarith

/-!
# Times of SQLite

`datetime` writes a time as `YYYY-MM-DD HH:MM:SS`, and a table that is written by it holds such
texts.  They are compared as texts; with four digits a year, and no sign, that is the order of
the times, by which they stand here.

* **A timestamp** is such a text of the years 0 to 9999, given by its seconds since 1970.
* **`datetime`** of a number of seconds knows the Julian days: it reaches back to the year
  -4713, and to the end of the year 9999.  Beyond there is NULL.  The text of an earlier year
  than 0 begins with a minus sign, which sorts before every digit, as the time does.
* **A modifier `-N days`** is read as a number that must be less than 5373485.
-/

namespace SqlTime

/-- The first second of the year 0. -/
def minTimestamp : Int := -62167219200

/-- The last second of the year 9999. -/
def maxTimestamp : Int := 253402300799

/-- The first second that `datetime` knows, the Julian day 0. -/
def minDatetime : Int := -210866760000

/-- The text of a time in a table. -/
structure Timestamp where
  /-- `unixepoch(timestamp)` -/
  unix : Int
  low : minTimestamp ≤ unix
  high : unix ≤ maxTimestamp
deriving DecidableEq, Repr

/-- `datetime(?, 'unixepoch')`: the time again, or NULL outside of the Julian days that SQLite
knows. -/
def datetime (unix : Int) : Option Int :=
  if minDatetime ≤ unix ∧ unix ≤ maxTimestamp then some unix else none

/-- `datetime(?, '-N days')`.  It is NULL for a number of days that SQLite does not read as one,
and for a time that would lie before the first day. -/
def daysBefore (now : Int) (days : Nat) : Option Int :=
  if days < 5373485 then datetime (now - days * 86400) else none

/-- `timestamp >= bound`, which NULL makes false: a comparison with NULL is NULL, and a condition
that is NULL chooses no row. -/
def Timestamp.since (timestamp : Timestamp) (bound : Option Int) : Bool :=
  bound.any fun bound => bound ≤ timestamp.unix

/-- `timestamp <= bound` -/
def Timestamp.upTo (timestamp : Timestamp) (bound : Option Int) : Bool :=
  bound.any fun bound => timestamp.unix ≤ bound

/-- `timestamp < bound` -/
def Timestamp.before (timestamp : Timestamp) (bound : Option Int) : Bool :=
  bound.any fun bound => timestamp.unix < bound

theorem datetime_of_le {unix : Int} (low : minDatetime ≤ unix) (high : unix ≤ maxTimestamp) :
    datetime unix = some unix := if_pos ⟨low, high⟩

/-- Before the Julian day 0 there is NULL. -/
theorem datetime_of_lt {unix : Int} (early : unix < minDatetime) : datetime unix = none :=
  if_neg fun inside => absurd inside.1 (not_le.mpr early)

/-- A bound that is a time is compared as one, even one before the first timestamp. -/
theorem Timestamp.since_iff (timestamp : Timestamp) {unix : Int} (low : minDatetime ≤ unix) :
    timestamp.since (datetime unix) = true ↔ unix ≤ timestamp.unix := by
  unfold datetime
  split
  next => simp [since]
  next outside =>
    -- past the last timestamp
    have late : maxTimestamp < unix := by
      by_contra high
      exact outside ⟨low, not_lt.mp high⟩
    have high := timestamp.high
    simp only [since, Option.any_none, Bool.false_eq_true, false_iff, not_le]
    exact lt_of_le_of_lt high late

/-- Nothing is later than NULL. -/
theorem Timestamp.since_early (timestamp : Timestamp) {unix : Int} (early : unix < minDatetime) :
    timestamp.since (datetime unix) = false := by
  rw [datetime_of_lt early]
  rfl

theorem Timestamp.upTo_iff (timestamp : Timestamp) {unix : Int} (low : minDatetime ≤ unix)
    (high : unix ≤ maxTimestamp) :
    timestamp.upTo (datetime unix) = true ↔ timestamp.unix ≤ unix := by
  rw [datetime_of_le low high]
  simp [upTo]

end SqlTime
