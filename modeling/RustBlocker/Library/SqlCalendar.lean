import Mathlib
import RustBlocker.Library.SqlTime

/-!
# The text of a time

What `datetime` of SQLite writes, `YYYY-MM-DD HH:MM:SS`, in the Gregorian calendar carried back to
the year 0.

* **Years begin in March** here, so that the day of a leap year comes last: a day is counted from
  the first of March of the year 0, in eras of 400 years, centuries, groups of four years, and
  years.
* `read_text`: a text is read back as the time it was written for.
* `text_le_text`: texts compare as the times do, so a query may compare texts.

Both results need the years 0 to 9999, which have four digits: a later year has one digit more and
sorts before, and an earlier one has a sign.  Code that stores times as texts and compares them in
a query relies on this without saying so, and the two bounds are where a user of this module has
to say it.

The way from seconds to a date is by division with remainder at each level, and each level says
what it leaves (`Day.Valid`): a group of four years may have a day more than four years of 365
days, a century may have one less.  The order of texts is proved field by field from the left
(`field_lt_field`), as the comparison of texts goes.
-/

namespace SqlCalendar

open SqlTime

/-! ## Fixed width -/

def digit (n : Nat) : Char := Char.ofNat (48 + n % 10)

/-- A number with leading zeros. -/
def padded : Nat → Nat → List Char
  | 0, _ => []
  | width + 1, n => padded width (n / 10) ++ [digit n]

/-- The number that some digits stand for. -/
def number (digits : List Char) : Nat := digits.foldl (fun n c => 10 * n + (c.toNat - 48)) 0

@[simp] theorem length_padded (width n : Nat) : (padded width n).length = width := by
  induction width generalizing n with
  | zero => rfl
  | succ width ih => simp [padded, ih]

theorem toNat_digit (n : Nat) : (digit n).toNat = 48 + n % 10 := by
  have small : n % 10 < 10 := Nat.mod_lt n (by decide)
  unfold digit
  generalize n % 10 = d at small
  revert d
  decide

theorem digit_lt_digit {m n : Nat} : digit m < digit n ↔ m % 10 < n % 10 := by
  rw [Char.lt_def, UInt32.lt_iff_toNat_lt]
  change (digit m).toNat < (digit n).toNat ↔ _
  rw [toNat_digit, toNat_digit]
  omega

theorem number_padded (width n : Nat) : number (padded width n) = n % 10 ^ width := by
  induction width generalizing n with
  | zero => simp [padded, number, Nat.mod_one]
  | succ width ih =>
      have front := ih (n / 10)
      unfold number at front ⊢
      rw [padded, List.foldl_append, front, List.foldl_cons, List.foldl_nil, toNat_digit,
        Nat.pow_succ', Nat.mod_mul]
      omega

/-! ## Texts of one shape -/

section Order

variable {front front' back back' : List Char}

theorem append_lt_append (short : front.length = front'.length) (less : front < front') :
    front ++ back < front' ++ back' := by
  induction front generalizing front' with
  | nil =>
      rw [List.eq_nil_of_length_eq_zero short.symm] at less
      exact absurd less (List.lt_irrefl _)
  | cons c front ih =>
      cases front' with
      | nil => cases short
      | cons c' front' =>
          rcases List.cons_lt_cons_iff.mp less with first | ⟨rfl, rest⟩
          · exact List.cons_lt_cons_iff.mpr (Or.inl first)
          · exact List.cons_lt_cons_iff.mpr (Or.inr ⟨rfl, ih (Nat.succ.inj short) rest⟩)

theorem append_lt_append_left (less : back < back') : front ++ back < front ++ back' := by
  induction front with
  | nil => exact less
  | cons c front ih => exact List.cons_lt_cons_iff.mpr (Or.inr ⟨rfl, ih⟩)

/-- Numbers of one width are ordered as their texts. -/
theorem padded_lt_padded {width m n : Nat} (less : m < n) (fits : n < 10 ^ width) :
    padded width m < padded width n := by
  induction width generalizing m n with
  | zero => omega
  | succ width ih =>
      rw [Nat.pow_succ] at fits
      rcases Nat.lt_or_ge (m / 10) (n / 10) with front | same
      · exact append_lt_append (by simp) (ih front (by omega))
      · have tens : m / 10 = n / 10 := by omega
        rw [padded, padded, tens]
        refine append_lt_append_left (List.cons_lt_cons_iff.mpr (Or.inl ?_))
        exact digit_lt_digit.mpr (by omega)

/-- A field, what separates it, and the rest. -/
theorem field_lt_field {width m n : Nat} {c : Char} (fits : n < 10 ^ width)
    (less : m < n ∨ m = n ∧ back < back') :
    padded width m ++ c :: back < padded width n ++ c :: back' := by
  rcases less with first | ⟨rfl, rest⟩
  · exact append_lt_append (by simp) (padded_lt_padded first fits)
  · exact append_lt_append_left (List.cons_lt_cons_iff.mpr (Or.inr ⟨rfl, rest⟩))

end Order

/-! ## The calendar

Days are counted from a first of March, so that the leap day is the last one of a year; the
Gregorian rule is then a matter of four nested quotients. -/

/-- A day of the calendar. -/
structure Date where
  year : Int
  month : Int
  day : Int
deriving DecidableEq, Repr

/-- The parts of a day that is counted from the first of March of the year 0. -/
structure Day where
  era : Int
  century : Int
  group : Int
  year : Int
  day : Int

def Day.ofNumber (number : Int) : Day :=
  let inEra := number % 146097
  let century := min (inEra / 36524) 3
  let inCentury := inEra - 36524 * century
  let inGroup := inCentury % 1461
  let year := min (inGroup / 365) 3
  { era := number / 146097, century, group := inCentury / 1461, year, day := inGroup - 365 * year }

def Day.number (d : Day) : Int :=
  146097 * d.era + 36524 * d.century + 1461 * d.group + 365 * d.year + d.day

/-- Every part is within the one before it; only the last of some years, or of some centuries, is
a day longer.  This is what makes the parts of a day unique, and so the way back from a date
possible. -/
structure Day.Valid (d : Day) : Prop where
  century : 0 ≤ d.century ∧ d.century < 4
  group : 0 ≤ d.group ∧ d.group < 25
  year : 0 ≤ d.year ∧ d.year < 4
  day : 0 ≤ d.day ∧ d.day < 366
  inYear : d.day < 365 ∨ d.year = 3
  inCentury : 1461 * d.group + 365 * d.year + d.day < 36524 ∨ d.century = 3
  inEra : 36524 * d.century + 1461 * d.group + 365 * d.year + d.day < 146097

theorem Day.valid_ofNumber (number : Int) : (Day.ofNumber number).Valid := by
  constructor <;>
    simp only [ofNumber] <;>
    omega

theorem Day.number_ofNumber (number : Int) : (Day.ofNumber number).number = number := by
  simp only [ofNumber, Day.number]
  omega

/-- The year that begins in March. -/
def Day.march (d : Day) : Int := 400 * d.era + 100 * d.century + 4 * d.group + d.year

/-- The months since March. -/
def Day.month (d : Day) : Int := (5 * d.day + 2) / 153

/-- The day of the calendar. -/
def Day.date (d : Day) : Date where
  year := if d.month < 10 then d.march else d.march + 1
  month := if d.month < 10 then d.month + 3 else d.month - 9
  day := d.day - (153 * d.month + 2) / 5 + 1

/-- The date of a day since 1970. -/
def Date.ofDays (days : Int) : Date := (Day.ofNumber (days + 719468)).date

/-- The days since 1970 of a date. -/
def Date.days (date : Date) : Int :=
  let march := if 2 < date.month then date.year else date.year - 1
  let month := if 2 < date.month then date.month - 3 else date.month + 9
  365 * march + march / 4 - march / 100 + march / 400 + (153 * month + 2) / 5 + date.day - 719469

theorem Day.days_date {d : Day} (valid : d.Valid) : d.date.days = d.number - 719468 := by
  obtain ⟨century, group, year, day, -, -, -⟩ := valid
  have fours : d.march / 4 = 100 * d.era + 25 * d.century + d.group := by
    simp only [march]
    omega
  have hundreds : d.march / 100 = 4 * d.era + d.century := by
    simp only [march]
    omega
  have eras : d.march / 400 = d.era := by
    simp only [march]
    omega
  have months : 0 ≤ d.month ∧ d.month < 12 := by
    simp only [month]
    omega
  have whole : d.march = 400 * d.era + 100 * d.century + 4 * d.group + d.year := rfl
  simp only [date, Date.days, Day.number]
  by_cases early : d.month < 10
  · simp only [early, if_true, if_pos (show 2 < d.month + 3 by omega), fours, hundreds, eras]
    omega
  · simp only [early, if_false, if_neg (show ¬ 2 < d.month - 9 by omega), add_sub_cancel_right,
      fours, hundreds, eras]
    omega

/-- A date is that of its day. -/
theorem Date.days_ofDays (days : Int) : (Date.ofDays days).days = days := by
  rw [ofDays, Day.days_date (Day.valid_ofNumber _), Day.number_ofNumber]
  omega

/-- The order of dates, field by field. -/
def Date.Before (d d' : Date) : Prop :=
  d.year < d'.year ∨ d.year = d'.year ∧ (d.month < d'.month ∨ d.month = d'.month ∧ d.day < d'.day)

/-- A later day is in a later year, or later in the year. -/
theorem Day.march_before {d d' : Day} (valid : d.Valid) (valid' : d'.Valid)
    (less : d.number < d'.number) : d.march < d'.march ∨ d.march = d'.march ∧ d.day < d'.day := by
  obtain ⟨century, group, year, day, inYear, inCentury, inEra⟩ := valid
  obtain ⟨century', group', year', day', inYear', inCentury', inEra'⟩ := valid'
  simp only [number] at less
  simp only [march]
  have eras : d.era ≤ d'.era := by omega
  rcases Int.lt_or_eq_of_le eras with earlier | sameEra
  · omega
  have centuries : d.century ≤ d'.century := by omega
  rcases Int.lt_or_eq_of_le centuries with earlier | sameCentury
  · omega
  have groups : d.group ≤ d'.group := by omega
  rcases Int.lt_or_eq_of_le groups with earlier | sameGroup
  · omega
  omega

theorem Day.before_date {d d' : Day} (valid : d.Valid) (valid' : d'.Valid)
    (less : d.number < d'.number) : d.date.Before d'.date := by
  have years := march_before valid valid' less
  have months := valid.day
  have months' := valid'.day
  simp only [Date.Before, date, month]
  omega

theorem Date.ofDays_before {days days' : Int} (less : days < days') :
    (Date.ofDays days).Before (Date.ofDays days') := by
  refine Day.before_date (Day.valid_ofNumber _) (Day.valid_ofNumber _) ?_
  rw [Day.number_ofNumber, Day.number_ofNumber]
  omega

/-- A date with four digits a year. -/
structure Date.Fits (date : Date) : Prop where
  year : 0 ≤ date.year ∧ date.year < 10000
  month : 0 ≤ date.month ∧ date.month < 100
  day : 0 ≤ date.day ∧ date.day < 100

theorem Day.fits_date {d : Day} (valid : d.Valid) (low : -60 ≤ d.number)
    (high : d.number ≤ 3652364) : d.date.Fits := by
  obtain ⟨century, group, year, day, inYear, inCentury, inEra⟩ := valid
  simp only [number] at low high
  have eras : -1 ≤ d.era ∧ d.era ≤ 24 := by omega
  -- the year 0 begins within the year of the March before
  have years : 0 ≤ d.march ∧ d.march < 9999 ∨ d.march = -1 ∧ 306 ≤ d.day ∨
      d.march = 9999 ∧ d.day < 306 := by
    simp only [march]
    omega
  constructor <;>
    simp only [date, month] <;>
    omega

theorem Date.fits_ofDays {days : Int} (low : -719528 ≤ days) (high : days ≤ 2932896) :
    (Date.ofDays days).Fits := by
  refine Day.fits_date (Day.valid_ofNumber _) ?_ ?_ <;>
    rw [Day.number_ofNumber] <;>
    omega

/-! ## Texts

The nineteen characters of a time.  Each field has a fixed width, and therefore the order of the
texts is the order of the times. -/

/-- `YYYY-MM-DD HH:MM:SS` -/
def layout (date : Date) (second : Nat) : List Char :=
  padded 4 date.year.toNat ++ '-' ::
    (padded 2 date.month.toNat ++ '-' ::
      (padded 2 date.day.toNat ++ ' ' ::
        (padded 2 (second / 3600) ++ ':' ::
          (padded 2 (second / 60 % 60) ++ ':' :: padded 2 (second % 60)))))

/-- `datetime(unix, 'unixepoch')`, of the years 0 to 9999. -/
def text (unix : Int) : List Char :=
  layout (Date.ofDays (unix / 86400)) (unix % 86400).toNat

theorem layout_lt_of_before {date date' : Date} {second second' : Nat} (fits : date.Fits)
    (fits' : date'.Fits) (before : date.Before date') :
    layout date second < layout date' second' := by
  obtain ⟨⟨year, -⟩, ⟨month, -⟩, ⟨day, -⟩⟩ := fits
  obtain ⟨⟨year', yearFits⟩, ⟨month', monthFits⟩, ⟨day', dayFits⟩⟩ := fits'
  unfold layout
  rcases before with years | ⟨sameYear, months | ⟨sameMonth, days⟩⟩
  · exact field_lt_field (by omega) (Or.inl (by omega))
  · rw [sameYear]
    refine field_lt_field (by omega) (Or.inr ⟨rfl, ?_⟩)
    exact field_lt_field (by omega) (Or.inl (by omega))
  · rw [sameYear, sameMonth]
    refine field_lt_field (by omega) (Or.inr ⟨rfl, ?_⟩)
    refine field_lt_field (by omega) (Or.inr ⟨rfl, ?_⟩)
    exact field_lt_field (by omega) (Or.inl (by omega))

theorem layout_lt_of_lt {date : Date} {second second' : Nat} (fits : date.Fits)
    (less : second < second') (bounded : second' < 86400) :
    layout date second < layout date second' := by
  obtain ⟨year, month, day⟩ := fits
  unfold layout
  refine field_lt_field (by omega) (Or.inr ⟨rfl, ?_⟩)
  refine field_lt_field (by omega) (Or.inr ⟨rfl, ?_⟩)
  refine field_lt_field (by omega) (Or.inr ⟨rfl, ?_⟩)
  refine field_lt_field (by omega) ?_
  by_cases hours : second / 3600 < second' / 3600
  · exact Or.inl hours
  refine Or.inr ⟨by omega, field_lt_field (by omega) ?_⟩
  by_cases minutes : second / 60 % 60 < second' / 60 % 60
  · exact Or.inl minutes
  exact Or.inr ⟨by omega, padded_lt_padded (by omega) (by omega)⟩

section Times

variable {unix unix' : Int}

theorem fits_of_range (low : minTimestamp ≤ unix) (high : unix ≤ maxTimestamp) :
    (Date.ofDays (unix / 86400)).Fits := by
  unfold minTimestamp at low
  unfold maxTimestamp at high
  exact Date.fits_ofDays (by omega) (by omega)

/-- **The order of the texts is that of the times.** -/
theorem text_lt_text (low : minTimestamp ≤ unix) (less : unix < unix')
    (high : unix' ≤ maxTimestamp) : text unix < text unix' := by
  have fits := fits_of_range low (by omega)
  have fits' := fits_of_range (by omega) high
  have days : unix / 86400 < unix' / 86400 ∨
      unix / 86400 = unix' / 86400 ∧ unix % 86400 < unix' % 86400 := by omega
  unfold text
  rcases days with before | ⟨same, before⟩
  · exact layout_lt_of_before fits fits' (Date.ofDays_before before)
  · rw [same]
    exact layout_lt_of_lt fits' (by omega) (by omega)

/-- Texts may be compared for times. -/
theorem text_le_text (low : minTimestamp ≤ unix) (high : unix ≤ maxTimestamp)
    (low' : minTimestamp ≤ unix') (high' : unix' ≤ maxTimestamp) :
    text unix ≤ text unix' ↔ unix ≤ unix' := by
  constructor
  · intro before
    by_contra later
    exact not_lt_of_ge before (text_lt_text low' (by omega) high)
  · intro before
    rcases Int.lt_or_eq_of_le before with earlier | rfl
    · exact le_of_lt (text_lt_text low earlier high')
    · exact le_refl _

end Times

/-- The first number of a text, and what is behind its separator. -/
def field (width : Nat) (s : List Char) : Nat × List Char :=
  (number (s.take width), s.drop (width + 1))

theorem field_padded (width n : Nat) (c : Char) (rest : List Char) :
    field width (padded width n ++ c :: rest) = (n % 10 ^ width, rest) := by
  have front := length_padded width n
  rw [field, List.take_left' front, number_padded, ← List.drop_drop, List.drop_left' front]
  rfl

/-- The numbers of a text, by their places.  The separators are skipped and not looked at, so this
reads back what was written and is no check of what was not. -/
def fields (s : List Char) : Date × Nat :=
  let (year, s) := field 4 s
  let (month, s) := field 2 s
  let (day, s) := field 2 s
  let (hour, s) := field 2 s
  let (minute, s) := field 2 s
  ({ year, month, day }, 3600 * hour + 60 * minute + number s)

theorem fields_layout {date : Date} {second : Nat} (fits : date.Fits) (bounded : second < 86400) :
    fields (layout date second) = (date, second) := by
  obtain ⟨year, month, day⟩ := fits
  obtain ⟨y, m, d⟩ := date
  simp only at year month day
  simp only [fields, layout, field_padded, number_padded, Prod.mk.injEq, Date.mk.injEq]
  omega

/-- The time of a text that `datetime` writes. -/
def read (s : List Char) : Option Int :=
  let (date, second) := fields s
  let unix := 86400 * date.days + second
  if s = text unix then some unix else none

/-- **A text is read back.** -/
theorem read_text {unix : Int} (low : minTimestamp ≤ unix) (high : unix ≤ maxTimestamp) :
    read (text unix) = some unix := by
  have fields : fields (text unix) = (Date.ofDays (unix / 86400), (unix % 86400).toNat) :=
    fields_layout (fits_of_range low high) (by omega)
  have back : 86400 * (unix / 86400) + ((unix % 86400).toNat : Int) = unix := by omega
  simp only [read, fields, Date.days_ofDays, back, if_true]

end SqlCalendar
