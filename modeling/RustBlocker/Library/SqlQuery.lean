import Mathlib

/-!
# `LIKE`, `LIMIT` and `OFFSET`

The parts of a `SELECT` that choose rows by a pattern and cut the result into pages.

* `SqlQuery.Reads` says what a text must be to be read as a pattern, and `SqlQuery.like_iff` that
  the matcher decides it.
* `SqlQuery.contains_iff` takes away the two runs around a pattern `%s%`: some part of the text
  reads as `s`.
* `SqlQuery.pages_flatten`: the pages of a list, up to the first empty one, are the list.

Two things of SQLite are left out of the matcher.  It stops at U+0000, in the pattern and in the
text, and it refuses patterns of more than 50000 bytes; a pattern or a text with that character,
or a longer pattern, is matched here as if neither were so.  Letters are compared without case in
ASCII only, as SQLite does without an extension, and there is no escape character, since a query
without an `ESCAPE` clause has none.

`Reads` is the specification.  It is an inductive relation with one rule for each thing that a
pattern may begin with, and it is from `Reads` and not from the matcher that the results about
`%s%` are proved.
-/

namespace SqlQuery

/-- Letters of ASCII are compared without case, other characters as they are. -/
def SameLetter (c d : Char) : Prop := c.toLower = d.toLower

instance : DecidableRel SameLetter := fun c d => inferInstanceAs (Decidable (c.toLower = d.toLower))

/-- Whether a character of a pattern stands for others. -/
def isWild (c : Char) : Bool := c = '%' || c = '_'

/-- `text LIKE pattern`: `%` stands for any run of characters and `_` for one.  This is the
matcher of SQLite for patterns and texts without U+0000, at which it stops, and for patterns of at
most 50000 bytes, beyond which it is an error. -/
def like : List Char → List Char → Bool
  | [], text => text.isEmpty
  | c :: pattern, text =>
      if c = '%' then text.tails.any fun rest => like pattern rest
      else
        match text with
        | [] => false
        | d :: rest => (c = '_' || decide (SameLetter c d)) && like pattern rest

/-- The text reads as the pattern. -/
inductive Reads : List Char → List Char → Prop
  | nil : Reads [] []
  | run {pattern rest : List Char} (skipped : List Char) (reads : Reads pattern rest) :
      Reads ('%' :: pattern) (skipped ++ rest)
  | one {pattern rest : List Char} (d : Char) (reads : Reads pattern rest) :
      Reads ('_' :: pattern) (d :: rest)
  | letter {pattern rest : List Char} {c d : Char} (plain : isWild c = false)
      (same : SameLetter c d) (reads : Reads pattern rest) : Reads (c :: pattern) (d :: rest)

section Reading

variable {pattern pattern' text text' : List Char} {c : Char}

@[simp] theorem reads_nil : Reads [] text ↔ text = [] := by
  constructor
  · rintro ⟨⟩
    rfl
  · rintro rfl
    exact .nil

theorem reads_run : Reads ('%' :: pattern) text ↔
    ∃ skipped rest, text = skipped ++ rest ∧ Reads pattern rest := by
  constructor
  · intro reads
    cases reads with
    | run skipped reads => exact ⟨skipped, _, rfl, reads⟩
    | letter plain _ _ => cases plain
  · rintro ⟨skipped, rest, rfl, reads⟩
    exact .run skipped reads

theorem reads_one : Reads ('_' :: pattern) text ↔
    ∃ d rest, text = d :: rest ∧ Reads pattern rest := by
  constructor
  · intro reads
    cases reads with
    | one d reads => exact ⟨d, _, rfl, reads⟩
    | letter plain _ _ => cases plain
  · rintro ⟨d, rest, rfl, reads⟩
    exact .one d reads

theorem reads_letter (plain : isWild c = false) : Reads (c :: pattern) text ↔
    ∃ d rest, text = d :: rest ∧ SameLetter c d ∧ Reads pattern rest := by
  constructor
  · intro reads
    cases reads with
    | run => cases plain
    | one => cases plain
    | letter _ same reads => exact ⟨_, _, rfl, same, reads⟩
  · rintro ⟨d, rest, rfl, same, reads⟩
    exact .letter plain same reads

/-- **The matcher decides whether a text reads as a pattern.** -/
theorem like_iff (pattern text : List Char) : like pattern text = true ↔ Reads pattern text := by
  induction pattern generalizing text with
  | nil => rw [like, reads_nil, List.isEmpty_iff]
  | cons c pattern ih =>
      unfold like
      split
      next run =>
        subst run
        rw [reads_run, List.any_eq_true]
        simp only [List.mem_tails, ih]
        constructor
        · rintro ⟨rest, ⟨skipped, rfl⟩, reads⟩
          exact ⟨skipped, rest, rfl, reads⟩
        · rintro ⟨skipped, rest, rfl, reads⟩
          exact ⟨rest, ⟨skipped, rfl⟩, reads⟩
      next notRun =>
        by_cases one : c = '_'
        · subst one
          rw [reads_one]
          cases text with
          | nil => simp
          | cons d rest => simp [ih]
        · have plain : isWild c = false := by simp [isWild, notRun, one]
          rw [reads_letter plain]
          cases text with
          | nil => simp
          | cons d rest => simp [ih, one]

/-- A pattern in two parts cuts the text in two. -/
theorem reads_append : Reads (pattern ++ pattern') text ↔
    ∃ first last, text = first ++ last ∧ Reads pattern first ∧ Reads pattern' last := by
  induction pattern generalizing text with
  | nil => simp
  | cons c pattern ih =>
      rw [List.cons_append]
      by_cases run : c = '%'
      · subst run
        simp only [reads_run, ih]
        constructor
        · rintro ⟨skipped, _, rfl, first, last, rfl, here, there⟩
          exact ⟨skipped ++ first, last, by simp, ⟨skipped, first, rfl, here⟩, there⟩
        · rintro ⟨_, last, rfl, ⟨skipped, first, rfl, here⟩, there⟩
          exact ⟨skipped, first ++ last, by simp, first, last, rfl, here, there⟩
      · by_cases one : c = '_'
        · subst one
          simp only [reads_one, ih]
          constructor
          · rintro ⟨d, _, rfl, first, last, rfl, here, there⟩
            exact ⟨d :: first, last, rfl, ⟨d, first, rfl, here⟩, there⟩
          · rintro ⟨_, last, rfl, ⟨d, first, rfl, here⟩, there⟩
            exact ⟨d, first ++ last, rfl, first, last, rfl, here, there⟩
        · have plain : isWild c = false := by simp [isWild, run, one]
          simp only [reads_letter plain, ih]
          constructor
          · rintro ⟨d, _, rfl, same, first, last, rfl, here, there⟩
            exact ⟨d :: first, last, rfl, ⟨d, first, rfl, same, here⟩, there⟩
          · rintro ⟨_, last, rfl, ⟨d, first, rfl, same, here⟩, there⟩
            exact ⟨d, first ++ last, rfl, same, first, last, rfl, here, there⟩

/-- **`%s%`** is read by the texts with a part that reads as `s`. -/
theorem contains_iff : Reads ('%' :: (pattern ++ ['%'])) text ↔
    ∃ before here after, text = before ++ (here ++ after) ∧ Reads pattern here := by
  simp only [reads_run, reads_append, reads_nil]
  constructor
  · rintro ⟨before, _, rfl, here, after, rfl, reads, -⟩
    exact ⟨before, here, after, rfl, reads⟩
  · rintro ⟨before, here, after, rfl, reads⟩
    exact ⟨before, here ++ after, rfl, here, after, rfl, reads, after, [], by simp, rfl⟩

/-- A text that is the pattern, up to case, reads as it. -/
theorem reads_of_forall₂ (same : List.Forall₂ SameLetter pattern text) : Reads pattern text := by
  induction same with
  | nil => exact .nil
  | @cons c d pattern text letter _ ih =>
      by_cases run : c = '%'
      · subst run
        exact .run [d] ih
      · by_cases one : c = '_'
        · subst one
          exact .one d ih
        · exact .letter (by simp [isWild, run, one]) letter ih

/-- Without a wildcard only such texts do. -/
theorem reads_iff_of_plain (plain : ∀ c ∈ pattern, isWild c = false) :
    Reads pattern text ↔ List.Forall₂ SameLetter pattern text := by
  refine ⟨fun reads => ?_, reads_of_forall₂⟩
  induction reads with
  | nil => exact .nil
  | run skipped _ _ => cases plain _ List.mem_cons_self
  | one d _ _ => cases plain _ List.mem_cons_self
  | letter _ same _ ih =>
      exact .cons same (ih fun c mem => plain c (List.mem_cons_of_mem _ mem))

end Reading

/-! ## Pages

A list that is read page by page, until a page is empty, is read as a whole, whatever the size of
the pages. -/

section Pages

universe u

variable {α : Type u}

/-- `LIMIT ? OFFSET ?`: a negative limit is none, a negative offset is zero.  Both are any
integers, since the code binds what a request says. -/
def page (limit offset : Int) (rows : List α) : List α :=
  if limit < 0 then rows.drop offset.toNat else (rows.drop offset.toNat).take limit.toNat

theorem page_natCast (n k : Nat) (rows : List α) :
    page n (k * n : Nat) rows = (rows.drop (k * n)).take n := by
  rw [page, if_neg (by omega), Int.toNat_natCast, Int.toNat_natCast]

/-- The first pages are the first rows. -/
theorem flatMap_pages (n k : Nat) (rows : List α) :
    (List.range k).flatMap (fun j => page n (j * n : Nat) rows) = rows.take (k * n) := by
  induction k with
  | zero => simp
  | succ k ih =>
      rw [List.range_succ, List.flatMap_append, ih, Nat.succ_mul, List.take_add]
      show _ ++ (page n (k * n : Nat) rows ++ []) = _
      rw [List.append_nil, page_natCast]

/-- The pages from the first on are not empty until the `k`-th, and these joined are `rows`.  It
is what a reader has who asks for one page after the other and stops at the first empty one. -/
def ReadsThrough (pages : Nat → List α) (rows : List α) : Prop :=
  ∃ k, pages k = [] ∧ (∀ j < k, pages j ≠ []) ∧ (List.range k).flatMap pages = rows

/-- There is at most one first empty page. -/
theorem ReadsThrough.unique {pages : Nat → List α} {rows rows' : List α}
    (one : ReadsThrough pages rows) (other : ReadsThrough pages rows') : rows = rows' := by
  obtain ⟨k, empty, before, joined⟩ := one
  obtain ⟨k', empty', before', joined'⟩ := other
  have same : k = k' := by
    rcases Nat.lt_trichotomy k k' with less | same | more
    · exact absurd empty (before' k less)
    · exact same
    · exact absurd empty' (before k' more)
  subst same
  rw [← joined, ← joined']

/-- **The pages of a list, up to the first empty one, are the list.** -/
theorem pages_flatten {n : Nat} (positive : 0 < n) (rows : List α) :
    ReadsThrough (fun k => page n (k * n : Nat) rows) rows := by
  -- The first page past the end is the number of rows divided by `n`, rounded up.
  have covered : rows.length ≤ (rows.length + n - 1) / n * n := by
    have := Nat.lt_div_mul_add positive (a := rows.length + n - 1)
    omega
  have tight : ∀ j < (rows.length + n - 1) / n, j * n < rows.length := by
    intro j less
    have := (Nat.le_div_iff_mul_le positive).mp less
    rw [Nat.succ_mul] at this
    omega
  refine ⟨(rows.length + n - 1) / n, ?_, fun j less => ?_, ?_⟩
  · simp only
    rw [page_natCast, List.drop_eq_nil_of_le covered, List.take_nil]
  · simp only
    rw [page_natCast]
    intro empty
    have short := congrArg List.length empty
    rw [List.length_take, List.length_drop, List.length_nil] at short
    have := tight j less
    omega
  · rw [flatMap_pages, List.take_of_length_le covered]

end Pages

end SqlQuery
