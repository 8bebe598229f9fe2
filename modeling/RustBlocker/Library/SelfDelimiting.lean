import Mathlib

/-!
# Self-delimiting encodings

An encoding into lists is self-delimiting on a set of values when the first value of a
concatenation can be read off it, together with what follows.  A concatenation of such encodings
then determines the values (`SelfDelimiting.flatMap_inj`).

The means to this end are cuts: a list is cut at its first element with a property
(`append_cons_inj`), at its first separator (`append_sep_inj`) or at its last one
(`sep_append_inj`) in one way.

The set of values matters.  An encoding that joins fields by a separator is self-delimiting on the
values whose fields are free of it, and on others it is not; so the property `p` is an argument,
and where an encoding is found not to be injective it is a value outside of `p` that shows it.
Nothing is asked of the encoding as a function: no decoder has to be given, only that two
concatenations that agree begin with the same value.
-/

universe u v

variable {α : Type u} {χ : Type v}

/-- **The first cut.**  What stands before the first element with the property, that
element, and what stands after it. -/
theorem append_cons_inj {q : χ → Prop} {s s' t t' : List χ} {c c' : χ}
    (before : ∀ x ∈ s, ¬ q x) (before' : ∀ x ∈ s', ¬ q x) (here : q c) (here' : q c')
    (same : s ++ c :: t = s' ++ c' :: t') : s = s' ∧ c = c' ∧ t = t' := by
  induction s generalizing s' with
  | nil =>
      cases s' with
      | nil => exact ⟨rfl, List.head_eq_of_cons_eq same, List.tail_eq_of_cons_eq same⟩
      | cons d rest =>
          have first : c = d := List.head_eq_of_cons_eq same
          exact absurd (first ▸ here) (before' d List.mem_cons_self)
  | cons d rest ih =>
      cases s' with
      | nil =>
          have first : d = c' := List.head_eq_of_cons_eq same
          exact absurd (first ▸ here') (before d List.mem_cons_self)
      | cons d' rest' =>
          have first : d = d' := List.head_eq_of_cons_eq same
          obtain ⟨front, rest⟩ := ih (fun x mem => before x (List.mem_cons_of_mem _ mem))
            (fun x mem => before' x (List.mem_cons_of_mem _ mem)) (List.tail_eq_of_cons_eq same)
          exact ⟨by rw [first, front], rest⟩

/-- **The first separator.** -/
theorem append_sep_inj {c : χ} {s s' t t' : List χ} (free : c ∉ s) (free' : c ∉ s')
    (same : s ++ c :: t = s' ++ c :: t') : s = s' ∧ t = t' := by
  have apart : ∀ {l : List χ}, c ∉ l → ∀ x ∈ l, ¬ x = c := by
    rintro l free x mem rfl
    exact free mem
  obtain ⟨front, -, back⟩ := append_cons_inj (apart free) (apart free') rfl rfl same
  exact ⟨front, back⟩

/-- **The last separator.** -/
theorem sep_append_inj {c : χ} {s s' t t' : List χ} (free : c ∉ t) (free' : c ∉ t')
    (same : s ++ c :: t = s' ++ c :: t') : s = s' ∧ t = t' := by
  have reversed := congrArg List.reverse same
  simp only [List.reverse_append, List.reverse_cons, List.append_assoc, List.singleton_append]
    at reversed
  obtain ⟨back, front⟩ := append_sep_inj (fun mem => free (List.mem_reverse.mp mem))
    (fun mem => free' (List.mem_reverse.mp mem)) reversed
  exact ⟨List.reverse_injective front, List.reverse_injective back⟩

/-- **A self-delimiting encoding** of the values with the property `p`: none is empty,
and the first of a concatenation can be read off it. -/
structure SelfDelimiting (encode : α → List χ) (p : α → Prop) : Prop where
  ne_nil : ∀ a, encode a ≠ []
  first : ∀ a b, p a → p b → ∀ s t, encode a ++ s = encode b ++ t → a = b ∧ s = t

/-- **The values are determined by their concatenated encodings.** -/
theorem SelfDelimiting.flatMap_inj {encode : α → List χ} {p : α → Prop}
    (delimited : SelfDelimiting encode p) {values values' : List α} (all : ∀ a ∈ values, p a)
    (all' : ∀ a ∈ values', p a) (same : values.flatMap encode = values'.flatMap encode) :
    values = values' := by
  induction values generalizing values' with
  | nil =>
      cases values' with
      | nil => rfl
      | cons b rest =>
          rw [List.flatMap_nil, List.flatMap_cons] at same
          exact absurd (List.append_eq_nil_iff.mp same.symm).1 (delimited.ne_nil b)
  | cons a rest ih =>
      cases values' with
      | nil =>
          rw [List.flatMap_nil, List.flatMap_cons] at same
          exact absurd (List.append_eq_nil_iff.mp same).1 (delimited.ne_nil a)
      | cons b rest' =>
          rw [List.flatMap_cons, List.flatMap_cons] at same
          obtain ⟨here, later⟩ := delimited.first a b (all a List.mem_cons_self)
            (all' b List.mem_cons_self) _ _ same
          rw [here, ih (fun a mem => all a (List.mem_cons_of_mem _ mem))
            (fun b mem => all' b (List.mem_cons_of_mem _ mem)) later]
