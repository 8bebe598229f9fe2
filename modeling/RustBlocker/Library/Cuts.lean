import Mathlib

/-!
# Cuts

A stretch of positions is cut into consecutive regions when each region starts where the one
before it ends.  `Cut item start regions stop` says so of regions that are items, where `item a b`
means that an item starts at `a` and ends at `b`.

No two regions of a cut have a position in common if no item is empty (`Cut.disjoint`), and where
the start of an item determines its end there is one cut into a given number of items
(`Cut.unique`).

What an item is stays open: a record of a message, a name, an entry of a file.  The relation
`item` is as a rule one that a parser decides, and a cut is then what a parser finds that goes on
where it stopped.  The two assumptions under which something can be said, that items are not empty
and that their start determines their end, are hypotheses of the lemmas that need them and of no
others.
-/

/-- `item a b`: an item starts at `a` and ends at `b`.  The stretch from `start` to `stop` is cut
into the regions. -/
inductive Cut (item : Nat → Nat → Prop) : Nat → List (Nat × Nat) → Nat → Prop
  | nil {start : Nat} : Cut item start [] start
  | cons {start next stop : Nat} {regions : List (Nat × Nat)} (here : item start next)
      (rest : Cut item next regions stop) : Cut item start ((start, next) :: regions) stop

namespace Cut

variable {item : Nat → Nat → Prop} {start middle stop : Nat} {regions : List (Nat × Nat)}

theorem append {more : List (Nat × Nat)} (cut : Cut item start regions middle)
    (after : Cut item middle more stop) : Cut item start (regions ++ more) stop := by
  induction cut with
  | nil => exact after
  | cons here _ ih => exact .cons here (ih after)

/-- One more item at the end. -/
theorem concat (cut : Cut item start regions middle) (last : item middle stop) :
    Cut item start (regions ++ [(middle, stop)]) stop :=
  cut.append (.cons last .nil)

/-- The stretch ends where its start or an item may end. -/
theorem stop_le {bound : Nat} (ends : ∀ a b, item a b → b ≤ bound) (inside : start ≤ bound)
    (cut : Cut item start regions stop) : stop ≤ bound := by
  induction cut with
  | nil => exact inside
  | cons here _ ih => exact ih (ends _ _ here)

theorem mono {item' : Nat → Nat → Prop} (imp : ∀ a b, item a b → item' a b)
    (cut : Cut item start regions stop) : Cut item' start regions stop := by
  induction cut with
  | nil => exact .nil
  | cons here _ ih => exact .cons (imp _ _ here) ih

theorem item_of_mem (cut : Cut item start regions stop) {region : Nat × Nat}
    (mem : region ∈ regions) : item region.1 region.2 := by
  induction cut with
  | nil => cases mem
  | cons here _ ih =>
      rcases List.mem_cons.mp mem with rfl | later
      · exact here
      · exact ih later

section Forward

variable (forward : ∀ a b, item a b → a < b)

include forward

theorem le (cut : Cut item start regions stop) : start ≤ stop := by
  induction cut with
  | nil => exact le_rfl
  | cons here _ ih => exact (forward _ _ here).le.trans ih

/-- A region lies within the stretch. -/
theorem within (cut : Cut item start regions stop) {region : Nat × Nat}
    (mem : region ∈ regions) : start ≤ region.1 ∧ region.1 < region.2 ∧ region.2 ≤ stop := by
  induction cut with
  | nil => cases mem
  | cons here rest ih =>
      rcases List.mem_cons.mp mem with rfl | later
      · exact ⟨le_rfl, forward _ _ here, rest.le forward⟩
      · obtain ⟨after, filled, before⟩ := ih later
        exact ⟨(forward _ _ here).le.trans after, filled, before⟩

/-- **No two regions overlap.** -/
theorem disjoint (cut : Cut item start regions stop) :
    regions.Pairwise fun region later =>
      Disjoint (Set.Ico region.1 region.2) (Set.Ico later.1 later.2) := by
  induction cut with
  | nil => exact .nil
  | cons _ rest ih =>
      refine .cons (fun later mem => ?_) ih
      have apart := (rest.within forward mem).1
      exact Set.Ico_disjoint_Ico.mpr (min_le_of_left_le (le_max_of_le_right apart))

end Forward

/-- **There is one cut into so many items**, if the start of an item determines its end.  It takes
no account of whether items may be empty. -/
theorem unique (functional : ∀ a b b', item a b → item a b' → b = b') {stop' : Nat}
    {regions' : List (Nat × Nat)} (cut : Cut item start regions stop)
    (cut' : Cut item start regions' stop') (same : regions.length = regions'.length) :
    regions = regions' ∧ stop = stop' := by
  induction cut generalizing regions' with
  | nil =>
      cases cut' with
      | nil => exact ⟨rfl, rfl⟩
      | cons here rest => cases same
  | cons here _ ih =>
      cases cut' with
      | nil => cases same
      | cons here' rest' =>
          obtain rfl := functional _ _ _ here here'
          obtain ⟨rfl, ends⟩ := ih rest' (Nat.succ.inj same)
          exact ⟨rfl, ends⟩

end Cut

/-! ## So many items -/

/-- The stretch is cut into `count` items.  Which regions these are is left out, since where the
item relation is functional there is no choice. -/
def CutInto (item : Nat → Nat → Prop) (start count stop : Nat) : Prop :=
  ∃ regions, regions.length = count ∧ Cut item start regions stop

section CutInto

variable {item : Nat → Nat → Prop} {start middle stop count : Nat}

theorem cutInto_zero : CutInto item start 0 start := ⟨[], rfl, .nil⟩

theorem CutInto.succ (cut : CutInto item start count middle) (last : item middle stop) :
    CutInto item start (count + 1) stop := by
  obtain ⟨regions, rfl, cut⟩ := cut
  exact ⟨regions ++ [(middle, stop)], List.length_append, cut.concat last⟩

end CutInto
