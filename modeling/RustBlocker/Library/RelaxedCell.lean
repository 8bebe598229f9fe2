import RustBlocker.Library.StateMachine
import RustBlocker.Library.Tasks

/-!
# Cells that are read and written apart

A call reads a cell, makes a new value of what it read, and writes that; other calls do the same
in between, and nothing makes the two accesses one.

* **Memory is relaxed.**  A read returns any value that the cell has held, not only the last one.
* **Updates get lost**, in any number, and a call that began may never come to its write.
* **No update is done twice.**  `traced_of_exec` follows every value back to the first one,
  through calls each of which was written once: it is what some of the calls make of the first
  value, in some order.

From it come the two rules that a user needs: `forall_values` for what every update keeps, and
`size_le` for what every update adds to.  Calls that follow one another lose nothing
(`exec_oneByOne`).

## What is modelled

A cell is one atomic with relaxed loads and stores, and its history is the list of the values
stored.  That a load may return any of them is more than a memory model allows, where a thread
does not go back behind what it has seen; so what is proved here holds under every such model. Two
cells are two histories, and nothing is said of the order of accesses to different cells: `stepIf`
and `exec_filterMap_cons` are for machines that have several cells and step one at a time.  A call
that decides, by what it read, to write nothing is covered by `update` returning nothing.

`Traced` is a statement about the calls as a multiset.  The order in which the calls of a value
were done is not the order in which they began or were written, and none is claimed.
-/

universe u v

/-- Where a call stands. -/
inductive CallStage (α : Type u) where
  | begun
  /-- The cell was read, and nothing written yet. -/
  | read (value : α)
  | written
deriving DecidableEq

namespace CallStage

variable {α : Type u}

def isWritten : CallStage α → Bool
  | written => true
  | _ => false

end CallStage

/-- A cell, and the calls that update it. -/
structure RelaxedCell (κ : Type u) (α : Type v) where
  /-- The values it has held, the last one last. -/
  values : List α
  calls : List (κ × CallStage α) := []

inductive CellEvent (κ : Type u) (α : Type v) where
  | begins (call : κ)
  | reads (index : Nat) (value : α)
  | writes (index : Nat)

/-- The call that begins. -/
def CellEvent.call {κ : Type u} {α : Type v} : CellEvent κ α → Option κ
  | .begins call => some call
  | _ => none

namespace RelaxedCell

variable {κ : Type u} {α : Type v}

section Step

variable (update : κ → α → Option α)

/-- What a call makes of a value; it may leave the cell alone. -/
def applied (call : κ) (value : α) : α := (update call value).getD value

def step [DecidableEq α] (cell : RelaxedCell κ α) : CellEvent κ α → Option (RelaxedCell κ α)
  | .begins call => some { cell with calls := cell.calls ++ [(call, .begun)] }
  | .reads index value =>
      match cell.calls[index]? with
      | some (call, .begun) =>
          if value ∈ cell.values then
            some { cell with calls := cell.calls.set index (call, .read value) }
          else none
      | _ => none
  | .writes index =>
      match cell.calls[index]? with
      | some (call, .read value) =>
          some
            { values := cell.values ++ (update call value).toList
              calls := cell.calls.set index (call, .written) }
      | _ => none

/-- The machine of a cell that holds its first value. -/
def machine [DecidableEq α] (first : α) : StateMachine (RelaxedCell κ α) (CellEvent κ α) where
  init cell := cell = { values := [first] }
  step cell event := cell.step update event

end Step

/-- **What a step can do.** -/
theorem step_cases [DecidableEq α] {update : κ → α → Option α} {cell next : RelaxedCell κ α}
    {event : CellEvent κ α} (stepped : cell.step update event = some next) :
    (∃ call, event = .begins call ∧
      next = { cell with calls := cell.calls ++ [(call, .begun)] }) ∨
    (∃ index call value, event = .reads index value ∧
      cell.calls[index]? = some (call, .begun) ∧ value ∈ cell.values ∧
      next = { cell with calls := cell.calls.set index (call, .read value) }) ∨
    (∃ index call value, event = .writes index ∧
      cell.calls[index]? = some (call, .read value) ∧
      next =
        { values := cell.values ++ (update call value).toList
          calls := cell.calls.set index (call, .written) }) := by
  cases event with
  | begins call => exact Or.inl ⟨call, rfl, (Option.some.inj stepped).symm⟩
  | reads index value =>
      simp only [step] at stepped
      split at stepped
      next call here =>
        obtain ⟨held, stepped⟩ := Option.ite_none_right_eq_some.mp stepped
        exact Or.inr (Or.inl ⟨index, call, value, rfl, here, held,
          (Option.some.inj stepped).symm⟩)
      next => cases stepped
  | writes index =>
      simp only [step] at stepped
      split at stepped
      next call value here =>
        exact Or.inr (Or.inr ⟨index, call, value, rfl, here, (Option.some.inj stepped).symm⟩)
      next => cases stepped

/-- A step that other cells may take instead: an event that is none of this cell leaves it
alone. -/
def stepIf [DecidableEq α] (update : κ → α → Option α) (cell : RelaxedCell κ α) :
    Option (CellEvent κ α) → Option (RelaxedCell κ α)
  | some event => cell.step update event
  | none => some cell

/-- One cell of several, in a run of all of them. -/
theorem exec_filterMap_cons [DecidableEq α] {update : κ → α → Option α} {first : α}
    {cell next last : RelaxedCell κ α} {ε : Type*} {own : ε → Option (CellEvent κ α)} {event : ε}
    {rest : List ε} (one : cell.stepIf update (own event) = some next)
    (later : (machine update first).exec next (rest.filterMap own) = some last) :
    (machine update first).exec cell ((event :: rest).filterMap own) = some last := by
  rw [List.filterMap_cons]
  cases mine : own event with
  | none =>
      rw [mine] at one
      obtain rfl := Option.some.inj one
      exact later
  | some inner =>
      rw [mine] at one
      exact (machine update first).exec_cons_eq_some.mpr ⟨next, one, later⟩

/-- The calls so far. -/
def begun (cell : RelaxedCell κ α) : List κ := cell.calls.map Prod.fst

/-- The calls that came to their write. -/
def written (cell : RelaxedCell κ α) : List κ :=
  (cell.calls.filter fun call => call.2.isWritten).map Prod.fst

theorem written_sublist (cell : RelaxedCell κ α) : cell.written.Sublist cell.begun :=
  List.filter_sublist.map _

/-- A call that goes on is the call it was. -/
theorem map_fst_set {calls : List (κ × CallStage α)} {index : Nat} {call : κ}
    {stage : CallStage α} (here : calls[index]? = some (call, stage)) (later : CallStage α) :
    (calls.set index (call, later)).map Prod.fst = calls.map Prod.fst := by
  rw [List.map_set]
  refine List.ext_getElem? fun position => ?_
  rw [List.getElem?_set]
  split
  next same =>
    subst same
    rw [List.getElem?_map, here, List.length_map, if_pos (List.getElem?_eq_some_iff.mp here).1]
    rfl
  next => rfl

theorem begun_step [DecidableEq α] {update : κ → α → Option α} {cell next : RelaxedCell κ α}
    {event : CellEvent κ α} (stepped : cell.step update event = some next) :
    next.begun = cell.begun ++ event.call.toList := by
  rcases step_cases stepped with ⟨call, rfl, rfl⟩ | ⟨index, call, value, rfl, here, -, rfl⟩ |
    ⟨index, call, value, rfl, here, rfl⟩
  · exact List.map_append
  · exact (map_fst_set here _).trans (List.append_nil _).symm
  · exact (map_fst_set here _).trans (List.append_nil _).symm

/-- The calls of a run are those that its events began. -/
theorem begun_of_exec [DecidableEq α] {update : κ → α → Option α} {first : α}
    {cell last : RelaxedCell κ α} {events : List (CellEvent κ α)}
    (run : (machine update first).exec cell events = some last) :
    last.begun = cell.begun ++ events.filterMap CellEvent.call := by
  induction events generalizing cell with
  | nil =>
      cases run
      exact (List.append_nil _).symm
  | cons event rest ih =>
      obtain ⟨m, one, later⟩ := (machine update first).exec_cons_eq_some.mp run
      rw [ih later, begun_step one, List.append_assoc, List.filterMap_cons]
      cases event.call <;> rfl

/-! ## Where values come from

A relaxed load may return any value the cell has had, so nothing can be said of the last one
alone. What can be said is where each value comes from: some of the calls, each at most once. -/

section Origin

variable {update : κ → α → Option α} {first : α} {cell next : RelaxedCell κ α}

/-- **Every value is what some of the calls make of the first**, each of them at most once.  The
value that a call has read and not yet used is one of the values, which is what carries the
statement over its write. -/
structure Traced (update : κ → α → Option α) (first : α) (cell : RelaxedCell κ α) : Prop where
  values : ∀ value ∈ cell.values, ∃ part : List κ, part.Subperm cell.written ∧
    part.foldl (fun value call => applied update call value) first = value
  read : ∀ call value, (call, .read value) ∈ cell.calls → value ∈ cell.values

theorem traced_init : Traced update first { values := [first] } where
  values value mem := by
    obtain rfl := List.mem_singleton.mp mem
    exact ⟨[], List.nil_subperm, rfl⟩
  read _ _ mem := by cases mem

/-- A call that is at another stage, but has not written. -/
theorem Traced.unwritten (traced : Traced update first cell) {calls : List (κ × CallStage α)}
    (same : cell.written.Subperm { cell with calls := calls }.written)
    (read : ∀ call value, (call, .read value) ∈ calls → value ∈ cell.values) :
    Traced update first { cell with calls := calls } where
  values value mem := by
    obtain ⟨part, chosen, made⟩ := traced.values value mem
    exact ⟨part, chosen.trans same, made⟩
  read := read

theorem Traced.step [DecidableEq α] (traced : Traced update first cell) {event : CellEvent κ α}
    (stepped : cell.step update event = some next) : Traced update first next := by
  rcases step_cases stepped with ⟨call, rfl, rfl⟩ | ⟨index, call, value, rfl, here, held, rfl⟩ |
    ⟨index, call, value, rfl, here, rfl⟩
  · refine traced.unwritten ?_ fun call' value mem => ?_
    · exact (((List.sublist_append_left cell.calls _).filter _).map _).subperm
    · rcases List.mem_append.mp mem with old | new
      · exact traced.read call' value old
      · cases List.mem_singleton.mp new
  · have same : (((cell.calls.set index (call, .read value)).filter
        fun call => call.2.isWritten).map Prod.fst).Perm cell.written :=
      Tasks.map_filter_set_of_kept _ Prod.fst here rfl rfl
    refine traced.unwritten same.symm.subperm fun call' value' mem => ?_
    rcases List.mem_or_eq_of_mem_set mem with old | new
    · exact traced.read call' value' old
    · cases new
      exact held
  · have grown : (((cell.calls.set index (call, .written)).filter
        fun call => call.2.isWritten).map Prod.fst).Perm (call :: cell.written) :=
      Tasks.map_filter_set _ Prod.fst here rfl rfl
    have held := traced.read call value (List.mem_of_getElem? here)
    refine ⟨fun value' mem => ?_, fun call' value' mem => ?_⟩
    · rcases List.mem_append.mp mem with old | new
      · obtain ⟨part, chosen, made⟩ := traced.values value' old
        exact ⟨part, (chosen.trans (List.sublist_cons_self _ _).subperm).trans grown.symm.subperm,
          made⟩
      · -- the value that was read came without this call, which had not written yet
        obtain ⟨part, chosen, made⟩ := traced.values value held
        refine ⟨part ++ [call], ?_, ?_⟩
        · refine List.Subperm.trans ?_ grown.symm.subperm
          refine (List.perm_append_singleton call part).subperm.trans ?_
          exact (List.subperm_cons call).mpr chosen
        · rw [List.foldl_append, made, List.foldl_cons, List.foldl_nil, applied,
            Option.mem_toList.mp new, Option.getD_some]
    · rcases List.mem_or_eq_of_mem_set mem with old | new
      · exact List.mem_append_left _ (traced.read call' value' old)
      · cases new

/-- **The values of every run** come from the calls. -/
theorem traced_of_exec [DecidableEq α] {events : List (CellEvent κ α)}
    (run : (machine update first).exec { values := [first] } events = some cell) :
    Traced update first cell :=
  (machine update first).exec_invariant (fun _ _ _ traced _ stepped => traced.step stepped)
    traced_init ((machine update first).stepsMeet_true events _) run

/-- **What every update keeps** holds of every value. -/
theorem Traced.forall_values (traced : Traced update first cell) (good : α → Prop)
    (start : good first)
    (kept : ∀ call ∈ cell.begun, ∀ value, good value → good (applied update call value))
    {value : α} (mem : value ∈ cell.values) : good value := by
  obtain ⟨part, chosen, rfl⟩ := traced.values value mem
  refine List.foldlRecOn part _ start fun value held call mem => kept call ?_ value held
  exact cell.written_sublist.subset (chosen.subset mem)

/-- **What some calls add one to** is at most the number of these calls. -/
theorem Traced.size_le (traced : Traced update first cell) (size : α → Nat) (adds : κ → Bool)
    (one : ∀ call value, size (applied update call value) ≤ size value + (adds call).toNat)
    {value : α} (mem : value ∈ cell.values) :
    size value ≤ size first + cell.begun.countP adds := by
  obtain ⟨part, chosen, rfl⟩ := traced.values value mem
  have counted : ∀ (part : List κ) (value : α),
      size (part.foldl (fun value call => applied update call value) value) ≤
        size value + part.countP adds := by
    intro part
    induction part with
    | nil => exact fun value => le_rfl
    | cons call rest ih =>
        intro value
        calc size ((call :: rest).foldl (fun value call => applied update call value) value)
            ≤ size (applied update call value) + rest.countP adds := ih _
          _ ≤ size value + (adds call).toNat + rest.countP adds :=
              Nat.add_le_add_right (one call value) _
          _ = size value + (call :: rest).countP adds := by
              rw [Tasks.countP_cons_eq]
              omega
  exact (counted part first).trans
    (Nat.add_le_add_left ((chosen.trans cell.written_sublist.subperm).countP_le adds) _)

end Origin

/-! ## Calls that follow one another

If no two calls overlap and every load returns the last value, nothing is lost.  This is the run
that a model without races describes. -/

section OneByOne

variable (update : κ → α → Option α)

/-- Each call reads the last value and writes before the next one begins. -/
def oneByOne (index : Nat) (value : α) : List κ → List (CellEvent κ α)
  | [] => []
  | call :: rest =>
      [.begins call, .reads index value, .writes index] ++
        oneByOne (index + 1) (applied update call value) rest

/-- **Calls one by one** lose nothing: the last value is what all of them make of the first. -/
theorem exec_oneByOne [DecidableEq α] {first value : α} {cell : RelaxedCell κ α}
    (last : cell.values.getLast? = some value) (calls : List κ) :
    ∃ next, (machine update first).exec cell (oneByOne update cell.calls.length value calls) =
        some next ∧
      next.values.getLast? =
        some (calls.foldl (fun value call => applied update call value) value) := by
  induction calls generalizing cell value with
  | nil => exact ⟨cell, rfl, last⟩
  | cons call rest ih =>
      have held : value ∈ cell.values := List.mem_of_getLast? last
      have atEnd (stage : CallStage α) :
          (cell.calls ++ [(call, stage)])[cell.calls.length]? = some (call, stage) :=
        List.getElem?_concat_length
      have moved (stage later : CallStage α) :
          (cell.calls ++ [(call, stage)]).set cell.calls.length (call, later) =
            cell.calls ++ [(call, later)] := by
        rw [List.set_append_right _ _ le_rfl, Nat.sub_self, List.set_cons_zero]
      have one : (machine update first).exec cell
          [.begins call, .reads cell.calls.length value, .writes cell.calls.length] =
            some
              { values := cell.values ++ (update call value).toList
                calls := cell.calls ++ [(call, .written)] } := by
        simp only [StateMachine.exec_cons, StateMachine.exec_nil, machine, step, atEnd, moved,
          if_pos held, Option.bind_some]
      have ends : (RelaxedCell.mk (cell.values ++ (update call value).toList)
          (cell.calls ++ [(call, .written)])).values.getLast? =
            some (applied update call value) := by
        unfold applied
        change (cell.values ++ (update call value).toList).getLast? = _
        cases update call value with
        | none => rw [Option.toList_none, List.append_nil, last, Option.getD_none]
        | some value' => rw [Option.toList_some, List.getLast?_concat, Option.getD_some]
      obtain ⟨next, later, made⟩ := ih ends
      refine ⟨next, ?_, made⟩
      rw [oneByOne, StateMachine.exec_append_of_eq_some _ _ one]
      rw [List.length_append, List.length_singleton] at later
      exact later

end OneByOne

end RelaxedCell
