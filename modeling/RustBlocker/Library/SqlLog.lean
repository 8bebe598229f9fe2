import RustBlocker.Library.SqlQuery
import RustBlocker.Library.SqlTable

/-!
# Logs

A log is a table to which rows are only added, and from which only the oldest rows are deleted. It
is read a page at a time, the newest rows first, while it goes on.

* **`SqlTable.Later`** relates a log to what it has become.  New rows have ids that were not
  handed out before, so that no row is taken for another one.
* **New rows** push what is on a page to later pages.  A reader who goes from page to page may see
  a row twice; `SqlTable.mem_pages_of_later` says that none is skipped.

A page is given by its offset from the newest row, so it is not the same rows from one request to
the next.  Rows that come push others to higher offsets, where the reader still comes; rows that
go are the oldest, at the end, and move nothing before them.  Were rows deleted from the middle,
the rows behind them would move to offsets that the reader has passed.  This is why `Later` speaks
of the oldest rows, and why a user has to show that what is deleted is a suffix of the log.
-/

universe u v

namespace SqlTable

variable {ν : Type u} {κ : Type v} {key : ν → Option κ}

/-- **A log goes on**: its oldest rows may be gone, and rows with new ids may have come. -/
def Later (t t' : SqlTable ν κ key) : Prop :=
  t.seq ≤ t'.seq ∧ ∃ old kept new, t.rows = old ++ kept ∧ t'.rows = kept ++ new ∧
    ∀ row ∈ new, t.seq < row.1

theorem Later.refl (t : SqlTable ν κ key) : t.Later t :=
  ⟨le_refl _, [], t.rows, [], rfl, (List.append_nil _).symm, by simp⟩

theorem Later.trans {t t' t'' : SqlTable ν κ key} (first : t.Later t') (second : t'.Later t'') :
    t.Later t'' := by
  obtain ⟨le, old, kept, new, was, now, fresh⟩ := first
  obtain ⟨le', old', kept', new', was', now', fresh'⟩ := second
  have later : ∀ row ∈ new', t.seq < row.1 := fun row mem => le.trans_lt (fresh' row mem)
  refine ⟨le.trans le', ?_⟩
  rcases List.append_eq_append_iff.mp (now.symm.trans was') with
    ⟨middle, rfl, rfl⟩ | ⟨middle, rfl, rfl⟩
  · -- none of the rows that were there is left
    refine ⟨old ++ kept, [], kept' ++ new', by rw [List.append_nil, was], now', ?_⟩
    intro row mem
    rcases List.mem_append.mp mem with here | here
    · exact fresh row (List.mem_append_right _ here)
    · exact later row here
  · refine ⟨old ++ old', middle, new ++ new', by rw [was, List.append_assoc], ?_, ?_⟩
    · rw [now', List.append_assoc]
    · intro row mem
      rcases List.mem_append.mp mem with here | here
      · exact fresh row here
      · exact later row here

/-- The oldest rows go. -/
theorem later_of_suffix {t t' : SqlTable ν κ key} (suffix : t'.rows <:+ t.rows)
    (le : t.seq ≤ t'.seq) : t.Later t' := by
  obtain ⟨old, same⟩ := suffix
  exact ⟨le, old, t'.rows, [], same.symm, (List.append_nil _).symm, by simp⟩

/-- A row that is there before and after is there in between. -/
theorem Later.mem {t t' t'' : SqlTable ν κ key} (first : t.Later t') (second : t'.Later t'')
    {row : Nat × ν} (before : row ∈ t.rows) (after : row ∈ t''.rows) : row ∈ t'.rows := by
  obtain ⟨-, old, kept, new, was, now, fresh⟩ := second
  rw [now] at after
  rcases List.mem_append.mp after with here | fresher
  · rw [was]
    exact List.mem_append_right _ here
  · exact absurd (t.ids_le row before) (not_le.mpr (first.1.trans_lt (fresh row fresher)))

/-- The rows, the newest first. -/
def newestFirst (t : SqlTable ν κ key) : List (Nat × ν) := t.rows.reverse

/-- A row that is not on the first pages of a log is not on them later. -/
theorem Later.mem_drop {t t' : SqlTable ν κ key} (later : t.Later t') {row : Nat × ν} {count : Nat}
    (here : row ∈ t.newestFirst.drop count) (there : row ∈ t'.rows) :
    row ∈ t'.newestFirst.drop count := by
  obtain ⟨-, old, kept, new, was, now, fresh⟩ := later
  have inside : row ∈ t.rows := List.mem_reverse.mp (List.mem_of_mem_drop here)
  have mem : row ∈ kept := by
    rw [now] at there
    refine (List.mem_append.mp there).resolve_right fun fresher => ?_
    exact absurd (t.ids_le row inside) (not_le.mpr (fresh row fresher))
  have gone : row ∉ old := by
    intro mem'
    have distinct := t.ids_nodup
    rw [was, List.map_append, List.nodup_append] at distinct
    exact distinct.2.2 _ (List.mem_map_of_mem mem') _ (List.mem_map_of_mem mem) rfl
  rw [newestFirst, was, List.reverse_append, List.drop_append, List.mem_append] at here
  have early : row ∈ kept.reverse.drop count :=
    here.resolve_right fun mem' => gone (List.mem_reverse.mp (List.mem_of_mem_drop mem'))
  rw [newestFirst, now, List.reverse_append, List.drop_append, List.mem_append]
  refine Or.inr ?_
  have fewer := List.drop_sublist_drop_left kept.reverse (Nat.sub_le count new.reverse.length)
  exact fewer.subset early

/-- Steps of a log, joined. -/
theorem laters {m : Nat} {tables : Nat → SqlTable ν κ key}
    (later : ∀ k < m, (tables k).Later (tables (k + 1))) (i j : Nat) (le : i ≤ j) (last : j ≤ m) :
    (tables i).Later (tables j) := by
  induction j, le using Nat.le_induction with
  | base => exact Later.refl _
  | succ j le ih => exact (ih (Nat.le_of_succ_le last)).trans (later j last)

/-- **A reader who goes from page to page skips no row**, while rows are added and the oldest ones
deleted.  The last page is one that is not full. -/
theorem mem_pages_of_later {n m : Nat} {tables : Nat → SqlTable ν κ key} {row : Nat × ν}
    (later : ∀ k < m, (tables k).Later (tables (k + 1)))
    (last : (SqlQuery.page n (m * n : Nat) (tables m).newestFirst).length < n)
    (before : row ∈ (tables 0).rows) (after : row ∈ (tables m).rows) :
    ∃ k ≤ m, row ∈ SqlQuery.page n (k * n : Nat) (tables k).newestFirst := by
  have there : ∀ k ≤ m, row ∈ (tables k).rows := fun k le =>
    (laters later 0 k (Nat.zero_le k) le).mem (laters later k m le (le_refl m)) before after
  have reached : ∀ k ≤ m, (∃ j < k, row ∈ SqlQuery.page n (j * n : Nat) (tables j).newestFirst) ∨
      row ∈ (tables k).newestFirst.drop (k * n) := by
    intro k
    induction k with
    | zero =>
        intro _
        rw [Nat.zero_mul, List.drop_zero]
        exact Or.inr (List.mem_reverse.mpr (there 0 (Nat.zero_le m)))
    | succ k ih =>
        intro le
        rcases ih (Nat.le_of_succ_le le) with ⟨j, less, seen⟩ | ahead
        · exact Or.inl ⟨j, Nat.lt_succ_of_lt less, seen⟩
        · rw [← List.take_append_drop n ((tables k).newestFirst.drop (k * n)), List.mem_append,
            List.drop_drop] at ahead
          rcases ahead with seen | beyond
          · refine Or.inl ⟨k, Nat.lt_succ_self k, ?_⟩
            rw [SqlQuery.page_natCast]
            exact seen
          · rw [← Nat.succ_mul] at beyond
            exact Or.inr ((later k le).mem_drop beyond (there (k + 1) le))
  rcases reached m (le_refl m) with ⟨j, less, seen⟩ | ahead
  · exact ⟨j, less.le, seen⟩
  · refine ⟨m, le_refl m, ?_⟩
    rw [SqlQuery.page_natCast] at last ⊢
    rw [List.take_of_length_le]
    · exact ahead
    · rw [List.length_take] at last
      omega

end SqlTable
