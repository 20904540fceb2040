import ChainProduct.Recurrence
import Mathlib.Order.Bounds.Basic

/-!
# Evaluating one cell on any table

What evaluating a cell comes to on a table with any contents, also below the diagonal, and for a
layer and an index that need not belong to the chain. A table only checks the flat index, so a
column beyond the last one reads from the next row; the dimensions are what keeps such a read from
ever becoming a cost. The main theorem, `cellCost_exact`, says which cells have a cost on a table,
that the cost is the least sum over all splits, and that it depends on no other cells than those of
shorter sub-chains of the same sub-chain.
-/

namespace ChainProduct.Chain

/-- The number is what a split comes to, at the costs that the table holds for its halves. -/
def IsSplitSum (chain : Chain) (table : Table) (i k j sum : Nat) : Prop :=
  ∃ left right, table.get i k = .ok (some left) ∧ table.get (k + 1) j = .ok (some right) ∧
    sum = left + right +
      productCost (chain.entry i) (chain.entry (k + 1)) (chain.entry (j + 1))

/-- The sub-chain of a layer that starts at `i` is part of the chain, and for each of its splits the
table holds both halves and the sum is in the range of costs. -/
structure CanEvaluate (chain : Chain) (table : Table) (layer i : Nat) : Prop where
  inside : i + layer + 1 < chain.matrices
  splits : ∀ k, i ≤ k → k < i + layer + 1 →
    ∃ sum, chain.IsSplitSum table i k (i + layer + 1) sum ∧ sum < costLimit

/-- The tables agree on the sub-chains of at most `layer + 1` matrices within the sub-chain of a
layer that starts at `i`. -/
def AgreeWithin (chain : Chain) (layer i : Nat) (table other : Table) : Prop :=
  ∀ a b, i ≤ a → a ≤ b → b ≤ i + layer + 1 → b - a ≤ layer → b < chain.matrices →
    table.get a b = other.get a b

variable {chain : Chain} {table other : Table} {layer i : Nat}

/-! ## Splits -/

/-- A split has one sum at most. -/
theorem IsSplitSum.unique {k j sum sum' : Nat} (h : chain.IsSplitSum table i k j sum)
    (h' : chain.IsSplitSum table i k j sum') : sum' = sum := by
  obtain ⟨left, right, hleft, hright, rfl⟩ := h
  obtain ⟨left', right', hleft', hright', rfl⟩ := h'
  obtain rfl : left = left' := by simpa using hleft.symm.trans hleft'
  obtain rfl : right = right' := by simpa using hright.symm.trans hright'
  rfl

/-- Inside the chain, the cost of a split is its sum, if that is in the range of costs. -/
theorem splitCost_eq_ok_iff_isSplitSum {k cost : Nat} (hinside : i + layer + 1 < chain.matrices)
    (hk : k < i + layer + 1) :
    chain.splitCost table i k (i + layer + 1) = .ok cost ↔
      chain.IsSplitSum table i k (i + layer + 1) cost ∧ cost < costLimit := by
  rw [splitCost_eq_ok_iff]
  constructor
  · intro hcost
    obtain ⟨left, right, hleft, hright, -, -, -, hsum, hlimit⟩ := hcost
    exact ⟨⟨left, right, hleft, hright, hsum⟩, hlimit⟩
  · intro hcost
    obtain ⟨⟨left, right, hleft, hright, hsum⟩, hlimit⟩ := hcost
    exact ⟨left, right, hleft, hright, by omega, by omega, hinside, hsum, hlimit⟩

/-! ## Cells -/

/-- The last split of a cell reads its first row, so the indices of a cell that can be evaluated do
not leave their range. -/
theorem CanEvaluate.index_lt (h : chain.CanEvaluate table layer i) :
    i + layer + 2 < indexLimit := by
  obtain ⟨sum, ⟨left, right, hleft, -⟩, -⟩ := h.splits (i + layer) (by omega) (by omega)
  have hflat := (Table.get_eq_ok_iff.mp hleft).1
  have hfits := table.fits
  unfold FitsMemory maxOffset at hfits
  unfold indexLimit
  omega

/-- A cell with a cost can be evaluated. -/
theorem CanEvaluate.of_cellCost {cost : Nat} (h : chain.cellCost layer i table = .ok cost) :
    chain.CanEvaluate table layer i := by
  have hinside := (halves_of_cellCost h).1
  rw [cellCost_eq chain (index_lt_of_cellCost h), leastFrom_eq_ok_iff] at h
  refine ⟨hinside, fun k hik hk ↦ ?_⟩
  obtain ⟨split, hsplit, -⟩ := h.1 (k - i) (by omega)
  rw [Nat.add_sub_of_le hik, splitCost_eq_ok_iff_isSplitSum hinside hk] at hsplit
  exact ⟨split, hsplit⟩

/-- A cell that can be evaluated has a cost. -/
theorem CanEvaluate.exists_cellCost (h : chain.CanEvaluate table layer i) :
    ∃ cost, chain.cellCost layer i table = .ok cost := by
  rw [cellCost_eq chain h.index_lt]
  refine exists_leastFrom fun t ht ↦ ?_
  obtain ⟨sum, hsum⟩ := h.splits (i + t) (by omega) (by omega)
  exact ⟨sum, (splitCost_eq_ok_iff_isSplitSum h.inside (by omega)).mpr hsum⟩

/-- The cost of a cell is the least sum of its splits. -/
theorem isLeast_of_cellCost {cost : Nat} (h : chain.cellCost layer i table = .ok cost) :
    IsLeast {sum | ∃ k, i ≤ k ∧ k < i + layer + 1 ∧
      chain.IsSplitSum table i k (i + layer + 1) sum} cost := by
  have hcan := CanEvaluate.of_cellCost h
  rw [cellCost_eq chain hcan.index_lt, leastFrom_eq_ok_iff] at h
  obtain ⟨hbound, t, ht, hattained⟩ := h
  constructor
  · rw [splitCost_eq_ok_iff_isSplitSum hcan.inside (by omega)] at hattained
    exact ⟨i + t, by omega, by omega, hattained.1⟩
  · rintro sum ⟨k, hik, hk, hsum⟩
    obtain ⟨split, hsplit, hle⟩ := hbound (k - i) (by omega)
    rw [Nat.add_sub_of_le hik, splitCost_eq_ok_iff_isSplitSum hcan.inside hk] at hsplit
    rwa [hsplit.1.unique hsum]

/-- Inside the chain, evaluation on tables that agree on shorter sub-chains is the same. -/
theorem cellCost_congr (hinside : i + layer + 1 < chain.matrices)
    (hagree : chain.AgreeWithin layer i table other) :
    chain.cellCost layer i table = chain.cellCost layer i other := by
  rcases Nat.lt_or_ge (i + layer + 2) indexLimit with hindex | hindex
  · rw [cellCost_eq chain hindex, cellCost_eq chain hindex]
    refine leastFrom_congr fun t ht ↦ splitCost_congr chain ?_ ?_
    · exact hagree i (i + t) (by omega) (by omega) (by omega) (by omega) (by omega)
    · exact hagree (i + t + 1) (i + layer + 1) (by omega) (by omega) (by omega) (by omega) hinside
  · rw [cellCost_eq_overflow chain hindex, cellCost_eq_overflow chain hindex]

/-- Nothing that reaches beyond the chain has a cost, whatever the table holds. -/
theorem exists_cellCost_eq_error (houtside : chain.matrices ≤ i + layer + 1) (table : Table) :
    ∃ fault, chain.cellCost layer i table = .error fault := by
  cases hcell : chain.cellCost layer i table with
  | error fault => exact ⟨fault, rfl⟩
  | ok cost =>
      have := (CanEvaluate.of_cellCost hcell).inside
      omega

/-- A cell has a cost on a table exactly when it can be evaluated, and stops with a fault otherwise,
in particular when it reaches beyond the chain. The cost is the least sum of its splits. On tables
that hold the same costs for the shorter sub-chains within that of the cell, it has the same cost or
has none on either, and inside the chain it stops with the same fault. -/
theorem cellCost_exact (chain : Chain) (table : Table) (layer i : Nat) :
    ((∃ cost, chain.cellCost layer i table = .ok cost) ↔ chain.CanEvaluate table layer i) ∧
    ((∃ fault, chain.cellCost layer i table = .error fault) ↔
      ¬ chain.CanEvaluate table layer i) ∧
    (chain.matrices ≤ i + layer + 1 → ∃ fault, chain.cellCost layer i table = .error fault) ∧
    (∀ cost, chain.cellCost layer i table = .ok cost →
      IsLeast {sum | ∃ k, i ≤ k ∧ k < i + layer + 1 ∧
        chain.IsSplitSum table i k (i + layer + 1) sum} cost) ∧
    ∀ other, chain.AgreeWithin layer i table other →
      (∀ cost, chain.cellCost layer i table = .ok cost ↔ chain.cellCost layer i other = .ok cost) ∧
      (i + layer + 1 < chain.matrices →
        chain.cellCost layer i table = chain.cellCost layer i other) := by
  refine ⟨⟨fun ⟨_, hcost⟩ ↦ .of_cellCost hcost, CanEvaluate.exists_cellCost⟩, ⟨?_, ?_⟩,
    fun houtside ↦ exists_cellCost_eq_error houtside table, fun _ ↦ isLeast_of_cellCost,
    fun other hagree ↦ ⟨fun cost ↦ ?_, fun hinside ↦ cellCost_congr hinside hagree⟩⟩
  · rintro ⟨fault, hfault⟩ hcan
    obtain ⟨cost, hcost⟩ := hcan.exists_cellCost
    rw [hfault] at hcost
    cases hcost
  · intro hnot
    cases hcell : chain.cellCost layer i table with
    | error fault => exact ⟨fault, rfl⟩
    | ok cost => exact absurd (.of_cellCost hcell) hnot
  · rcases Nat.lt_or_ge (i + layer + 1) chain.matrices with hinside | houtside
    · rw [cellCost_congr hinside hagree]
    · obtain ⟨fault, hfault⟩ := exists_cellCost_eq_error houtside table
      obtain ⟨fault', hfault'⟩ := exists_cellCost_eq_error houtside other
      simp [hfault, hfault']

/-- Three matrices, on a table with costs below the diagonal: the whole chain has a cost, and so it
has on every table that agrees on the shorter sub-chains. A fourth column is read from the next row,
but no cell of the chain reaches it. -/
theorem cellCost_exact_three :
    ∃ (chain : Chain) (table : Table), chain.dims = #[10, 100, 5, 50] ∧
      table.rows = [[some 0, some 5000, none], [some 1, some 0, some 7], [some 2, some 3, some 0]] ∧
      chain.CanEvaluate table 1 0 ∧
      (∀ other, chain.AgreeWithin 1 0 table other → chain.cellCost 1 0 other = .ok 7500) ∧
      table.get 1 3 = .ok (some 2) ∧ ¬ chain.CanEvaluate table 2 0 := by
  let chain : Chain := ⟨#[10, 100, 5, 50], by decide, by decide⟩
  let table : Table :=
    { side := 3
      cells := #[some 0, some 5000, none, some 1, some 0, some 7, some 2, some 3, some 0]
      size_cells := rfl
      fits := by decide }
  have hcost : chain.cellCost 1 0 table = .ok 7500 := by
    simp only [chain, table]
    rfl
  obtain ⟨hcan, -, -, -, hagree⟩ := cellCost_exact chain table 1 0
  obtain ⟨-, hfault, houtside, -⟩ := cellCost_exact chain table 2 0
  exact ⟨chain, table, rfl, rfl, hcan.mp ⟨_, hcost⟩,
    fun other h ↦ ((hagree other h).1 7500).mp hcost, rfl, hfault.mp (houtside (by decide))⟩

end ChainProduct.Chain
