import ChainProduct.Proofs.LeastCost
import ChainProduct.Recurrence

/-!
# Settled tables

The tables that a run passes through: `Chain.settled chain fits span` holds the least costs of all
sub-chains from `i` to `j` with `j - i ≤ span`, and nothing else. Each operation of the recurrence
is described on them once. `cells_settled` says that the cells of a layer have their least costs
as soon as the layers before it are settled, `storeLayer_settled` that storing them settles one
more layer, and `cells_settled_of_lt` that a layer cannot be evaluated before the one below it.
No cost of a chain whose table fits in memory comes near the mark of unset cells
(`joinCost_lt_unsetMark`).
-/

namespace ChainProduct.Chain

variable {chain : Chain} {fits : FitsMemory chain.matrices}

/-- The table that holds the least costs of the sub-chains from `i` to `j` with `j - i ≤ span`, and
nothing else. -/
def settled (chain : Chain) (fits : FitsMemory chain.matrices) (span : Nat) : Table :=
  .ofCells chain.matrices fits fun i j ↦
    if i ≤ j ∧ j - i ≤ span then some (leastCost chain.entry i (j - i)) else none

/-- The least costs of the sub-chains of a layer, in the order in which they start. -/
def layerCosts (chain : Chain) (layer : Nat) : List Nat :=
  (List.range (chain.matrices - 1 - layer)).map fun i ↦ leastCost chain.entry i (layer + 1)

@[simp] theorem length_layerCosts (layer : Nat) :
    (chain.layerCosts layer).length = chain.matrices - 1 - layer := by
  simp [layerCosts]

/-! ## The view of a settled table -/

@[simp] theorem side_settled (span : Nat) : (chain.settled fits span).side = chain.matrices :=
  rfl

/-- A settled table holds least costs above the diagonal, up to its span. -/
theorem cell_settled {span i j : Nat} (hi : i < chain.matrices) (hj : j < chain.matrices) :
    (chain.settled fits span).cell i j =
      if i ≤ j ∧ j - i ≤ span then some (leastCost chain.entry i (j - i)) else none :=
  Table.cell_ofCells fits _ hi hj

/-- A cell of a settled table, given by its start and the length of its sub-chain. -/
theorem get_settled (fits : FitsMemory chain.matrices) (span : Nat) {i more : Nat}
    (h : i + more < chain.matrices) : (chain.settled fits span).get i (i + more) =
      .ok (if more ≤ span then some (leastCost chain.entry i more) else none) := by
  have hi : i < chain.matrices := by omega
  rw [Table.get_eq_ok hi h, cell_settled hi h]
  simp

/-- With no layer settled, the table is the initial one. -/
theorem settled_zero : chain.settled fits 0 = .initial chain.matrices fits := by
  refine Table.ext_cell rfl fun i j hi hj ↦ ?_
  rw [cell_settled hi hj, Table.cell_initial fits hi hj]
  by_cases hij : i = j
  · simp [hij]
  · rw [if_neg hij, if_neg (by omega)]

/-- Nothing is left to settle beyond the longest sub-chain. -/
theorem settled_eq_of_le {span more : Nat} (hspan : chain.matrices - 1 ≤ span)
    (hmore : chain.matrices - 1 ≤ more) : chain.settled fits span = chain.settled fits more := by
  refine Table.ext_cell rfl fun i j hi hj ↦ ?_
  rw [side_settled] at hi hj
  rw [cell_settled hi hj, cell_settled hi hj]
  simp only [show j - i ≤ span by omega, show j - i ≤ more by omega]

/-- A settled table is filled exactly when its span is that of the whole chain. -/
theorem isFilled_settled {span : Nat} :
    (chain.settled fits span).IsFilled ↔ chain.matrices - 1 ≤ span := by
  have hpos := chain.one_le_matrices
  constructor
  · intro h
    have hlast := h (chain.matrices - 1) (by rw [side_settled]; omega) 0 (by omega)
    rw [cell_settled (by omega) (by omega)] at hlast
    by_contra hspan
    rw [if_neg (by omega)] at hlast
    exact absurd hlast (by simp)
  · intro hspan j hj i hi
    rw [side_settled] at hj
    rw [cell_settled (by omega) hj, if_pos ⟨by omega, by omega⟩]
    rfl

/-! ## Costs stay in range -/

/-- The least cost of a sub-chain is at most that of as many of the largest products. -/
theorem leastCost_entry_le {i span : Nat} (h : i + span < chain.matrices) :
    leastCost chain.entry i span ≤
      span * productCost maxDimension maxDimension maxDimension :=
  leastCost_le fun p hp ↦ chain.entry_le (by omega)

/-- A chain whose table fits in memory has no cost that is the mark of unset cells, or beyond it. -/
theorem joinCost_lt_unsetMark (fits : FitsMemory chain.matrices) {i left right : Nat}
    (h : i + left + right + 1 < chain.matrices) :
    joinCost chain.entry i left right < unsetMark := by
  have hmatrices := Table.side_lt_of_fits fits
  have hleft : leastCost chain.entry i left ≤ _ := leastCost_entry_le (by omega)
  have hright : leastCost chain.entry (i + left + 1) right ≤ _ := leastCost_entry_le (by omega)
  have hproduct := productCost_le (chain.entry_le (i := i) (by omega))
    (chain.entry_le (i := i + left + 1) (by omega))
    (chain.entry_le (i := i + left + right + 2) (by omega))
  have hmany : (left + right + 1) * productCost maxDimension maxDimension maxDimension <
      unsetMark := by
    -- A side is below `2 ^ 30` and a product below `2 ^ 96`, which leaves two bits to spare.
    refine Nat.lt_of_le_of_lt (Nat.mul_le_mul_right _ (show _ ≤ 0x4000_0000 by omega)) ?_
    decide
  rw [Nat.add_mul, Nat.add_mul, Nat.one_mul] at hmany
  unfold joinCost
  omega

/-- So the least cost of a sub-chain of two matrices or more is no mark either. -/
theorem leastCost_lt_unsetMark (fits : FitsMemory chain.matrices) {i span : Nat}
    (h : i + span + 1 < chain.matrices) : leastCost chain.entry i (span + 1) < unsetMark := by
  obtain ⟨left, right, hspan, hattained⟩ := exists_joinCost_eq chain.entry i span
  rw [hattained]
  exact joinCost_lt_unsetMark fits (by omega)

/-! ## Evaluating a layer -/

/-- A split has the cost of joining its halves on every table that holds their least costs. -/
theorem splitCost_eq_joinCost {table : Table} (fits : FitsMemory chain.matrices)
    {i left right : Nat} (h : i + left + right + 1 < chain.matrices)
    (hleft : table.get i (i + left) = .ok (some (leastCost chain.entry i left)))
    (hright : table.get (i + left + 1) (i + left + 1 + right) =
      .ok (some (leastCost chain.entry (i + left + 1) right))) :
    chain.splitCost table i (i + left) (i + left + right + 1) =
      .ok (joinCost chain.entry i left right) := by
  have hcost := joinCost_lt_unsetMark fits h
  rw [show i + left + 1 + right = i + left + right + 1 by omega] at hright
  refine splitCost_eq_ok_iff.mpr ⟨_, _, hleft, hright, by omega, by omega, h, rfl, ?_⟩
  exact Nat.lt_trans hcost (by decide)

/-- A cell has its least cost on every table that holds the least costs of both halves of each of
its splits. -/
theorem cellCost_eq_leastCost {table : Table} (fits : FitsMemory chain.matrices) {layer i : Nat}
    (h : i + layer + 1 < chain.matrices)
    (hhalves : ∀ left right, left + right = layer →
      table.get i (i + left) = .ok (some (leastCost chain.entry i left)) ∧
        table.get (i + left + 1) (i + left + 1 + right) =
          .ok (some (leastCost chain.entry (i + left + 1) right))) :
    chain.cellCost layer i table = .ok (leastCost chain.entry i (layer + 1)) := by
  have hmatrices := Table.side_lt_of_fits fits
  have hsplit (left right : Nat) (hsum : left + right = layer) :
      chain.splitCost table i (i + left) (i + layer + 1) =
        .ok (joinCost chain.entry i left right) := by
    obtain ⟨hleft, hright⟩ := hhalves left right hsum
    rw [← hsum, ← Nat.add_assoc i left right]
    exact splitCost_eq_joinCost fits (by omega) hleft hright
  rw [cellCost_eq chain (by unfold indexLimit; omega), leastFrom_eq_ok_iff]
  constructor
  · intro left hleft
    refine ⟨_, hsplit left (layer - left) (by omega), ?_⟩
    have hle := leastCost_le_joinCost chain.entry i left (layer - left)
    rwa [Nat.add_sub_of_le hleft] at hle
  · obtain ⟨left, right, hsum, hattained⟩ := exists_joinCost_eq chain.entry i layer
    exact ⟨left, by omega, by rw [hattained, hsplit left right hsum]⟩

/-- The halves of a split hold their least costs once both spans are settled. -/
theorem get_halves_settled (fits : FitsMemory chain.matrices) {span i left right : Nat}
    (h : i + left + right + 1 < chain.matrices) (hleft : left ≤ span) (hright : right ≤ span) :
    (chain.settled fits span).get i (i + left) = .ok (some (leastCost chain.entry i left)) ∧
      (chain.settled fits span).get (i + left + 1) (i + left + 1 + right) =
        .ok (some (leastCost chain.entry (i + left + 1) right)) := by
  have hgetLeft := get_settled fits span (show i + left < chain.matrices by omega)
  have hgetRight := get_settled fits span (show i + left + 1 + right < chain.matrices by omega)
  rw [if_pos hleft] at hgetLeft
  rw [if_pos hright] at hgetRight
  exact ⟨hgetLeft, hgetRight⟩

/-- A split whose halves are settled has the cost of joining them. -/
theorem splitCost_settled {span i left right : Nat} (h : i + left + right + 1 < chain.matrices)
    (hleft : left ≤ span) (hright : right ≤ span) :
    chain.splitCost (chain.settled fits span) i (i + left) (i + left + right + 1) =
      .ok (joinCost chain.entry i left right) := by
  obtain ⟨hgetLeft, hgetRight⟩ := get_halves_settled fits h hleft hright
  exact splitCost_eq_joinCost fits h hgetLeft hgetRight

/-- A cell has its least cost once the sub-chains that are shorter are settled. -/
theorem cellCost_settled {span layer i : Nat} (h : i + layer + 1 < chain.matrices)
    (hlayer : layer ≤ span) : chain.cellCost layer i (chain.settled fits span) =
      .ok (leastCost chain.entry i (layer + 1)) := by
  refine cellCost_eq_leastCost fits h fun left right hsum ↦ ?_
  exact get_halves_settled fits (by omega) (by omega) (by omega)

/-- The cells of a layer have their least costs once the sub-chains that are shorter are
settled. -/
theorem cells_settled {span layer : Nat} (h : layer < chain.matrices) (hlayer : layer ≤ span) :
    chain.layered.cells layer (chain.settled fits span) = .ok (chain.layerCosts layer) := by
  rw [Layered.cells, layered_width fits h]
  refine mapM_eq_ok fun i hi ↦ cellCost_settled ?_ hlayer
  have := List.mem_range.mp hi
  omega

/-- A layer cannot be evaluated before the one below it: the first split of its first cell lacks
its right half. -/
theorem cells_settled_of_lt {span layer : Nat} (h : layer + 1 < chain.matrices)
    (hspan : span < layer) :
    chain.layered.cells layer (chain.settled fits span) = .error .unsetHalf := by
  have hmatrices := Table.side_lt_of_fits fits
  have hgetLeft := get_settled fits span (show 0 + 0 < chain.matrices by omega)
  have hgetRight := get_settled fits span (show 1 + layer < chain.matrices by omega)
  -- The right half of the first split has `layer + 1` matrices, one span too many.
  rw [if_neg (by omega), Nat.add_comm 1 layer] at hgetRight
  have hsplit :
      chain.splitCost (chain.settled fits span) 0 0 (layer + 1) = .error .unsetHalf := by
    have hnext : addIndex 0 1 = .ok 1 := addIndex_eq_ok_iff.mpr ⟨by decide, rfl⟩
    simp [splitCost, hnext, hgetLeft, hgetRight, bind, Except.bind]
  have hcell :
      chain.layered.cell layer 0 (chain.settled fits span) = .error .unsetHalf := by
    show chain.cellCost layer 0 _ = _
    rw [cellCost_eq chain (by unfold indexLimit; omega)]
    obtain ⟨more, rfl⟩ : ∃ more, layer = more + 1 := ⟨layer - 1, by omega⟩
    simp [leastFrom, hsplit, bind, Except.bind]
  obtain ⟨rest, hrest⟩ : ∃ rest, chain.matrices - 1 - layer = rest + 1 :=
    ⟨chain.matrices - 1 - layer - 1, by omega⟩
  rw [Layered.cells, layered_width fits (by omega)]
  show (List.range (chain.matrices - 1 - layer)).mapM _ = _
  rw [hrest, List.range_succ_eq_map, List.mapM_cons, hcell]
  rfl

/-- A layer of sub-chains longer than the chain cannot be evaluated. -/
theorem cells_of_le {layer : Nat} (h : chain.matrices ≤ layer) (table : Table) :
    ∃ fault, chain.layered.cells layer table = .error fault := by
  cases hwidth : chain.layered.width layer with
  | error fault => exact ⟨fault, by rw [Layered.cells, hwidth]; rfl⟩
  | ok width =>
      have := (layerWidth_eq_ok_iff.mp hwidth).1
      omega

/-! ## Storing a layer -/

/-- Storing the least costs of a layer settles its sub-chains. -/
theorem storeLayer_settled {span layer : Nat} (h : layer < chain.matrices)
    (hlayer : layer ≤ span) :
    (chain.settled fits span).storeLayer layer (chain.layerCosts layer) =
      (chain.settled fits (max span (layer + 1)), none) := by
  have hmatrices := Table.side_lt_of_fits fits
  have hcosts : ∀ cost ∈ chain.layerCosts layer, cost < unsetMark := by
    intro cost hcost
    obtain ⟨i, hi, rfl⟩ := List.mem_map.mp hcost
    have := List.mem_range.mp hi
    exact leastCost_lt_unsetMark fits (by omega)
  have hinside : 0 + (chain.layerCosts layer).length + (layer + 1) ≤
      (chain.settled fits span).side := by
    rw [length_layerCosts, side_settled]
    omega
  obtain ⟨next, hnext, hside, hcell⟩ :=
    (chain.settled fits span).storeDiagonal_eq_ok hcosts hinside
  rw [Table.storeLayer_eq _ (by unfold indexLimit; omega), hnext]
  refine congrArg (·, none) (Table.ext_cell hside fun i j hi hj ↦ ?_)
  rw [hside, side_settled] at hi hj
  rw [hcell i j hi hj, cell_settled hi hj, cell_settled hi hj, length_layerCosts]
  -- A cell is on the new diagonal, or as it was before.
  by_cases hnew : j = i + (layer + 1)
  · subst hnew
    have hi' : i < chain.matrices - 1 - layer := by omega
    simp [layerCosts, hi']
  · rw [if_neg (by omega)]
    by_cases hold : i ≤ j ∧ j - i ≤ span
    · rw [if_pos hold, if_pos ⟨hold.1, by omega⟩]
    · rw [if_neg hold, if_neg (by omega)]

/-! ## Running -/

/-- A run starts with no layer settled. -/
theorem start_eq_settled (fits : FitsMemory chain.matrices) :
    chain.layered.start = .ok (chain.settled fits 0) := by
  rw [settled_zero]
  exact Table.fresh_eq_ok fits

/-- Storing the least costs of the next layer settles it. -/
theorem store_settled {layer : Nat} (h : layer < chain.matrices) :
    chain.layered.store layer (chain.layerCosts layer) (chain.settled fits layer) =
      .ok (chain.settled fits (layer + 1)) := by
  simp [layered, storeLayer_settled h (Nat.le_refl layer)]

/-- One layer more is settled by each step of a run. -/
theorem advance_settled {layer : Nat} (h : layer + 1 < chain.matrices) :
    chain.layered.advance (chain.settled fits layer) layer =
      .ok (chain.settled fits (layer + 1)) := by
  have hlayer : layer < chain.matrices := by omega
  have hwidth := layered_width fits hlayer
  rw [Layered.advance, cells_settled hlayer (Nat.le_refl layer)]
  simp [bind, Except.bind, hwidth, store_settled hlayer]

/-- After the first layers of a run, these layers are settled. -/
theorem fillFirst_eq_settled {count : Nat} (h : count < chain.matrices) :
    chain.layered.fillFirst count = .ok (chain.settled fits count) := by
  -- The invariant of the run: as many layers are settled as were filled.
  induction count with
  | zero =>
      rw [Layered.fillFirst, start_eq_settled fits]
      rfl
  | succ count ih => rw [Layered.fillFirst_succ, ih (by omega), ok_bind, advance_settled h]

/-- A run settles the whole table. -/
theorem costs_eq_settled (fits : FitsMemory chain.matrices) :
    chain.costs = .ok (chain.settled fits (chain.matrices - 1)) := by
  have hpos := chain.one_le_matrices
  show chain.layered.fill = _
  rw [Layered.fill, layered_layers]
  exact fillFirst_eq_settled (by omega)

/-- The result is the least cost of the whole chain once the whole table is settled. -/
theorem totalCost_settled (fits : FitsMemory chain.matrices) :
    chain.totalCost (chain.settled fits (chain.matrices - 1)) =
      .ok (leastCost chain.entry 0 (chain.matrices - 1)) := by
  have hpos := chain.one_le_matrices
  have hlast : subIndex chain.matrices 1 = .ok (chain.matrices - 1) :=
    subIndex_eq_ok_iff.mpr ⟨hpos, rfl⟩
  have hget :=
    get_settled fits (chain.matrices - 1) (show 0 + (chain.matrices - 1) < chain.matrices by omega)
  rw [if_pos (Nat.le_refl _), Nat.zero_add] at hget
  simp [totalCost, hlast, hget, bind, Except.bind, pure, Except.pure]

/-- The result of a run is the least cost of the whole chain. -/
theorem minCost_eq_leastCost (fits : FitsMemory chain.matrices) :
    chain.minCost = .ok (leastCost chain.entry 0 (chain.matrices - 1)) := by
  show (do chain.totalCost (← chain.costs)) = _
  rw [costs_eq_settled fits, ok_bind, totalCost_settled fits]

/-- A run on a chain whose table does not fit in memory stops before its first layer. -/
theorem costs_of_not_fits (h : ¬ FitsMemory chain.matrices) :
    chain.costs = .error .tooLarge := by
  have hstart : chain.layered.start = .error .tooLarge := Table.fresh_eq_error h
  show chain.layered.fill = _
  rw [Layered.fill, layered_layers]
  show chain.layered.fillFirst _ = _
  rw [Layered.fillFirst, hstart]
  rfl

/-- Nor does such a run have a result. -/
theorem minCost_of_not_fits (h : ¬ FitsMemory chain.matrices) :
    chain.minCost = .error .tooLarge := by
  show (do chain.totalCost (← chain.costs)) = _
  rw [costs_of_not_fits h]
  rfl

end ChainProduct.Chain
