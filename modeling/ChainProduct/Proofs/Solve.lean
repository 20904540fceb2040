import ChainProduct.Proofs.Settled
import ChainProduct.Solve

/-!
# Solving is right and never stops

Two main theorems about lists of dimensions. `solveTable_isLeastCost` says that the table of a list
holds the least cost of every sub-chain over all bracketings, and nothing below the diagonal, and
that the cost of the whole chain is the cell of its longest sub-chain. `solve_never_stops` says
that a list is refused with its cause, that a chain whose table fits in memory is solved with no
fault in any step of its run, and that only a table that does not fit stops a run.
-/

namespace ChainProduct

variable {α : Type} [ToDimension α]

/-- The dimension at a position of a list, zero beyond its end. -/
def dimensionAt (xs : List α) (position : Nat) : Nat :=
  (xs.map fun x ↦ (ToDimension.value x).toNat).getD position 0

/-- The list is a chain of matrices whose table fits in memory. -/
structure IsSolvable (xs : List α) : Prop where
  two_le_length : 2 ≤ xs.length
  isDimension : ∀ x ∈ xs, IsDimension (ToDimension.value x)
  fits : FitsMemory (xs.length - 1)

/-- `IsSolvable` is decidable by looking at every element and comparing the length. -/
instance (xs : List α) : Decidable (IsSolvable xs) :=
  decidable_of_iff
    (2 ≤ xs.length ∧ (∀ x ∈ xs, IsDimension (ToDimension.value x)) ∧ FitsMemory (xs.length - 1))
    ⟨fun ⟨hlength, hdimension, fits⟩ ↦ ⟨hlength, hdimension, fits⟩,
      fun h ↦ ⟨h.two_le_length, h.isDimension, h.fits⟩⟩

/-- Every step of a layer succeeds on a table: the layer has a width, both halves of each split are
known, the cost of each split is no mark of unset cells, and each cell can be stored. -/
structure Chain.RunsSafely (chain : Chain) (layer : Nat) (table : Table) : Prop where
  width : chain.layerWidth layer = .ok (chain.matrices - 1 - layer)
  halves : ∀ i k, i ≤ k → k ≤ i + layer → i + layer + 1 < chain.matrices →
    ∃ left right, table.get i k = .ok (some left) ∧
      table.get (k + 1) (i + layer + 1) = .ok (some right)
  splits : ∀ i k, i ≤ k → k ≤ i + layer → i + layer + 1 < chain.matrices →
    ∃ cost, chain.splitCost table i k (i + layer + 1) = .ok cost ∧ cost < unsetMark
  stores : ∃ costs next, chain.layered.cells layer table = .ok costs ∧
    costs.length = chain.matrices - 1 - layer ∧ table.storeLayer layer costs = (next, none)

/-! ## Lists and chains -/

/-- The dimension at a position of a list, as one of its elements. -/
theorem dimensionAt_of_lt {xs : List α} {position : Nat} (h : position < xs.length) :
    dimensionAt xs position = (ToDimension.value xs[position]).toNat := by
  simp [dimensionAt, h]

/-- A chain has the dimensions of the list that it was made of. -/
theorem entry_of_ofList {xs : List α} {chain : Chain} (h : Chain.ofList xs = .ok chain) :
    chain.entry = dimensionAt xs := by
  have hdims := (Chain.ofList_eq_ok_iff.mp h).2.2
  funext position
  rw [dimensionAt, ← hdims, Chain.entry]
  simp

/-- A list has one dimension more than its chain has matrices. -/
theorem matrices_of_ofList {xs : List α} {chain : Chain} (h : Chain.ofList xs = .ok chain) :
    chain.matrices = xs.length - 1 := by
  have hdims := congrArg List.length (Chain.ofList_eq_ok_iff.mp h).2.2
  rw [List.length_map, Array.length_toList] at hdims
  rw [Chain.matrices, hdims]

/-- A solvable list is a chain. -/
theorem IsSolvable.exists_chain {xs : List α} (h : IsSolvable xs) :
    ∃ chain, Chain.ofList xs = .ok chain :=
  Chain.exists_ofList_eq_ok_iff.mpr ⟨h.two_le_length, h.isDimension⟩

/-- Solving a list that is refused gives the cause. -/
theorem solve_of_error {xs : List α} {cause : InputError} (h : Chain.ofList xs = .error cause) :
    solve xs = .error (.input cause) ∧ solveTable xs = .error (.input cause) := by
  simp [solve, solveTable, Solved.ofInput, h, Except.mapError, bind, Except.bind]

/-- Solving a chain is running it. -/
theorem solve_of_ok {xs : List α} {chain : Chain} (h : Chain.ofList xs = .ok chain) :
    solve xs = chain.minCost.mapError .fault ∧ solveTable xs = chain.costs.mapError .fault := by
  simp [solve, solveTable, Solved.ofInput, h, Except.mapError, bind, Except.bind]

/-- Solving a solvable list gives the least cost of all its matrices. -/
theorem IsSolvable.solve_eq {xs : List α} (h : IsSolvable xs) :
    solve xs = .ok (leastCost (dimensionAt xs) 0 (xs.length - 2)) := by
  obtain ⟨chain, hchain⟩ := h.exists_chain
  have hmatrices := matrices_of_ofList hchain
  have fits : FitsMemory chain.matrices := hmatrices ▸ h.fits
  rw [(solve_of_ok hchain).1, Chain.minCost_eq_leastCost fits, entry_of_ofList hchain, hmatrices]
  rfl

/-- The table of a solvable list holds the least costs of all its sub-chains. -/
theorem IsSolvable.exists_table {xs : List α} (h : IsSolvable xs) :
    ∃ table, solveTable xs = .ok table ∧ table.side = xs.length - 1 ∧
      ∀ i j, i ≤ j → j < xs.length - 1 →
        table.get i j = .ok (some (leastCost (dimensionAt xs) i (j - i))) := by
  obtain ⟨chain, hchain⟩ := h.exists_chain
  have hmatrices := matrices_of_ofList hchain
  have fits : FitsMemory chain.matrices := hmatrices ▸ h.fits
  refine ⟨chain.settled fits (chain.matrices - 1), ?_, hmatrices, fun i j hij hj ↦ ?_⟩
  · rw [(solve_of_ok hchain).2, Chain.costs_eq_settled fits]
    rfl
  · have hget := Chain.get_settled fits (chain.matrices - 1)
      (show i + (j - i) < chain.matrices by omega)
    rwa [if_pos (by omega), Nat.add_sub_of_le hij, entry_of_ofList hchain] at hget

/-- Each cell on or above the diagonal of the table holds its least cost. -/
theorem IsSolvable.get_eq {xs : List α} {table : Table} (h : IsSolvable xs)
    (htable : solveTable xs = .ok table) {i j : Nat} (hij : i ≤ j) (hj : j < xs.length - 1) :
    table.get i j = .ok (some (leastCost (dimensionAt xs) i (j - i))) := by
  obtain ⟨other, hother, -, hcell⟩ := h.exists_table
  obtain rfl : other = table := Except.ok.inj (hother.symm.trans htable)
  exact hcell i j hij hj

/-- Whether a list is solvable does not depend on the order of its dimensions. -/
theorem IsSolvable.perm {xs ys : List α} (h : IsSolvable xs) (hperm : ys.Perm xs) :
    IsSolvable ys where
  two_le_length := hperm.length_eq ▸ h.two_le_length
  isDimension x hx := h.isDimension x (hperm.mem_iff.mp hx)
  fits := hperm.length_eq ▸ h.fits

/-! ## Optimality -/

/-- The table of a list of dimensions holds the least cost over all bracketings for every
sub-chain, and is unset below the diagonal. The least cost of the whole chain is one of its
cells. -/
theorem solveTable_isLeastCost {xs : List α} (h : IsSolvable xs) :
    ∃ table, solveTable xs = .ok table ∧ table.side = xs.length - 1 ∧
      (∀ i j, i ≤ j → j < xs.length - 1 →
        ∃ cost, table.get i j = .ok (some cost) ∧ IsLeastCost (dimensionAt xs) i j cost) ∧
      (∀ i j, j < i → i < xs.length - 1 → table.get i j = .ok none) ∧
      ∃ cost, solve xs = .ok cost ∧ table.get 0 (xs.length - 2) = .ok (some cost) ∧
        IsLeastCost (dimensionAt xs) 0 (xs.length - 2) cost := by
  obtain ⟨chain, hchain⟩ := h.exists_chain
  have hmatrices := matrices_of_ofList hchain
  have hentry := entry_of_ofList hchain
  have hlength := h.two_le_length
  have fits : FitsMemory chain.matrices := hmatrices ▸ h.fits
  obtain ⟨hsolve, htable⟩ := solve_of_ok hchain
  rw [Chain.minCost_eq_leastCost fits, Except.mapError] at hsolve
  rw [Chain.costs_eq_settled fits, Except.mapError] at htable
  have hcell (i j : Nat) (hij : i ≤ j) (hj : j < xs.length - 1) :
      (chain.settled fits (chain.matrices - 1)).get i j =
        .ok (some (leastCost (dimensionAt xs) i (j - i))) := by
    have hi : i < (chain.settled fits (chain.matrices - 1)).side := by
      rw [Chain.side_settled]
      omega
    rw [Table.get_eq_ok hi (by rw [Chain.side_settled]; omega),
      Chain.cell_settled hi (by omega), if_pos ⟨hij, by omega⟩, hentry]
  refine ⟨_, htable, by rw [Chain.side_settled, hmatrices], ?_, ?_, _, hsolve, ?_, ?_⟩
  · intro i j hij hj
    exact ⟨_, hcell i j hij hj, isLeastCost_leastCost _ hij⟩
  · intro i j hij hi
    rw [← hmatrices] at hi
    rw [Table.get_eq_ok hi (by rw [Chain.side_settled]; omega), Chain.cell_settled hi (by omega),
      if_neg (by omega)]
  · rw [hcell 0 (xs.length - 2) (Nat.zero_le _) (by omega), hentry, hmatrices]
    rfl
  · have hleast := isLeastCost_leastCost (dimensionAt xs) (Nat.zero_le (xs.length - 2))
    rwa [hentry, hmatrices]

/-- The product of three matrices costs what the better of its two bracketings costs. -/
theorem solveTable_isLeastCost_three :
    IsSolvable [10, 100, 5, 50] ∧ solve [10, 100, 5, 50] = .ok 7500 ∧
      IsLeastCost (dimensionAt [10, 100, 5, 50]) 0 2 7500 := by
  have hsolvable : IsSolvable [10, 100, 5, 50] := ⟨by decide, by decide, by decide⟩
  have hsolve : solve [10, 100, 5, 50] = .ok 7500 := by rfl
  obtain ⟨-, -, -, -, -, cost, hcost, -, hleast⟩ := solveTable_isLeastCost hsolvable
  obtain rfl : 7500 = cost := by simpa [hsolve] using hcost
  exact ⟨hsolvable, hsolve, hleast⟩

/-! ## Safety -/

/-- Every step of a layer succeeds on the table that the layers before it leave. -/
theorem Chain.runsSafely_settled {chain : Chain} {fits : FitsMemory chain.matrices} {layer : Nat}
    (h : layer + 1 < chain.matrices) : chain.RunsSafely layer (chain.settled fits layer) where
  width := layered_width fits (by omega)
  halves := by
    intro i k hik hk hi
    have hleft := get_settled fits layer (show i + (k - i) < chain.matrices by omega)
    have hright :=
      get_settled fits layer (show k + 1 + (i + layer - k) < chain.matrices by omega)
    rw [if_pos (by omega), Nat.add_sub_of_le hik] at hleft
    rw [if_pos (by omega), show k + 1 + (i + layer - k) = i + layer + 1 by omega] at hright
    exact ⟨_, _, hleft, hright⟩
  splits := by
    intro i k hik hk hi
    obtain ⟨left, rfl⟩ := Nat.exists_eq_add_of_le hik
    obtain ⟨right, rfl⟩ : ∃ right, layer = left + right := ⟨layer - left, by omega⟩
    rw [← Nat.add_assoc] at hi ⊢
    exact ⟨_, splitCost_settled hi (by omega) (by omega), joinCost_lt_unsetMark fits hi⟩
  stores :=
    ⟨_, _, cells_settled (by omega) (Nat.le_refl layer), length_layerCosts layer,
      storeLayer_settled (by omega) (Nat.le_refl layer)⟩

/-- Solving refuses a list that is no chain, with its cause. A chain whose table fits in memory is
solved, and every step of every layer of its run succeeds. Only a table that does not fit stops a
run. -/
theorem solve_never_stops (xs : List α) :
    (∀ cause, Chain.ofList xs = .error cause →
      solve xs = .error (.input cause) ∧ solveTable xs = .error (.input cause)) ∧
    ∀ chain, Chain.ofList xs = .ok chain → chain.matrices = xs.length - 1 ∧
      (FitsMemory chain.matrices →
        (∃ cost, solve xs = .ok cost) ∧ (∃ table, solveTable xs = .ok table) ∧
        ∀ layer, layer + 1 < chain.matrices →
          ∃ table, chain.layered.fillFirst layer = .ok table ∧ chain.RunsSafely layer table) ∧
      (¬ FitsMemory chain.matrices → solve xs = .error (.fault .tooLarge) ∧
        solveTable xs = .error (.fault .tooLarge)) := by
  refine ⟨fun cause h ↦ solve_of_error h, fun chain h ↦ ⟨matrices_of_ofList h, ?_, ?_⟩⟩
  · intro fits
    obtain ⟨hsolve, htable⟩ := solve_of_ok h
    rw [Chain.minCost_eq_leastCost fits] at hsolve
    rw [Chain.costs_eq_settled fits] at htable
    refine ⟨⟨_, hsolve⟩, ⟨_, htable⟩, fun layer hlayer ↦ ?_⟩
    exact ⟨chain.settled fits layer, Chain.fillFirst_eq_settled (by omega),
      Chain.runsSafely_settled hlayer⟩
  · intro hfits
    obtain ⟨hsolve, htable⟩ := solve_of_ok h
    rw [Chain.minCost_of_not_fits hfits] at hsolve
    rw [Chain.costs_of_not_fits hfits] at htable
    exact ⟨hsolve, htable⟩

end ChainProduct
