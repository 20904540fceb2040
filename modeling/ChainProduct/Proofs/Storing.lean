import ChainProduct.Proofs.Evaluation

/-!
# Storing a layer on any table

What storing a layer does to a table with any contents, for any number of costs. That number is not
compared with the width of the layer, and only flat indices are checked, so the costs beyond the
width go to the next rows. `cell_storeLayer_above` and `cell_storeLayer_below` give every cell that
is left, also when the layer stops, and `storeLayer_stops_iff` says when it does: the surplus lands
below the diagonal, one row after another, until there is no row left.

No reader looks there. `Table.AgreeAbove` relates tables that differ below the diagonal only, and
such tables read alike (`Chain.readsAlike_of_agreeAbove`). So each change of a table keeps the
relation, be it a cell that is set or a layer that is stored or filled (`Chain.agreeAbove_change`),
and so does every sequence of changes. The main theorem, `Table.storeLayer_confined`, puts both
halves together.
-/

namespace ChainProduct

namespace Table

/-- The tables have the same cells on and above the diagonal. -/
structure AgreeAbove (table other : Table) : Prop where
  side_eq : other.side = table.side
  cell_eq : ∀ i j, i ≤ j → j < table.side → other.cell i j = table.cell i j

variable {table other : Table} {layer : Nat} {costs : List Nat}

/-! ## Where the costs of a layer go -/

/-- The flat index of a column beyond the last one is that of a cell in the next row. -/
theorem flat_wrap {side i j : Nat} (h : side ≤ j) :
    i * side + j = (i + 1) * side + (j - side) := by
  rw [Nat.succ_mul]
  omega

/-- A cost of a layer has a place exactly when a row comes after its own. -/
theorem lt_size_iff_of_layer (hlayer : layer + 2 ≤ table.side) (k : Nat) :
    k * table.side + (k + (layer + 1)) < table.cells.size ↔ k + 1 < table.side := by
  rw [table.size_cells]
  refine ⟨fun hflat ↦ Nat.lt_of_not_le fun hlast ↦ ?_, fun hrow ↦ ?_⟩
  · -- In the last row, even the first column of the layer is beyond the table.
    have hrows : table.side * table.side ≤ (k + 1) * table.side :=
      Nat.mul_le_mul_right _ hlast
    rw [Nat.succ_mul] at hrows
    omega
  · rcases Nat.lt_or_ge (k + (layer + 1)) table.side with hinside | hbeyond
    · exact flat_lt (by omega) hinside
    · rw [flat_wrap hbeyond]
      exact flat_lt hrow (by omega)

/-- A cost of a layer goes to its own row, or below the diagonal of the next row if its column is
beyond the last one. -/
theorem flat_eq_iff_of_layer (hlayer : layer + 2 ≤ table.side) {k i j : Nat} (hi : i < table.side)
    (hj : j < table.side) :
    k * table.side + (k + (layer + 1)) = i * table.side + j ↔
      i = k ∧ j = k + layer + 1 ∨ i = k + 1 ∧ j + table.side = k + layer + 1 := by
  refine ⟨fun hflat ↦ ?_, fun hcell ↦ ?_⟩
  · have hrow : k + 1 < table.side := by
      rw [← lt_size_iff_of_layer hlayer, hflat, table.size_cells]
      exact flat_lt hi hj
    rcases Nat.lt_or_ge (k + (layer + 1)) table.side with hinside | hbeyond
    · have := (flat_inj hinside hj).mp hflat
      omega
    · rw [flat_wrap hbeyond, flat_inj (by omega) hj] at hflat
      omega
  · rcases hcell with ⟨rfl, rfl⟩ | ⟨rfl, hwrap⟩
    · rfl
    · rw [flat_wrap (show table.side ≤ k + (layer + 1) by omega)]
      omega

/-- A layer of the table is stored on its diagonal. -/
theorem storeLayer_eq_storeDiagonal (hlayer : layer + 2 ≤ table.side) (costs : List Nat) :
    table.storeLayer layer costs = table.storeDiagonal (layer + 1) 0 costs := by
  have hside := side_lt_of_fits table.fits
  exact storeLayer_eq table (by unfold indexLimit; omega) costs

/-! ## What storing a layer leaves -/

/-- Storing a layer stops exactly when there are as many costs as rows, or more. -/
theorem storeLayer_stops_iff (hlayer : layer + 2 ≤ table.side)
    (hcosts : ∀ cost ∈ costs, cost < unsetMark) :
    (∃ fault, (table.storeLayer layer costs).2 = some fault) ↔ table.side ≤ costs.length := by
  rw [← Option.ne_none_iff_exists', storeLayer_eq_storeDiagonal hlayer, Ne,
    storeDiagonal_eq_none_iff hcosts]
  simp only [lt_size_iff_of_layer hlayer]
  refine ⟨fun h ↦ Nat.le_of_not_lt fun hfew ↦ h fun k _ hk ↦ by omega, fun hmany h ↦ ?_⟩
  have := h (table.side - 1) (Nat.zero_le _) (by omega)
  omega

/-- On and above the diagonal, the costs of a layer stand in its cells, and nothing else changes. -/
theorem cell_storeLayer_above (hlayer : layer + 2 ≤ table.side)
    (hcosts : ∀ cost ∈ costs, cost < unsetMark) {i j : Nat} (hij : i ≤ j) (hj : j < table.side) :
    (table.storeLayer layer costs).1.cell i j =
      if j = i + layer + 1 ∧ i < costs.length then costs[i]? else table.cell i j := by
  have hi : i < table.side := by omega
  rw [storeLayer_eq_storeDiagonal hlayer]
  split
  · next hcell =>
      obtain ⟨rfl, hcount⟩ := hcell
      rw [List.getElem?_eq_getElem hcount]
      refine cell_storeDiagonal hcosts (Nat.zero_le i) (List.getElem?_eq_getElem hcount) ?_ rfl
      exact (lt_size_iff_of_layer hlayer i).mpr (by omega)
  · next hcell =>
      refine cell_storeDiagonal_of_ne fun k _ hk hflat ↦ ?_
      have := (flat_eq_iff_of_layer hlayer hi hj).mp hflat
      omega

/-- Below the diagonal, the surplus costs of a layer stand one row further down, and nothing else
changes. -/
theorem cell_storeLayer_below (hlayer : layer + 2 ≤ table.side)
    (hcosts : ∀ cost ∈ costs, cost < unsetMark) {i j : Nat} (hji : j < i) (hi : i < table.side) :
    (table.storeLayer layer costs).1.cell i j =
      if j + table.side = i + layer ∧ i ≤ costs.length then costs[i - 1]?
      else table.cell i j := by
  have hj : j < table.side := by omega
  rw [storeLayer_eq_storeDiagonal hlayer]
  split
  · next hcell =>
      obtain ⟨hwrap, hcount⟩ := hcell
      obtain ⟨k, rfl⟩ : ∃ k, i = k + 1 := ⟨i - 1, by omega⟩
      rw [Nat.add_sub_cancel, List.getElem?_eq_getElem hcount]
      refine cell_storeDiagonal hcosts (Nat.zero_le k) (List.getElem?_eq_getElem hcount) ?_ ?_
      · exact (lt_size_iff_of_layer hlayer k).mpr hi
      · exact (flat_eq_iff_of_layer hlayer hi hj).mpr (.inr ⟨rfl, by omega⟩)
  · next hcell =>
      refine cell_storeDiagonal_of_ne fun k _ hk hflat ↦ ?_
      have := (flat_eq_iff_of_layer hlayer hi hj).mp hflat
      omega

/-- A layer with as many costs as its width is stored as a whole. -/
theorem snd_storeLayer_take (hlayer : layer + 2 ≤ table.side)
    (hcosts : ∀ cost ∈ costs, cost < unsetMark) :
    (table.storeLayer layer (costs.take (table.side - 1 - layer))).2 = none := by
  have htake : ∀ cost ∈ costs.take (table.side - 1 - layer), cost < unsetMark :=
    fun cost hcost ↦ hcosts cost (List.mem_of_mem_take hcost)
  by_contra hstop
  rw [← ne_eq, Option.ne_none_iff_exists', storeLayer_stops_iff hlayer htake,
    List.length_take] at hstop
  omega

/-! ## Tables that agree above the diagonal -/

namespace AgreeAbove

/-- Cells on and above the diagonal read the same. -/
theorem get_eq (h : AgreeAbove table other) {i j : Nat} (hij : i ≤ j) (hj : j < table.side) :
    other.get i j = table.get i j := by
  have hside := h.side_eq
  rw [Table.get_eq_ok (by omega) (by omega), Table.get_eq_ok (by omega) hj, h.cell_eq i j hij hj]

/-- The same cost at the same flat index keeps tables that agree. -/
theorem store (h : AgreeAbove table other) {flat : Fin table.cells.size}
    {flat' : Fin other.cells.size} (hflat : flat'.val = flat.val) (cost : Nat) :
    AgreeAbove (table.store flat cost) (other.store flat' cost) where
  side_eq := h.side_eq
  cell_eq i j hij hj := by
    rw [cell_store, cell_store, hflat, h.side_eq, h.cell_eq i j hij hj]

/-- A flat index is one of the one table exactly when it is one of the other. -/
theorem hasPlace_iff (h : AgreeAbove table other) {i j cost : Nat} :
    cost < unsetMark ∧ i * other.side + j < other.cells.size ↔
      cost < unsetMark ∧ i * table.side + j < table.cells.size := by
  rw [other.size_cells, table.size_cells, h.side_eq]

/-- Setting the same cell keeps tables that agree. -/
theorem trySet (h : AgreeAbove table other) (i j cost : Nat) :
    AgreeAbove (table.trySet i j cost) (other.trySet i j cost) := by
  by_cases hplace : cost < unsetMark ∧ i * table.side + j < table.cells.size
  · have hplace' := h.hasPlace_iff.mpr hplace
    rw [trySet_eq_store hplace.1 hplace.2, trySet_eq_store hplace'.1 hplace'.2]
    exact h.store (by simp only [h.side_eq]) cost
  · rwa [trySet_eq_self hplace, trySet_eq_self (h.hasPlace_iff.not.mpr hplace)]

/-- The same diagonal keeps tables that agree. -/
theorem storeDiagonal (h : AgreeAbove table other) (span k : Nat) (costs : List Nat) :
    AgreeAbove (table.storeDiagonal span k costs).1 (other.storeDiagonal span k costs).1 := by
  induction costs generalizing k table other with
  | nil => exact h
  | cons cost costs ih =>
      by_cases hplace : cost < unsetMark ∧ k * table.side + (k + span) < table.cells.size
      · have hplace' := h.hasPlace_iff.mpr hplace
        rw [storeDiagonal_cons hplace.1 hplace.2, storeDiagonal_cons hplace'.1 hplace'.2]
        exact ih (h.store (by simp only [h.side_eq]) cost) (k + 1)
      · obtain ⟨fault, hstop⟩ := storeDiagonal_cons_of_not hplace costs
        obtain ⟨fault', hstop'⟩ := storeDiagonal_cons_of_not (h.hasPlace_iff.not.mpr hplace) costs
        rwa [hstop, hstop']

/-- The same layer keeps tables that agree. -/
theorem storeLayer (h : AgreeAbove table other) (layer : Nat) (costs : List Nat) :
    AgreeAbove (table.storeLayer layer costs).1 (other.storeLayer layer costs).1 := by
  unfold Table.storeLayer
  split
  · exact h
  · exact h.storeDiagonal _ 0 costs

/-- One table is filled exactly when the other is. -/
theorem isFilled_iff (h : AgreeAbove table other) : other.IsFilled ↔ table.IsFilled := by
  have hcell (j : Nat) (hj : j < table.side) (i : Nat) (hi : i < j + 1) :
      other.cell i j = table.cell i j := h.cell_eq i j (by omega) hj
  unfold IsFilled
  rw [h.side_eq]
  exact forall₂_congr fun j hj ↦ forall₂_congr fun i hi ↦ by rw [hcell j hj i hi]

end AgreeAbove

/-- The surplus costs of a layer leave everything on and above the diagonal as it is without
them. -/
theorem agreeAbove_storeLayer_take (hlayer : layer + 2 ≤ table.side)
    (hcosts : ∀ cost ∈ costs, cost < unsetMark) :
    (table.storeLayer layer (costs.take (table.side - 1 - layer))).1.AgreeAbove
      (table.storeLayer layer costs).1 where
  side_eq := by simp only [side_storeLayer]
  cell_eq i j hij hj := by
    have htake : ∀ cost ∈ costs.take (table.side - 1 - layer), cost < unsetMark :=
      fun cost hcost ↦ hcosts cost (List.mem_of_mem_take hcost)
    rw [side_storeLayer] at hj
    rw [cell_storeLayer_above hlayer hcosts hij hj, cell_storeLayer_above hlayer htake hij hj]
    by_cases hcell : j = i + layer + 1 ∧ i < costs.length
    · have hwidth : i < table.side - 1 - layer := by omega
      rw [if_pos hcell, if_pos (by rw [List.length_take]; omega), List.getElem?_take_of_lt hwidth]
    · rw [if_neg hcell, if_neg (by rw [List.length_take]; omega)]

end Table

namespace Chain

/-- Every reader of the table of a chain finds the same on both tables: each cell that is evaluated,
whether the table is filled, and the cost of the whole chain. -/
structure ReadsAlike (chain : Chain) (table other : Table) : Prop where
  cellCost : ∀ layer i, i + layer + 1 < chain.matrices →
    chain.cellCost layer i other = chain.cellCost layer i table
  isFilled : other.IsFilled ↔ table.IsFilled
  totalCost : chain.totalCost other = chain.totalCost table

/-- A change that may be asked of the table of a chain: to set a cell, to store costs as a layer, or
to fill a layer. -/
inductive Change where
  | set (i j cost : Nat)
  | store (layer : Nat) (costs : List Nat)
  | fill (layer : Nat)
  deriving DecidableEq, Repr

/-- The table that a change leaves, also when it stops. -/
def change (chain : Chain) (table : Table) : Change → Table
  | .set i j cost => table.trySet i j cost
  | .store layer costs => (table.storeLayer layer costs).1
  | .fill layer => (chain.fillLayer layer table).1

/-- The table that is left when changes are made one after another, with those that stop passed
over. -/
def changeAll (chain : Chain) (changes : List Change) (table : Table) : Table :=
  changes.foldl chain.change table

variable {chain : Chain} {table other : Table}

/-! ## Readers of a table -/

/-- Tables that agree above the diagonal read alike. -/
theorem readsAlike_of_agreeAbove (h : table.AgreeAbove other)
    (hside : table.side = chain.matrices) : chain.ReadsAlike table other where
  cellCost layer i hinside :=
    cellCost_congr hinside fun a b _ hab _ _ hb ↦ h.get_eq hab (by omega)
  isFilled := h.isFilled_iff
  totalCost := by
    have hpos := chain.one_le_matrices
    have hlast : subIndex chain.matrices 1 = .ok (chain.matrices - 1) :=
      subIndex_eq_ok_iff.mpr ⟨hpos, rfl⟩
    rw [Chain.totalCost, Chain.totalCost, hlast, ok_bind, ok_bind,
      h.get_eq (Nat.zero_le _) (by omega)]

/-- A layer has the same costs on tables that read alike, or stops on both. -/
theorem ReadsAlike.cells (h : chain.ReadsAlike table other) (layer : Nat) :
    chain.layered.cells layer other = chain.layered.cells layer table := by
  rw [Layered.cells, Layered.cells]
  cases hwidth : chain.layered.width layer with
  | error fault => rfl
  | ok width =>
      obtain ⟨-, -, rfl⟩ := layerWidth_eq_ok_iff.mp hwidth
      refine mapM_congr fun i hi ↦ h.cellCost layer i ?_
      have := List.mem_range.mp hi
      omega

/-! ## Changes of a table -/

/-- Filling a layer keeps tables that agree: its costs are the same on both. -/
theorem agreeAbove_fillLayer (h : table.AgreeAbove other) (hside : table.side = chain.matrices)
    (layer : Nat) :
    (chain.fillLayer layer table).1.AgreeAbove (chain.fillLayer layer other).1 := by
  have hother := (readsAlike_of_agreeAbove h hside).cells layer
  cases hcells : chain.layered.cells layer table with
  | error fault =>
      rw [hcells] at hother
      rwa [fillLayer_of_error hcells, fillLayer_of_error hother]
  | ok costs =>
      rw [hcells] at hother
      rw [fst_fillLayer_of_ok hcells, fst_fillLayer_of_ok hother]
      exact h.storeLayer layer costs

/-- A change keeps the side. -/
theorem side_change (chain : Chain) (table : Table) (change : Change) :
    (chain.change table change).side = table.side := by
  cases change with
  | set i j cost => exact table.side_trySet i j cost
  | store layer costs => exact table.side_storeLayer layer costs
  | fill layer =>
      rw [Chain.change]
      cases hcells : chain.layered.cells layer table with
      | error fault => rw [fillLayer_of_error hcells]
      | ok costs => rw [fst_fillLayer_of_ok hcells, Table.side_storeLayer]

/-- Each change keeps tables that agree. -/
theorem agreeAbove_change (h : table.AgreeAbove other) (hside : table.side = chain.matrices)
    (change : Change) : (chain.change table change).AgreeAbove (chain.change other change) := by
  cases change with
  | set i j cost => exact h.trySet i j cost
  | store layer costs => exact h.storeLayer layer costs
  | fill layer => exact agreeAbove_fillLayer h hside layer

/-- So does every sequence of changes. -/
theorem agreeAbove_changeAll (h : table.AgreeAbove other) (hside : table.side = chain.matrices)
    (changes : List Change) :
    (chain.changeAll changes table).AgreeAbove (chain.changeAll changes other) ∧
      (chain.changeAll changes table).side = chain.matrices := by
  induction changes generalizing table other with
  | nil => exact ⟨h, hside⟩
  | cons change changes ih =>
      exact ih (agreeAbove_change h hside change) ((chain.side_change table change).trans hside)

end Chain

/-- Storing the costs of a layer, however many they are, sets the cells of the layer and no other
cell on or above the diagonal, and stops exactly when there are as many costs as rows, or more. The
surplus costs go to cells below the diagonal and nowhere else. So no cell of a chain that is
evaluated later, whatever is set, stored or filled before that, depends on them, nor does whether
the table is filled, nor the cost of the whole chain: all are as if the surplus had not been
given. -/
theorem Table.storeLayer_confined {table : Table} {layer : Nat} {costs : List Nat}
    (hlayer : layer + 2 ≤ table.side) (hcosts : ∀ cost ∈ costs, cost < unsetMark) :
    ∃ next stop, table.storeLayer layer costs = (next, stop) ∧ next.side = table.side ∧
      (∀ k cost, costs[k]? = some cost → k + layer + 1 < table.side →
        next.get k (k + layer + 1) = .ok (some cost)) ∧
      (∀ i j, i ≤ j → j < table.side → (j = i + layer + 1 → costs.length ≤ i) →
        next.get i j = table.get i j) ∧
      ((∃ fault, stop = some fault) ↔ table.side ≤ costs.length) ∧
      (∀ k cost, costs[k]? = some cost → table.side ≤ k + layer + 1 → k + 1 < table.side →
        k + layer + 1 - table.side < k + 1 ∧
          next.get (k + 1) (k + layer + 1 - table.side) = .ok (some cost)) ∧
      (∀ i j, j < i → i < table.side → (j + table.side = i + layer → costs.length < i) →
        next.get i j = table.get i j) ∧
      ∃ bare, table.storeLayer layer (costs.take (table.side - 1 - layer)) = (bare, none) ∧
        ∀ chain : Chain, chain.matrices = table.side → ∀ changes,
          chain.ReadsAlike (chain.changeAll changes bare) (chain.changeAll changes next) := by
  have hside := table.side_storeLayer layer costs
  refine ⟨(table.storeLayer layer costs).1, (table.storeLayer layer costs).2, rfl, hside, ?_, ?_,
    storeLayer_stops_iff hlayer hcosts, ?_, ?_,
    (table.storeLayer layer (costs.take (table.side - 1 - layer))).1,
    Prod.ext rfl (snd_storeLayer_take hlayer hcosts), ?_⟩
  · intro k cost hcost hinside
    obtain ⟨hk, -⟩ := List.getElem?_eq_some_iff.mp hcost
    rw [get_eq_ok (by omega) (by omega), cell_storeLayer_above hlayer hcosts (by omega) hinside,
      if_pos ⟨rfl, hk⟩, hcost]
  · intro i j hij hj hother
    rw [get_eq_ok (by omega) (by omega), get_eq_ok (by omega) hj,
      cell_storeLayer_above hlayer hcosts hij hj, if_neg (by omega)]
  · intro k cost hcost hbeyond hrow
    obtain ⟨hk, -⟩ := List.getElem?_eq_some_iff.mp hcost
    refine ⟨by omega, ?_⟩
    rw [get_eq_ok (by omega) (by omega), cell_storeLayer_below hlayer hcosts (by omega) hrow,
      if_pos (by omega), Nat.add_sub_cancel, hcost]
  · intro i j hji hi hother
    rw [get_eq_ok (by omega) (by omega), get_eq_ok hi (by omega),
      cell_storeLayer_below hlayer hcosts hji hi, if_neg (by omega)]
  · intro chain hchain changes
    obtain ⟨hagree, hmatrices⟩ := Chain.agreeAbove_changeAll
      (agreeAbove_storeLayer_take hlayer hcosts)
      ((table.side_storeLayer layer _).trans hchain.symm) changes
    exact Chain.readsAlike_of_agreeAbove hagree hmatrices

/-- Of three costs for the second layer of three matrices, the first one is that of the whole chain,
the second one lands below the diagonal, and the third one stops. The layer that was skipped is as
unset as before, and the cost of the whole chain is the first one. -/
theorem Table.storeLayer_confined_three :
    ∃ (chain : Chain) (table next : Table) (fault : Fault),
      chain.dims = #[10, 100, 5, 50] ∧ chain.layered.start = .ok table ∧
      table.storeLayer 1 [7500, 8, 9] = (next, some fault) ∧
      next.get 0 2 = .ok (some 7500) ∧ next.get 2 0 = .ok (some 8) ∧ next.get 1 2 = .ok none ∧
      chain.totalCost next = .ok 7500 := by
  let chain : Chain := ⟨#[10, 100, 5, 50], by decide, by decide⟩
  let table : Table := .initial 3 (by decide)
  have hcosts : ∀ cost ∈ [7500, 8, 9], cost < unsetMark := by decide
  obtain ⟨next, stop, hstore, -, hlayer, hother, hstop, hsurplus, -⟩ :=
    Table.storeLayer_confined (show 1 + 2 ≤ table.side by decide) hcosts
  obtain ⟨fault, rfl⟩ := hstop.mpr (by decide)
  have hwhole : next.get 0 2 = .ok (some 7500) := hlayer 0 7500 rfl (by decide)
  have hskipped : next.get 1 2 = .ok none := hother 1 2 (by decide) (by decide) (by decide)
  refine ⟨chain, table, next, fault, rfl, rfl, hstore, hwhole,
    (hsurplus 1 8 rfl (by decide) (by decide)).2, hskipped, ?_⟩
  show (do return (← next.get 0 2).getD 0) = _
  rw [hwhole]
  rfl

end ChainProduct
