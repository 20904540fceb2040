import ChainProduct.Chain
import ChainProduct.Engine
import ChainProduct.Table

/-!
# The recurrence of a matrix chain

The product of the matrices from `i` to `j` ends with one multiplication, which joins the product
of the matrices from `i` to `k` with the product of those from `k + 1` to `j`, for some split `k`.
Its least cost is the least over all splits of the costs of the halves and of that multiplication.
Layer `l` of the computation holds the sub-chains of `l + 2` matrices, so both halves of a split
belong to earlier layers. Every step is checked: a table that lacks a half, an index beyond the
chain, or a sum beyond the range of costs stops it.

Main statements: `leastFrom` is attained and is a lower bound (`leastFrom_eq_ok_iff`), and
`splitCost_eq_ok_iff` says exactly when a split has a cost, and which.
-/

namespace ChainProduct

/-- The number of matrices in the sub-chains of a layer. -/
def chainLength (layer : Nat) : Checked Nat :=
  addIndex layer 2

/-- The least of the values at `k`, `k + 1`, …, `k + more`, all of which are evaluated in this
order. -/
def leastFrom (value : Nat → Checked Nat) (k : Nat) : Nat → Checked Nat
  | 0 => value k
  | more + 1 => do
      let first ← value k
      let rest ← leastFrom value (k + 1) more
      return min first rest

/-- A least value is a value, and no value is less. -/
theorem leastFrom_spec {value : Nat → Checked Nat} {k more least : Nat}
    (h : leastFrom value k more = .ok least) :
    (∀ t ≤ more, ∃ v, value (k + t) = .ok v ∧ least ≤ v) ∧
      ∃ t ≤ more, value (k + t) = .ok least := by
  induction more generalizing k least with
  | zero =>
      refine ⟨fun t ht ↦ ⟨least, ?_, Nat.le_refl _⟩, 0, Nat.le_refl _, h⟩
      rw [Nat.le_zero.mp ht]
      exact h
  | succ more ih =>
      rw [leastFrom] at h
      cases hfirst : value k with
      | error fault => simp [hfirst, bind, Except.bind] at h
      | ok first =>
          cases hrest : leastFrom value (k + 1) more with
          | error fault => simp [hfirst, hrest, bind, Except.bind] at h
          | ok rest =>
              obtain ⟨hbound, t, ht, hattained⟩ := ih hrest
              obtain rfl : min first rest = least := by
                simpa [hfirst, hrest, bind, Except.bind, pure, Except.pure] using h
              constructor
              · intro u hu
                cases u with
                | zero => exact ⟨first, hfirst, Nat.min_le_left _ _⟩
                | succ u =>
                    obtain ⟨v, hv, hle⟩ := hbound u (by omega)
                    exact ⟨v, by rw [← hv]; congr 1; omega,
                      Nat.le_trans (Nat.min_le_right _ _) hle⟩
              · rcases Nat.le_total first rest with hle | hle
                · exact ⟨0, Nat.zero_le _, by rw [Nat.min_eq_left hle]; exact hfirst⟩
                · refine ⟨t + 1, by omega, ?_⟩
                  rw [Nat.min_eq_right hle, ← hattained]
                  congr 1
                  omega

/-- There is a least value when every value exists. -/
theorem exists_leastFrom {value : Nat → Checked Nat} {k more : Nat}
    (h : ∀ t ≤ more, ∃ v, value (k + t) = .ok v) : ∃ least, leastFrom value k more = .ok least := by
  induction more generalizing k with
  | zero => exact h 0 (Nat.le_refl _)
  | succ more ih =>
      obtain ⟨first, hfirst⟩ := h 0 (Nat.zero_le _)
      have hnext : ∀ t ≤ more, ∃ v, value (k + 1 + t) = .ok v := fun t ht ↦ by
        rw [show k + 1 + t = k + (t + 1) by omega]
        exact h (t + 1) (by omega)
      obtain ⟨rest, hrest⟩ := ih hnext
      refine ⟨min first rest, ?_⟩
      rw [leastFrom, show value k = .ok first from hfirst, hrest]
      rfl

/-- The least value is attained and bounds all of them, which have to exist. -/
theorem leastFrom_eq_ok_iff {value : Nat → Checked Nat} {k more least : Nat} :
    leastFrom value k more = .ok least ↔
      (∀ t ≤ more, ∃ v, value (k + t) = .ok v ∧ least ≤ v) ∧
        ∃ t ≤ more, value (k + t) = .ok least := by
  refine ⟨leastFrom_spec, fun ⟨hbound, t, ht, hattained⟩ ↦ ?_⟩
  obtain ⟨other, hother⟩ := exists_leastFrom fun t ht ↦ (hbound t ht).imp fun _ hv ↦ hv.1
  obtain ⟨hbound', t', ht', hattained'⟩ := leastFrom_spec hother
  obtain ⟨v, hv, hle⟩ := hbound t' ht'
  obtain ⟨v', hv', hle'⟩ := hbound' t ht
  rw [hattained', Except.ok.injEq] at hv
  rw [hattained, Except.ok.injEq] at hv'
  rw [hother, Except.ok.injEq]
  omega

/-- The least value depends on nothing but the values themselves. -/
theorem leastFrom_congr {value other : Nat → Checked Nat} {k more : Nat}
    (h : ∀ t ≤ more, value (k + t) = other (k + t)) :
    leastFrom value k more = leastFrom other k more := by
  induction more generalizing k with
  | zero => exact h 0 (Nat.le_refl 0)
  | succ more ih =>
      have hfirst : value k = other k := h 0 (Nat.zero_le _)
      have hrest : leastFrom value (k + 1) more = leastFrom other (k + 1) more :=
        ih fun t ht ↦ by
          rw [Nat.add_assoc, Nat.add_comm 1 t]
          exact h (t + 1) (by omega)
      rw [leastFrom, leastFrom, hfirst, hrest]

/-- Store the costs of a layer on its diagonal, one after another. The first cost that cannot be
stored stops this; those before it stay in the table. -/
def Table.storeLayer (table : Table) (layer : Nat) (costs : List Nat) : Table × Option Fault :=
  match (do subIndex (← chainLength layer) 1) with
  | .error fault => (table, some fault)
  | .ok span => table.storeDiagonal span 0 costs

/-- A layer is stored on the diagonal of its sub-chains. -/
theorem Table.storeLayer_eq (table : Table) {layer : Nat} (h : layer + 2 < indexLimit)
    (costs : List Nat) :
    table.storeLayer layer costs = table.storeDiagonal (layer + 1) 0 costs := by
  have hlength : chainLength layer = .ok (layer + 2) := addIndex_eq_ok_iff.mpr ⟨h, rfl⟩
  simp [storeLayer, hlength, subIndex, bind, Except.bind]

/-- Storing a layer keeps the side. -/
@[simp] theorem Table.side_storeLayer (table : Table) (layer : Nat) (costs : List Nat) :
    (table.storeLayer layer costs).1.side = table.side := by
  unfold storeLayer
  split
  · rfl
  · exact side_storeDiagonal _ _ _ _

namespace Chain

/-- The cost of the sub-chain from `i` to `j` when its last multiplication joins the part up to `k`
with the part after `k`. -/
def splitCost (chain : Chain) (table : Table) (i k j : Nat) : Checked Nat := do
  let left ← table.get i k
  let right ← table.get (← addIndex k 1) j
  match left, right with
  | some left, some right =>
      let first ← chain.shape i
      let middle ← chain.shape k
      let last ← chain.shape j
      let halves ← addCost left right
      addCost halves (← multiplyCost first.rows middle.cols last.cols)
  | _, _ => .error .unsetHalf

/-- Computing the index of the next row never fails where the row can be read. -/
theorem get_next_eq_ok_iff {table : Table} {k j : Nat} {content : Option Nat} :
    (do table.get (← addIndex k 1) j) = .ok content ↔ table.get (k + 1) j = .ok content := by
  rw [bind_eq_ok_iff]
  constructor
  · rintro ⟨next, hnext, hget⟩
    obtain ⟨-, rfl⟩ := addIndex_eq_ok_iff.mp hnext
    exact hget
  · intro hget
    have hflat := (Table.get_eq_ok_iff.mp hget).1
    have hside : k + 1 < table.side :=
      Nat.lt_of_mul_lt_mul_right (Nat.lt_of_le_of_lt (Nat.le_add_right _ j) hflat)
    have hlimit : k + 1 < indexLimit :=
      Nat.lt_trans hside (Nat.lt_trans (Table.side_lt_of_fits table.fits) (by decide))
    exact ⟨k + 1, addIndex_eq_ok_iff.mpr ⟨hlimit, rfl⟩, hget⟩

/-- A split has a cost exactly when its halves are known, its matrices exist and the sum fits. -/
theorem splitCost_eq_ok_iff {chain : Chain} {table : Table} {i k j cost : Nat} :
    chain.splitCost table i k j = .ok cost ↔
      ∃ left right, table.get i k = .ok (some left) ∧ table.get (k + 1) j = .ok (some right) ∧
        i < chain.matrices ∧ k < chain.matrices ∧ j < chain.matrices ∧
        cost = left + right +
          productCost (chain.entry i) (chain.entry (k + 1)) (chain.entry (j + 1)) ∧
        cost < costLimit := by
  have hmultiply (hi : i < chain.matrices) (hk : k < chain.matrices) (hj : j < chain.matrices) :
      multiplyCost (chain.entry i) (chain.entry (k + 1)) (chain.entry (j + 1)) =
        .ok (productCost (chain.entry i) (chain.entry (k + 1)) (chain.entry (j + 1))) :=
    multiplyCost_eq_ok (chain.entry_le (by omega)) (chain.entry_le hk) (chain.entry_le hj)
  constructor
  · intro h
    obtain ⟨left?, hleft, h⟩ := bind_eq_ok_iff.mp h
    obtain ⟨next, hnext, h⟩ := bind_eq_ok_iff.mp h
    obtain ⟨right?, hright, h⟩ := bind_eq_ok_iff.mp h
    have hright := get_next_eq_ok_iff.mp (bind_eq_ok_iff.mpr ⟨next, hnext, hright⟩)
    cases left? with
    | none => cases h
    | some left =>
        cases right? with
        | none => cases h
        | some right =>
            obtain ⟨first, hfirst, h⟩ := bind_eq_ok_iff.mp h
            obtain ⟨middle, hmiddle, h⟩ := bind_eq_ok_iff.mp h
            obtain ⟨last, hlast, h⟩ := bind_eq_ok_iff.mp h
            obtain ⟨halves, hhalves, h⟩ := bind_eq_ok_iff.mp h
            obtain ⟨product, hproduct, h⟩ := bind_eq_ok_iff.mp h
            obtain ⟨hi, rfl⟩ := shape_eq_ok_iff.mp hfirst
            obtain ⟨hk, rfl⟩ := shape_eq_ok_iff.mp hmiddle
            obtain ⟨hj, rfl⟩ := shape_eq_ok_iff.mp hlast
            obtain rfl := Except.ok.inj ((hmultiply hi hk hj).symm.trans hproduct)
            obtain ⟨-, rfl⟩ := addCost_eq_ok_iff.mp hhalves
            obtain ⟨hcost, rfl⟩ := addCost_eq_ok_iff.mp h
            exact ⟨left, right, hleft, hright, hi, hk, hj, rfl, hcost⟩
  · intro hknown
    obtain ⟨left, right, hleft, hright, hi, hk, hj, rfl, hcost⟩ := hknown
    obtain ⟨next, hnext, hright⟩ := bind_eq_ok_iff.mp (get_next_eq_ok_iff.mpr hright)
    have hhalves : addCost left right = .ok (left + right) :=
      addCost_eq_ok_iff.mpr ⟨by omega, rfl⟩
    simp only [splitCost, hleft, hnext, hright, shape_eq, hi, hk, hj, if_true, hhalves, hmultiply,
      bind, Except.bind]
    exact addCost_eq_ok_iff.mpr ⟨hcost, rfl⟩

/-- The cost of a split depends on the cells of its halves and on no other cell. -/
theorem splitCost_congr (chain : Chain) {table other : Table} {i k j : Nat}
    (hleft : table.get i k = other.get i k)
    (hright : table.get (k + 1) j = other.get (k + 1) j) :
    chain.splitCost table i k j = chain.splitCost other i k j := by
  unfold splitCost
  rw [hleft]
  cases hnext : addIndex k 1 with
  | error fault => rfl
  | ok next =>
      obtain ⟨-, rfl⟩ := addIndex_eq_ok_iff.mp hnext
      simp only [ok_bind, hright]

/-- The least cost of the sub-chain of a layer that starts at `i`, over all its splits. -/
def cellCost (chain : Chain) (layer i : Nat) (table : Table) : Checked Nat := do
  let stop ← addIndex i (← chainLength layer)
  let j ← subIndex stop 1
  leastFrom (fun k ↦ chain.splitCost table i k j) i layer

/-- Where the indices exist, a cell is the least of the costs of its splits. -/
theorem cellCost_eq (chain : Chain) {layer i : Nat} (h : i + layer + 2 < indexLimit)
    (table : Table) : chain.cellCost layer i table =
      leastFrom (fun k ↦ chain.splitCost table i k (i + layer + 1)) i layer := by
  have hlength : chainLength layer = .ok (layer + 2) :=
    addIndex_eq_ok_iff.mpr ⟨by omega, rfl⟩
  have hstop : addIndex i (layer + 2) = .ok (i + layer + 2) := addIndex_eq_ok_iff.mpr ⟨h, rfl⟩
  simp [cellCost, hlength, hstop, subIndex, bind, Except.bind]

/-- Where they do not, no cell is evaluated. -/
theorem cellCost_eq_overflow (chain : Chain) {layer i : Nat} (h : indexLimit ≤ i + layer + 2)
    (table : Table) : chain.cellCost layer i table = .error .overflow := by
  by_cases hlayer : layer + 2 < indexLimit
  · have hstop : ¬ i + (layer + 2) < indexLimit := by omega
    simp [cellCost, chainLength, addIndex, fit, hlayer, hstop]
  · simp [cellCost, chainLength, addIndex, fit, hlayer]

/-- The indices of a cell that has a cost exist. -/
theorem index_lt_of_cellCost {chain : Chain} {table : Table} {layer i cost : Nat}
    (h : chain.cellCost layer i table = .ok cost) : i + layer + 2 < indexLimit := by
  refine Nat.lt_of_not_le fun hlimit ↦ ?_
  rw [cellCost_eq_overflow chain hlimit] at h
  cases h

/-- A cell has a cost only inside the chain and where both halves of each split are known. -/
theorem halves_of_cellCost {chain : Chain} {table : Table} {layer i cost : Nat}
    (h : chain.cellCost layer i table = .ok cost) :
    i + layer + 1 < chain.matrices ∧ ∀ k, i ≤ k → k < i + layer + 1 →
      ∃ left right, table.get i k = .ok (some left) ∧
        table.get (k + 1) (i + layer + 1) = .ok (some right) := by
  rw [cellCost_eq chain (index_lt_of_cellCost h), leastFrom_eq_ok_iff] at h
  obtain ⟨hsplits, -⟩ := h
  constructor
  · obtain ⟨first, hfirst, -⟩ := hsplits 0 (Nat.zero_le layer)
    obtain ⟨-, -, -, -, -, -, hj, -⟩ := splitCost_eq_ok_iff.mp hfirst
    exact hj
  · intro k hik hk
    obtain ⟨split, hsplit, -⟩ := hsplits (k - i) (by omega)
    rw [Nat.add_sub_of_le hik] at hsplit
    obtain ⟨left, right, hleft, hright, -⟩ := splitCost_eq_ok_iff.mp hsplit
    exact ⟨left, right, hleft, hright⟩

/-- The number of sub-chains of a layer. -/
def layerWidth (chain : Chain) (layer : Nat) : Checked Nat := do
  subIndex (← addIndex chain.matrices 1) (← chainLength layer)

/-- A layer has a width exactly when its sub-chains are at most one matrix too long. -/
theorem layerWidth_eq_ok_iff {chain : Chain} {layer width : Nat} :
    chain.layerWidth layer = .ok width ↔
      layer < chain.matrices ∧ chain.matrices + 1 < indexLimit ∧
        width = chain.matrices - 1 - layer := by
  constructor
  · intro h
    obtain ⟨above, habove, h⟩ := bind_eq_ok_iff.mp h
    obtain ⟨length, hlength, h⟩ := bind_eq_ok_iff.mp h
    obtain ⟨hlimit, rfl⟩ := addIndex_eq_ok_iff.mp habove
    obtain ⟨-, rfl⟩ := addIndex_eq_ok_iff.mp hlength
    obtain ⟨hle, rfl⟩ := subIndex_eq_ok_iff.mp h
    omega
  · rintro ⟨hlayer, hlimit, rfl⟩
    refine bind_eq_ok_iff.mpr ⟨_, addIndex_eq_ok_iff.mpr ⟨hlimit, rfl⟩, ?_⟩
    refine bind_eq_ok_iff.mpr ⟨_, addIndex_eq_ok_iff.mpr ⟨by omega, rfl⟩, ?_⟩
    exact subIndex_eq_ok_iff.mpr ⟨by omega, by omega⟩

/-- The cost of the whole chain in a table, zero while it is unset. -/
def totalCost (chain : Chain) (table : Table) : Checked Nat := do
  return (← table.get 0 (← subIndex chain.matrices 1)).getD 0

/-- The costs of a chain as a layered computation on tables. -/
def layered (chain : Chain) : Layered Checked Table Nat where
  layers := subIndex chain.matrices 1
  start := Table.fresh chain.matrices
  width := chain.layerWidth
  cell := chain.cellCost
  store layer costs table :=
    match table.storeLayer layer costs with
    | (next, none) => .ok next
    | (_, some fault) => .error fault
  answer := chain.totalCost

/-- A run has one layer less than there are matrices. -/
theorem layered_layers (chain : Chain) : chain.layered.layers = .ok (chain.matrices - 1) :=
  subIndex_eq_ok_iff.mpr ⟨chain.one_le_matrices, rfl⟩

/-- Where the table fits in memory, layers have the width that is left beside their sub-chains. -/
theorem layered_width {chain : Chain} (fits : FitsMemory chain.matrices) {layer : Nat}
    (h : layer < chain.matrices) :
    chain.layered.width layer = .ok (chain.matrices - 1 - layer) := by
  have hmatrices := Table.side_lt_of_fits fits
  have hlimit : chain.matrices + 1 < indexLimit :=
    Nat.lt_of_le_of_lt (Nat.succ_le_of_lt hmatrices) (by decide)
  exact layerWidth_eq_ok_iff.mpr ⟨h, hlimit, rfl⟩

/-- Evaluate and store one layer on any table. The table is the one that is left, also after a
fault: an evaluation that fails leaves it as it was. -/
def fillLayer (chain : Chain) (layer : Nat) (table : Table) : Table × Checked (List Nat) :=
  match chain.layered.cells layer table with
  | .error fault => (table, .error fault)
  | .ok costs =>
      match table.storeLayer layer costs with
      | (next, none) => (next, .ok costs)
      | (next, some fault) => (next, .error fault)

/-- A layer that is evaluated and stored leaves the table that it was stored in. -/
theorem fillLayer_of_ok {chain : Chain} {layer : Nat} {table next : Table} {costs : List Nat}
    (hcells : chain.layered.cells layer table = .ok costs)
    (hstore : table.storeLayer layer costs = (next, none)) :
    chain.fillLayer layer table = (next, .ok costs) := by
  simp [fillLayer, hcells, hstore]

/-- A layer that is evaluated leaves the table in which its costs were stored, also when storing
them stops. -/
theorem fst_fillLayer_of_ok {chain : Chain} {layer : Nat} {table : Table} {costs : List Nat}
    (hcells : chain.layered.cells layer table = .ok costs) :
    (chain.fillLayer layer table).1 = (table.storeLayer layer costs).1 := by
  rw [fillLayer, hcells]
  rcases hstore : table.storeLayer layer costs with ⟨next, _ | fault⟩ <;> simp only [hstore]

/-- A layer that cannot be evaluated leaves the table as it was. -/
theorem fillLayer_of_error {chain : Chain} {layer : Nat} {table : Table} {fault : Fault}
    (hcells : chain.layered.cells layer table = .error fault) :
    chain.fillLayer layer table = (table, .error fault) := by
  simp [fillLayer, hcells]

/-- The table of the costs of all sub-chains. -/
def costs (chain : Chain) : Checked Table :=
  (Engine.ofProblem chain.layered).frontier

/-- The least number of scalar multiplications in the product of the whole chain. -/
def minCost (chain : Chain) : Checked Nat :=
  (Engine.ofProblem chain.layered).run

end Chain

end ChainProduct
