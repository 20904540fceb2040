import ChainProduct.Fault

/-!
# Cost tables

A square table with one cell for each pair of matrices `i` and `j`, which holds the cost of the
sub-chain from `i` to `j` once it is known. Cells are addressed flat, row after row, and only the
flat index is checked, so a column beyond the last one falls into the next row.

`cell` is the view of a table that statements use. Main statements: a fresh table is zero on the
diagonal and unset elsewhere (`cell_initial`), `get` reads the view (`get_eq_ok_iff`), `set`
changes the content of one flat index and nothing else (`set_eq_ok_iff`, `cell_store`), and a
diagonal of costs changes the content of its own flat indices, up to the first one that is none of
the table (`cell_storeDiagonal`, `cell_storeDiagonal_of_ne`, `storeDiagonal_eq_none_iff`).
-/

namespace ChainProduct

/-- The number that stands for a cell that is not set. No cost is equal to it. -/
def unsetMark : Nat := costLimit - 1

/-- The largest offset within one block of memory: offsets have a sign and 64 bits. -/
def maxOffset : Nat := 0x7fff_ffff_ffff_ffff

/-- A table of this side fits in memory: one block of sixteen bytes a cell. -/
def FitsMemory (side : Nat) : Prop :=
  16 * (side * side) ≤ maxOffset

/-- `FitsMemory` is decidable by one comparison. -/
instance (side : Nat) : Decidable (FitsMemory side) :=
  inferInstanceAs (Decidable (_ ≤ _))

/-- A smaller table than one that fits fits too. -/
theorem FitsMemory.mono {side other : Nat} (h : side ≤ other) (fits : FitsMemory other) :
    FitsMemory side :=
  Nat.le_trans (Nat.mul_le_mul_left 16 (Nat.mul_le_mul h h)) fits

/-- A square table whose cells hold a cost or are unset. -/
@[ext]
structure Table where
  side : Nat
  cells : Array (Option Nat)
  size_cells : cells.size = side * side
  fits : FitsMemory side
  deriving DecidableEq

namespace Table

/-- The table whose cells are given by row and column. -/
def ofCells (side : Nat) (fits : FitsMemory side) (content : Nat → Nat → Option Nat) : Table :=
  { side
    cells := Array.ofFn fun flat : Fin (side * side) ↦
      content (flat.val / side) (flat.val % side)
    size_cells := by simp
    fits }

/-- The table before any product is costed: a single matrix costs nothing, and every other cell is
unset. -/
def initial (side : Nat) (fits : FitsMemory side) : Table :=
  ofCells side fits fun i j ↦ if i = j then some 0 else none

/-- The cell at row `i` and column `j`; unset beyond the last cell. -/
def cell (table : Table) (i j : Nat) : Option Nat :=
  table.cells.getD (i * table.side + j) none

/-- The place of row `i` and column `j` among the cells. -/
def place (table : Table) (i j : Nat) : Checked (Fin table.cells.size) := do
  let start ← mulIndex i table.side
  let flat ← addIndex start j
  if h : flat < table.cells.size then .ok ⟨flat, h⟩ else .error .outOfRange

/-- The content of a cell. -/
def get (table : Table) (i j : Nat) : Checked (Option Nat) := do
  return table.cells[← table.place i j]

/-- The place at which a cost may be stored: it has to exist, and the cost has to differ from the
mark of unset cells. -/
def placeFor (table : Table) (i j cost : Nat) : Checked (Fin table.cells.size) :=
  if cost < unsetMark then table.place i j else .error .reservedCost

/-- The table with a cost at a place. -/
def store (table : Table) (flat : Fin table.cells.size) (cost : Nat) : Table :=
  { table with
    cells := table.cells.set flat (some cost)
    size_cells := by simp [table.size_cells] }

/-- The table with the cost of the sub-chain from `i` to `j`. -/
def set (table : Table) (i j cost : Nat) : Checked Table := do
  return table.store (← table.placeFor i j cost) cost

/-- The table with the cost of the sub-chain from `i` to `j`, or the same table when that cannot be
stored. -/
def trySet (table : Table) (i j cost : Nat) : Table :=
  (table.set i j cost).toOption.getD table

/-- The table where the single matrix `i` costs nothing. -/
def setSingle (table : Table) (i : Nat) : Checked Table := do
  return table.store (← table.place i i) 0

/-- The table of a side that fits in memory, with the costs of single matrices stored one after
another. -/
def fresh (side : Nat) : Checked Table :=
  if fits : FitsMemory side then
    (List.range side).foldlM setSingle (ofCells side fits fun _ _ ↦ none)
  else .error .tooLarge

/-- Store costs one after another at `(k, k + span)`, `(k + 1, k + 1 + span)` and so on. The first
cost that cannot be stored stops this; those before it stay in the table. -/
def storeDiagonal (span : Nat) : Nat → List Nat → Table → Table × Option Fault
  | _, [], table => (table, none)
  | k, cost :: costs, table =>
      match (do table.placeFor k (← addIndex k span) cost) with
      | .error fault => (table, some fault)
      | .ok flat => storeDiagonal span (k + 1) costs (table.store flat cost)

/-- Every cell on or above the diagonal holds a cost. -/
def IsFilled (table : Table) : Prop :=
  ∀ j < table.side, ∀ i < j + 1, (table.cell i j).isSome

/-- `IsFilled` is decidable by looking at every cell on or above the diagonal. -/
instance (table : Table) : Decidable table.IsFilled :=
  inferInstanceAs (Decidable (∀ j < table.side, ∀ i < j + 1, _))

/-- The cells, row after row. -/
def rows (table : Table) : List (List (Option Nat)) :=
  (List.range table.side).map fun i ↦ (List.range table.side).map fun j ↦ table.cell i j

/-- The value as it is shown when debugging: unset cells show the number that stands for them. -/
def inspect (table : Table) : String :=
  let cells := table.cells.toList.map fun cell ↦ toString (cell.getD unsetMark)
  "CostTable \x7b n: " ++ toString table.side ++ ", cells: [" ++ ", ".intercalate cells ++ "] \x7d"

/-! ## The view of a table -/

/-- The number of cells of a table is an index. -/
theorem size_lt_indexLimit (table : Table) : table.cells.size < indexLimit := by
  have hsize := table.size_cells
  have hfits := table.fits
  unfold FitsMemory maxOffset at hfits
  unfold indexLimit
  omega

/-- The side of a table that fits in memory is less than the 30th power of two. -/
theorem side_lt_of_fits {side : Nat} (fits : FitsMemory side) : side < 0x4000_0000 := by
  refine Nat.lt_of_not_le fun h ↦ ?_
  have hsquare := Nat.mul_le_mul h h
  unfold FitsMemory maxOffset at fits
  omega

/-- Row and column have a place exactly when their flat index is one of a cell. -/
theorem place_eq_ok_iff {table : Table} {i j : Nat} {flat : Fin table.cells.size} :
    table.place i j = .ok flat ↔ flat.val = i * table.side + j := by
  have hlimit := table.size_lt_indexLimit
  unfold place mulIndex addIndex fit
  by_cases h : i * table.side + j < table.cells.size
  · have hstart : i * table.side < indexLimit := by omega
    have hflat : i * table.side + j < indexLimit := by omega
    simp [bind, Except.bind, hstart, hflat, h, Fin.ext_iff, eq_comm]
  · have hne : flat.val ≠ i * table.side + j := by omega
    by_cases hstart : i * table.side < indexLimit
    · by_cases hflat : i * table.side + j < indexLimit <;>
        simp [bind, Except.bind, hstart, hflat, h, hne]
    · simp [bind, Except.bind, hstart, hne]

/-- A cell can be read exactly when its flat index is one of the table, and reads as the view. -/
theorem get_eq_ok_iff {table : Table} {i j : Nat} {content : Option Nat} :
    table.get i j = .ok content ↔
      i * table.side + j < table.side * table.side ∧ content = table.cell i j := by
  rw [← table.size_cells]
  unfold get cell
  cases hplace : table.place i j with
  | error fault =>
      have h : ¬ i * table.side + j < table.cells.size := fun h ↦ by
        have hok : table.place i j = .ok ⟨_, h⟩ := place_eq_ok_iff.mpr rfl
        simp [hok] at hplace
      simp [bind, Except.bind, h]
  | ok flat =>
      have h := place_eq_ok_iff.mp hplace
      simp [bind, Except.bind, pure, Except.pure, ← h, eq_comm]

/-- A cost has a place exactly when it is no mark and its flat index is one of the table. -/
theorem placeFor_eq_ok_iff {table : Table} {i j cost : Nat} {flat : Fin table.cells.size} :
    table.placeFor i j cost = .ok flat ↔ cost < unsetMark ∧ flat.val = i * table.side + j := by
  unfold placeFor
  split
  · next hcost => simp only [hcost, true_and, place_eq_ok_iff]
  · next hcost => simp [hcost]

/-- A cost can be stored exactly when it is no mark and its flat index is one of the table. -/
theorem set_eq_ok_iff {table next : Table} {i j cost : Nat} :
    table.set i j cost = .ok next ↔
      cost < unsetMark ∧ ∃ flat, flat.val = i * table.side + j ∧ next = table.store flat cost := by
  rw [set, bind_eq_ok_iff]
  simp only [placeFor_eq_ok_iff, pure, Except.pure, Except.ok.injEq, and_assoc, exists_and_left,
    eq_comm (b := next)]

/-- A cost that has a place is stored there. -/
theorem trySet_eq_store {table : Table} {i j cost : Nat} (hcost : cost < unsetMark)
    (hplace : i * table.side + j < table.cells.size) :
    table.trySet i j cost = table.store ⟨_, hplace⟩ cost := by
  rw [trySet, set_eq_ok_iff.mpr ⟨hcost, ⟨_, hplace⟩, rfl, rfl⟩]
  rfl

/-- A cost that has no place cannot be stored. -/
theorem exists_set_eq_error {table : Table} {i j cost : Nat}
    (h : ¬ (cost < unsetMark ∧ i * table.side + j < table.cells.size)) :
    ∃ fault, table.set i j cost = .error fault := by
  cases hset : table.set i j cost with
  | error fault => exact ⟨fault, rfl⟩
  | ok next =>
      obtain ⟨hcost, flat, hflat, -⟩ := set_eq_ok_iff.mp hset
      exact absurd ⟨hcost, hflat ▸ flat.isLt⟩ h

/-- A cost that has no place leaves the table as it was. -/
theorem trySet_eq_self {table : Table} {i j cost : Nat}
    (h : ¬ (cost < unsetMark ∧ i * table.side + j < table.cells.size)) :
    table.trySet i j cost = table := by
  obtain ⟨fault, hset⟩ := exists_set_eq_error h
  rw [trySet, hset]
  rfl

/-- Storing a cost keeps the side. -/
@[simp] theorem side_store (table : Table) (flat : Fin table.cells.size) (cost : Nat) :
    (table.store flat cost).side = table.side :=
  rfl

/-- Setting a cell keeps the side. -/
@[simp] theorem side_trySet (table : Table) (i j cost : Nat) :
    (table.trySet i j cost).side = table.side := by
  by_cases hplace : cost < unsetMark ∧ i * table.side + j < table.cells.size
  · rw [trySet_eq_store hplace.1 hplace.2, side_store]
  · rw [trySet_eq_self hplace]

/-- Storing a cost keeps the number of cells. -/
@[simp] theorem size_store (table : Table) (flat : Fin table.cells.size) (cost : Nat) :
    (table.store flat cost).cells.size = table.cells.size :=
  Array.size_set flat.isLt

/-- A stored cost is seen at its flat index, and all else is as before. -/
theorem cell_store (table : Table) (flat : Fin table.cells.size) (cost i j : Nat) :
    (table.store flat cost).cell i j =
      if flat.val = i * table.side + j then some cost else table.cell i j := by
  unfold cell
  simp only [store, Array.getD_eq_getD_getElem?, Array.getElem?_set]
  split <;> simp

/-- A table given by its cells has the side asked for. -/
@[simp] theorem side_ofCells (side : Nat) (fits : FitsMemory side)
    (content : Nat → Nat → Option Nat) : (ofCells side fits content).side = side :=
  rfl

/-- Row and column inside a square have a flat index inside it. -/
theorem flat_lt {side i j : Nat} (hi : i < side) (hj : j < side) :
    i * side + j < side * side := by
  calc
    i * side + j < i * side + side := by omega
    _ = (i + 1) * side := by rw [Nat.succ_mul]
    _ ≤ side * side := Nat.mul_le_mul_right side hi

/-- The row of a flat index. -/
theorem flat_div {side i j : Nat} (hj : j < side) : (i * side + j) / side = i := by
  rw [Nat.add_comm, Nat.add_mul_div_right _ _ (by omega), Nat.div_eq_of_lt hj, Nat.zero_add]

/-- The column of a flat index. -/
theorem flat_mod {side i j : Nat} (hj : j < side) : (i * side + j) % side = j := by
  rw [Nat.add_comm, Nat.add_mul_mod_self_right, Nat.mod_eq_of_lt hj]

/-- Cells inside a square have the same flat index only if they are the same. -/
theorem flat_inj {side i j a b : Nat} (hj : j < side) (hb : b < side) :
    i * side + j = a * side + b ↔ i = a ∧ j = b := by
  constructor
  · intro h
    constructor
    · rw [← flat_div (i := i) hj, h, flat_div hb]
    · rw [← flat_mod (i := i) hj, h, flat_mod hb]
  · rintro ⟨rfl, rfl⟩
    rfl

/-- A table given by its cells has these cells. -/
theorem cell_ofCells {side i j : Nat} (fits : FitsMemory side)
    (content : Nat → Nat → Option Nat) (hi : i < side) (hj : j < side) :
    (ofCells side fits content).cell i j = content i j := by
  simp [cell, ofCells, flat_lt hi hj, flat_div hj, flat_mod hj]

/-- A cost stored inside a table changes the cell at its row and column and no other one. -/
theorem cell_store_inside {table : Table} {flat : Fin table.cells.size} {a b i j : Nat}
    (hflat : flat.val = a * table.side + b) (hb : b < table.side) (hj : j < table.side)
    (cost : Nat) : (table.store flat cost).cell i j =
      if i = a ∧ j = b then some cost else table.cell i j := by
  rw [cell_store, hflat]
  simp [flat_inj hb hj, eq_comm]

/-- Tables of one side with the same cells are the same. -/
theorem ext_cell {table other : Table} (hside : table.side = other.side)
    (hcell : ∀ i j, i < table.side → j < table.side → table.cell i j = other.cell i j) :
    table = other := by
  have hsize : table.cells.size = other.cells.size := by
    rw [table.size_cells, other.size_cells, hside]
  refine Table.ext hside (Array.ext hsize fun flat hflat hflat' ↦ ?_)
  have hlt : flat < table.side * table.side := table.size_cells ▸ hflat
  have hpos : 0 < table.side := Nat.pos_of_mul_pos_left (Nat.lt_of_le_of_lt (Nat.zero_le _) hlt)
  have h := hcell (flat / table.side) (flat % table.side) (Nat.div_lt_of_lt_mul hlt)
    (Nat.mod_lt _ hpos)
  have hdiv : flat / table.side * table.side + flat % table.side = flat := Nat.div_add_mod' _ _
  simpa [cell, ← hside, hdiv, hflat, hflat'] using h

/-- A place inside a table exists. -/
theorem place_eq_ok (table : Table) {i j : Nat} (hi : i < table.side) (hj : j < table.side) :
    ∃ flat, table.place i j = .ok flat ∧ flat.val = i * table.side + j := by
  have hlt : i * table.side + j < table.cells.size := by
    rw [table.size_cells]
    exact flat_lt hi hj
  exact ⟨⟨_, hlt⟩, place_eq_ok_iff.mpr rfl, rfl⟩

/-- A cell inside a table reads as the view. -/
theorem get_eq_ok {table : Table} {i j : Nat} (hi : i < table.side) (hj : j < table.side) :
    table.get i j = .ok (table.cell i j) :=
  get_eq_ok_iff.mpr ⟨flat_lt hi hj, rfl⟩

/-! ## Storing a diagonal -/

/-- The flat indices of a diagonal grow. -/
theorem diagonal_lt {side span k l : Nat} (h : k < l) :
    k * side + (k + span) < l * side + (l + span) := by
  have hrows : k * side ≤ l * side := Nat.mul_le_mul_right side (Nat.le_of_lt h)
  omega

/-- A cost of a diagonal has a place exactly when it is no mark and its flat index is one of the
table. The index of its column never overflows there. -/
theorem placeFor_diagonal_eq_ok_iff {table : Table} {span k cost : Nat}
    {flat : Fin table.cells.size} :
    (do table.placeFor k (← addIndex k span) cost) = .ok flat ↔
      cost < unsetMark ∧ flat.val = k * table.side + (k + span) := by
  have hlimit := table.size_lt_indexLimit
  rw [bind_eq_ok_iff]
  refine ⟨fun ⟨column, hcolumn, hplace⟩ ↦ ?_, fun hplace ↦ ?_⟩
  · obtain ⟨-, rfl⟩ := addIndex_eq_ok_iff.mp hcolumn
    exact placeFor_eq_ok_iff.mp hplace
  · have hcolumn : addIndex k span = .ok (k + span) := addIndex_eq_ok_iff.mpr ⟨by omega, rfl⟩
    exact ⟨k + span, hcolumn, placeFor_eq_ok_iff.mpr hplace⟩

/-- A cost that has a place is stored before the rest of the diagonal. -/
theorem storeDiagonal_cons {table : Table} {span k cost : Nat} (hcost : cost < unsetMark)
    (hplace : k * table.side + (k + span) < table.cells.size) (costs : List Nat) :
    table.storeDiagonal span k (cost :: costs) =
      (table.store ⟨_, hplace⟩ cost).storeDiagonal span (k + 1) costs := by
  have hflat : (do table.placeFor k (← addIndex k span) cost) = .ok ⟨_, hplace⟩ :=
    placeFor_diagonal_eq_ok_iff.mpr ⟨hcost, rfl⟩
  rw [storeDiagonal, hflat]

/-- A cost that has no place stops the diagonal. -/
theorem storeDiagonal_cons_of_not {table : Table} {span k cost : Nat}
    (h : ¬ (cost < unsetMark ∧ k * table.side + (k + span) < table.cells.size))
    (costs : List Nat) :
    ∃ fault, table.storeDiagonal span k (cost :: costs) = (table, some fault) := by
  rw [storeDiagonal]
  cases hplace : (do table.placeFor k (← addIndex k span) cost) with
  | error fault => exact ⟨fault, rfl⟩
  | ok flat =>
      obtain ⟨hcost, hflat⟩ := placeFor_diagonal_eq_ok_iff.mp hplace
      exact absurd ⟨hcost, hflat ▸ flat.isLt⟩ h

/-- Storing a diagonal keeps the side. -/
@[simp] theorem side_storeDiagonal (table : Table) (span k : Nat) (costs : List Nat) :
    (table.storeDiagonal span k costs).1.side = table.side := by
  induction costs generalizing k table with
  | nil => rfl
  | cons cost costs ih =>
      rw [storeDiagonal]
      split
      · rfl
      · exact ih _ _

/-- A cell that is none of a diagonal stays as it is, wherever the diagonal stops. -/
theorem cell_storeDiagonal_of_ne {table : Table} {span k i j : Nat} {costs : List Nat}
    (h : ∀ l, k ≤ l → l < k + costs.length →
      l * table.side + (l + span) ≠ i * table.side + j) :
    (table.storeDiagonal span k costs).1.cell i j = table.cell i j := by
  induction costs generalizing k table with
  | nil => rfl
  | cons cost costs ih =>
      rw [List.length_cons] at h
      by_cases hplace : cost < unsetMark ∧ k * table.side + (k + span) < table.cells.size
      · obtain ⟨hcost, hlt⟩ := hplace
        have hfirst := h k (Nat.le_refl k) (by omega)
        rw [storeDiagonal_cons hcost hlt, ih, cell_store, if_neg hfirst]
        exact fun l hl hlast ↦ h l (by omega) (by omega)
      · obtain ⟨fault, hstop⟩ := storeDiagonal_cons_of_not hplace costs
        rw [hstop]

/-- A cost of a diagonal that has a place is seen there: the costs before it have places too, and
those after it go elsewhere. -/
theorem cell_storeDiagonal {table : Table} {span k l cost i j : Nat} {costs : List Nat}
    (hcosts : ∀ cost ∈ costs, cost < unsetMark) (hl : k ≤ l) (hcost : costs[l - k]? = some cost)
    (hplace : l * table.side + (l + span) < table.cells.size)
    (hflat : l * table.side + (l + span) = i * table.side + j) :
    (table.storeDiagonal span k costs).1.cell i j = some cost := by
  induction costs generalizing k table with
  | nil => simp at hcost
  | cons first costs ih =>
      obtain ⟨hfirst, hrest⟩ := List.forall_mem_cons.mp hcosts
      rcases Nat.lt_or_eq_of_le hl with hlater | rfl
      · have hbefore : k * table.side + (k + span) < table.cells.size :=
          Nat.lt_trans (diagonal_lt hlater) hplace
        rw [show l - k = l - (k + 1) + 1 by omega, List.getElem?_cons_succ] at hcost
        rw [storeDiagonal_cons hfirst hbefore]
        exact ih hrest hlater hcost (by rwa [size_store]) hflat
      · obtain rfl : first = cost := by simpa using hcost
        rw [storeDiagonal_cons hfirst hplace, cell_storeDiagonal_of_ne,
          cell_store, if_pos hflat]
        intro m hm _
        rw [side_store, ← hflat]
        exact Nat.ne_of_gt (diagonal_lt hm)

/-- A diagonal takes all costs exactly when each of them has a place. -/
theorem storeDiagonal_eq_none_iff {table : Table} {span k : Nat} {costs : List Nat}
    (hcosts : ∀ cost ∈ costs, cost < unsetMark) :
    (table.storeDiagonal span k costs).2 = none ↔
      ∀ l, k ≤ l → l < k + costs.length →
        l * table.side + (l + span) < table.cells.size := by
  induction costs generalizing k table with
  | nil =>
      simp only [storeDiagonal, List.length_nil, true_iff]
      omega
  | cons first costs ih =>
      obtain ⟨hfirst, hrest⟩ := List.forall_mem_cons.mp hcosts
      rw [List.length_cons]
      by_cases hplace : k * table.side + (k + span) < table.cells.size
      · rw [storeDiagonal_cons hfirst hplace, ih hrest, size_store, side_store]
        refine ⟨fun h l hl hlast ↦ ?_, fun h l hl hlast ↦ h l (by omega) (by omega)⟩
        rcases Nat.lt_or_eq_of_le hl with hlater | rfl
        · exact h l hlater (by omega)
        · exact hplace
      · have hnot : ¬ (first < unsetMark ∧ k * table.side + (k + span) < table.cells.size) :=
          fun h ↦ hplace h.2
        obtain ⟨fault, hstop⟩ := storeDiagonal_cons_of_not hnot costs
        rw [hstop]
        simp only [reduceCtorEq, false_iff]
        exact fun h ↦ hplace (h k (Nat.le_refl k) (by omega))

/-- A diagonal that stays inside the table takes all costs, and nothing else changes. -/
theorem storeDiagonal_eq_ok (table : Table) {span k : Nat} {costs : List Nat}
    (hcosts : ∀ cost ∈ costs, cost < unsetMark) (hinside : k + costs.length + span ≤ table.side) :
    ∃ next, table.storeDiagonal span k costs = (next, none) ∧ next.side = table.side ∧
      ∀ i j, i < table.side → j < table.side → next.cell i j =
        if j = i + span ∧ k ≤ i ∧ i < k + costs.length then costs[i - k]?
        else table.cell i j := by
  have hplace (l : Nat) (hlast : l < k + costs.length) :
      l * table.side + (l + span) < table.cells.size := by
    rw [table.size_cells]
    exact flat_lt (by omega) (by omega)
  have hstop : (table.storeDiagonal span k costs).2 = none :=
    (storeDiagonal_eq_none_iff hcosts).mpr fun l _ hlast ↦ hplace l hlast
  refine ⟨_, Prod.ext rfl hstop, side_storeDiagonal table span k costs, fun i j hi hj ↦ ?_⟩
  split
  · next hcell =>
      obtain ⟨rfl, hk, hlast⟩ := hcell
      have hlt : i - k < costs.length := by omega
      rw [List.getElem?_eq_getElem hlt]
      exact cell_storeDiagonal hcosts hk (List.getElem?_eq_getElem hlt) (hplace i hlast) rfl
  · next hcell =>
      refine cell_storeDiagonal_of_ne fun l hl hlast hflat ↦ hcell ?_
      have := (flat_inj (by omega) hj).mp hflat
      omega

/-! ## New tables -/

/-- A new table is zero on the diagonal and unset elsewhere. -/
theorem cell_initial {side i j : Nat} (fits : FitsMemory side) (hi : i < side) (hj : j < side) :
    (initial side fits).cell i j = if i = j then some 0 else none :=
  cell_ofCells fits _ hi hj

/-- Single matrices are stored one after another. -/
theorem foldlM_setSingle {side count : Nat} (fits : FitsMemory side) (hcount : count ≤ side) :
    (List.range count).foldlM setSingle (ofCells side fits fun _ _ ↦ none) =
      .ok (ofCells side fits fun i j ↦ if i = j ∧ i < count then some 0 else none) := by
  induction count with
  | zero => simp [pure, Except.pure]
  | succ count ih =>
      rw [List.range_succ, List.foldlM_append, ih (by omega)]
      obtain ⟨flat, hplace, hflat⟩ := place_eq_ok
        (ofCells side fits fun i j ↦ if i = j ∧ i < count then some 0 else none) hcount hcount
      simp only [bind, Except.bind, List.foldlM_cons, List.foldlM_nil, setSingle, hplace, pure,
        Except.pure, Except.ok.injEq]
      refine ext_cell rfl fun i j hi hj ↦ ?_
      rw [side_store, side_ofCells] at hi hj
      rw [cell_store_inside hflat hcount hj, cell_ofCells fits _ hi hj, cell_ofCells fits _ hi hj]
      grind

/-- A table that fits in memory starts as the initial one. -/
theorem fresh_eq_ok {side : Nat} (fits : FitsMemory side) :
    fresh side = .ok (initial side fits) := by
  rw [fresh, dif_pos fits, foldlM_setSingle fits (Nat.le_refl side)]
  refine congrArg _ (ext_cell rfl fun i j hi hj ↦ ?_)
  rw [side_ofCells] at hi hj
  rw [cell_ofCells fits _ hi hj, cell_initial fits hi hj]
  simp [hi]

/-- No other table can be made. -/
theorem fresh_eq_error {side : Nat} (h : ¬ FitsMemory side) : fresh side = .error .tooLarge :=
  dif_neg h

end Table

end ChainProduct
