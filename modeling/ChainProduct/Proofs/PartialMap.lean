import ChainProduct.Table
import Mathlib.Data.List.Induction

/-!
# Tables as partial maps

A table keeps its costs as numbers in one block of memory, in which one number is the mark of unset
cells, and checks flat indices only. What stands in that block after any requests, at any rows and
columns, is a partial map from rows and columns to costs. `Table.takesExactly` says what one request
does to the block, and `Table.HoldsNoMark` is what every request keeps: no cost is the mark, so the
block tells which cells are set.

The main theorem, `Table.afterRequests_refines_map`, says that a new table after any requests reads
as this map. When all requests are for cells of the table, a cell holds the cost of the last request
for it (`Request.lastCost?`).
-/

namespace ChainProduct

/-- A request to store a cost. The row and the column may lie outside the table. -/
structure Request where
  row : Nat
  col : Nat
  cost : Nat
  cost_lt : cost < costLimit := by decide
  deriving DecidableEq, Repr

namespace Request

/-- The request is for a cell of a table of this side. -/
def IsInside (request : Request) (side : Nat) : Prop :=
  request.row < side ∧ request.col < side

/-- `IsInside` is decidable by two comparisons. -/
instance (request : Request) (side : Nat) : Decidable (request.IsInside side) :=
  inferInstanceAs (Decidable (_ ∧ _))

/-- The request gives the cell at row `i` and column `j` a cost. The mark of unset cells is none. -/
def Gives (request : Request) (i j : Nat) : Prop :=
  request.row = i ∧ request.col = j ∧ request.cost ≠ unsetMark

/-- `Gives` is decidable by three comparisons. -/
instance (request : Request) (i j : Nat) : Decidable (request.Gives i j) :=
  inferInstanceAs (Decidable (_ ∧ _))

/-- The cost of the last request that gives a cell one. Without any, a single matrix costs nothing
and no other cost is known. -/
def lastCost? (requests : List Request) (i j : Nat) : Option Nat :=
  match requests.reverse.find? (Gives · i j) with
  | some request => some request.cost
  | none => if i = j then some 0 else none

/-- One more request for a cell is the last one. -/
theorem lastCost?_concat (requests : List Request) (request : Request) (i j : Nat) :
    lastCost? (requests ++ [request]) i j =
      if request.Gives i j then some request.cost else lastCost? requests i j := by
  rw [lastCost?, List.reverse_append, List.reverse_singleton, List.singleton_append,
    List.find?_cons]
  by_cases h : request.Gives i j <;> simp [h, lastCost?]

end Request

/-- What a number in memory says of its cell. -/
def meaning (word : Nat) : Option Nat :=
  if word = unsetMark then none else some word

namespace Table

/-- The numbers in memory, row after row. An unset cell holds its mark. -/
def words (table : Table) : List Nat :=
  table.cells.toList.map (·.getD unsetMark)

/-- The table that a request leaves, which is the same one when the request stops. -/
def handle (table : Table) (request : Request) : Table :=
  table.trySet request.row request.col request.cost

/-- The table that is left when requests are made one after another, with those that stop passed
over. -/
def handleAll (table : Table) (requests : List Request) : Table :=
  requests.foldl handle table

/-- The table that is left after requests of a new table. -/
def afterRequests (side : Nat) (requests : List Request) : Checked Table := do
  return (← fresh side).handleAll requests

/-- What a table makes of a request. It stops exactly when the cost is the mark of unset cells, or
the flat index overflows or is none of the table, and then nothing changes. Otherwise the number at
the flat index becomes the cost, and nothing else changes. -/
structure TakesExactly (table : Table) (request : Request) : Prop where
  stops_iff : (∃ fault, table.set request.row request.col request.cost = .error fault) ↔
    request.cost = unsetMark ∨ indexLimit ≤ request.row * table.side + request.col ∨
      table.side * table.side ≤ request.row * table.side + request.col
  handle_of_stop : ∀ fault, table.set request.row request.col request.cost = .error fault →
    table.handle request = table
  handle_of_ok : ∀ next, table.set request.row request.col request.cost = .ok next →
    table.handle request = next ∧ next.side = table.side ∧
      next.words = table.words.set (request.row * table.side + request.col) request.cost

/-- No cell holds the mark of unset cells as its cost. -/
def HoldsNoMark (table : Table) : Prop :=
  ∀ cost, some cost ∈ table.cells → cost < unsetMark

variable {table other : Table} {request : Request} {requests : List Request} {i j : Nat}

/-! ## One request -/

/-- The number at a flat index is the cost of its cell, or the mark. -/
theorem getElem?_words (h : i * table.side + j < table.side * table.side) :
    table.words[i * table.side + j]? = some ((table.cell i j).getD unsetMark) := by
  rw [← table.size_cells] at h
  simp [words, cell, h]

/-- The numbers are what a table shows when debugging. -/
theorem inspect_eq (table : Table) :
    table.inspect = "CostTable \x7b n: " ++ toString table.side ++ ", cells: [" ++
      ", ".intercalate (table.words.map toString) ++ "] \x7d" := by
  have hcells : table.cells.toList.map (fun cell ↦ toString (cell.getD unsetMark)) =
      table.words.map toString := by
    simp [words]
  unfold inspect
  rw [hcells]

/-- Storing a cost changes one number. -/
theorem words_store (table : Table) (flat : Fin table.cells.size) (cost : Nat) :
    (table.store flat cost).words = table.words.set flat.val cost := by
  simp [words, store, List.map_set]

/-- A request is stored at its place, or it has none and nothing changes. This is all that a request
can do. -/
theorem handle_cases (table : Table) (request : Request) :
    (∃ flat : Fin table.cells.size, flat.val = request.row * table.side + request.col ∧
      request.cost < unsetMark ∧
      table.set request.row request.col request.cost = .ok (table.store flat request.cost) ∧
      table.handle request = table.store flat request.cost) ∨
    (request.cost = unsetMark ∨
      table.side * table.side ≤ request.row * table.side + request.col) ∧
      (∃ fault, table.set request.row request.col request.cost = .error fault) ∧
      table.handle request = table := by
  have hcost := request.cost_lt
  by_cases hplace : request.cost < unsetMark ∧
      request.row * table.side + request.col < table.cells.size
  · refine .inl ⟨⟨_, hplace.2⟩, rfl, hplace.1, ?_, trySet_eq_store hplace.1 hplace.2⟩
    exact set_eq_ok_iff.mpr ⟨hplace.1, ⟨_, hplace.2⟩, rfl, rfl⟩
  · refine .inr ⟨?_, exists_set_eq_error hplace, trySet_eq_self hplace⟩
    rw [table.size_cells] at hplace
    unfold unsetMark at hplace ⊢
    omega

/-- What a table makes of a request, for every table and every request. -/
theorem takesExactly (table : Table) (request : Request) : table.TakesExactly request := by
  have hlimit := table.size_lt_indexLimit
  have hsize := table.size_cells
  obtain ⟨flat, hflat, hcost, hset, hhandle⟩ | ⟨hstop, hset, hhandle⟩ := handle_cases table request
  · have hlt := flat.isLt
    constructor
    · rw [hset]
      simp only [reduceCtorEq, exists_false, false_iff]
      omega
    · intro fault hfault
      cases hset.symm.trans hfault
    · intro next hnext
      obtain rfl := Except.ok.inj (hset.symm.trans hnext)
      exact ⟨hhandle, rfl, by rw [words_store, hflat]⟩
  · constructor
    · refine iff_of_true hset ?_
      omega
    · exact fun fault _ ↦ hhandle
    · intro next hnext
      obtain ⟨fault, hfault⟩ := hset
      cases hfault.symm.trans hnext

/-- A request keeps the side. -/
@[simp] theorem side_handle (table : Table) (request : Request) :
    (table.handle request).side = table.side :=
  table.side_trySet _ _ _

/-- No request leaves the mark as a cost. -/
theorem HoldsNoMark.handle (h : table.HoldsNoMark) (request : Request) :
    (table.handle request).HoldsNoMark := by
  obtain ⟨flat, -, hcost, -, hhandle⟩ | ⟨-, -, hhandle⟩ := handle_cases table request
  · intro cost hmem
    rw [hhandle] at hmem
    rcases Array.mem_or_eq_of_mem_set (w := flat.isLt) hmem with hmem | heq
    · exact h cost hmem
    · exact Option.some.inj heq ▸ hcost
  · rwa [hhandle]

/-- A cell that holds a cost holds one after every request. -/
theorem isSome_cell_handle (request : Request) (h : (table.cell i j).isSome) :
    ((table.handle request).cell i j).isSome := by
  obtain ⟨flat, -, -, -, hhandle⟩ | ⟨-, -, hhandle⟩ := handle_cases table request
  · rw [hhandle, cell_store]
    split
    · rfl
    · exact h
  · rwa [hhandle]

/-- A filled table stays filled. -/
theorem IsFilled.handle (h : table.IsFilled) (request : Request) :
    (table.handle request).IsFilled := by
  intro j hj i hi
  rw [side_handle] at hj
  exact isSome_cell_handle request (h j hj i hi)

/-- A request for a cell of the table gives that cell its cost, and no other one. -/
theorem cell_handle (hinside : request.IsInside table.side) (hj : j < table.side) :
    (table.handle request).cell i j =
      if request.Gives i j then some request.cost else table.cell i j := by
  obtain ⟨hrow, hcol⟩ := hinside
  obtain ⟨flat, hflat, hcost, -, hhandle⟩ | ⟨hstop, -, hhandle⟩ := handle_cases table request
  · have hgives : i = request.row ∧ j = request.col ↔ request.Gives i j :=
      ⟨fun ⟨hi, hj⟩ ↦ ⟨hi.symm, hj.symm, Nat.ne_of_lt hcost⟩,
        fun ⟨hi, hj, _⟩ ↦ ⟨hi.symm, hj.symm⟩⟩
    rw [hhandle, cell_store_inside hflat hcol hj]
    exact if_congr hgives rfl rfl
  · -- The flat index of a cell inside is one of the table, so the cost is the mark.
    have hmark : request.cost = unsetMark :=
      hstop.resolve_right (Nat.not_le.mpr (flat_lt hrow hcol))
    rw [hhandle]
    simp [Request.Gives, hmark]

/-! ## All requests -/

/-- Requests keep the side. -/
@[simp] theorem side_handleAll (table : Table) (requests : List Request) :
    (table.handleAll requests).side = table.side :=
  List.foldlRecOn (motive := fun next ↦ next.side = table.side) requests handle rfl
    fun next h request _ ↦ (next.side_handle request).trans h

/-- No requests leave the mark as a cost. -/
theorem HoldsNoMark.handleAll (h : table.HoldsNoMark) (requests : List Request) :
    (table.handleAll requests).HoldsNoMark :=
  List.foldlRecOn requests Table.handle h fun _ h request _ ↦ h.handle request

/-- A new table holds no mark as a cost. -/
theorem holdsNoMark_initial {side : Nat} (fits : FitsMemory side) :
    (initial side fits).HoldsNoMark := by
  intro cost hmem
  obtain ⟨flat, hflat⟩ := Array.mem_ofFn.mp hmem
  dsimp only at hflat
  split at hflat
  · exact Option.some.inj hflat ▸ (by decide)
  · cases hflat

/-- Requests for cells of a new table leave in each cell the cost of the last one for it. -/
theorem cell_handleAll_initial {side : Nat} (fits : FitsMemory side)
    (hinside : ∀ request ∈ requests, request.IsInside side) (hi : i < side) (hj : j < side) :
    ((initial side fits).handleAll requests).cell i j = Request.lastCost? requests i j := by
  induction requests using List.reverseRecOn with
  | nil => exact cell_initial fits hi hj
  | append_singleton requests request ih =>
      obtain ⟨hbefore, hlast⟩ := List.forall_mem_append.mp hinside
      have hside : ((initial side fits).handleAll requests).side = side := side_handleAll _ _
      have hrequest : request.IsInside ((initial side fits).handleAll requests).side :=
        hside.symm ▸ hlast request List.mem_cons_self
      rw [handleAll, List.foldl_append, List.foldl_cons, List.foldl_nil, ← handleAll,
        cell_handle hrequest (hside.symm ▸ hj), ih hbefore,
        Request.lastCost?_concat]

/-! ## Reading -/

/-- A table that holds no mark as a cost reads as its numbers. -/
theorem HoldsNoMark.exists_word (h : table.HoldsNoMark)
    (hlt : i * table.side + j < table.side * table.side) :
    ∃ word, table.words[i * table.side + j]? = some word ∧
      table.get i j = .ok (meaning word) := by
  refine ⟨_, getElem?_words hlt, get_eq_ok_iff.mpr ⟨hlt, ?_⟩⟩
  rw [meaning]
  cases hcell : table.cell i j with
  | none => simp
  | some cost =>
      have hmem : some cost ∈ table.cells := by
        rw [← table.size_cells] at hlt
        rw [← hcell, cell, Array.getD_eq_getD_getElem?, Array.getElem?_eq_getElem hlt]
        exact Array.getElem_mem hlt
      simp [Nat.ne_of_lt (h cost hmem)]

/-- Tables of one side are the same exactly when all their cells read the same. -/
theorem eq_iff_get_eq (hside : other.side = table.side) :
    table = other ↔
      ∀ i j, i < table.side → j < table.side → table.get i j = other.get i j := by
  refine ⟨fun heq i j _ _ ↦ by rw [heq], fun hget ↦ ext_cell hside.symm fun i j hi hj ↦ ?_⟩
  have hcell := hget i j hi hj
  rw [get_eq_ok hi hj, get_eq_ok (hside ▸ hi) (hside ▸ hj)] at hcell
  exact Except.ok.inj hcell

/-- Tables of one side that hold no mark as a cost are the same exactly when their numbers are. -/
theorem HoldsNoMark.words_eq_iff (h : table.HoldsNoMark) (hother : other.HoldsNoMark)
    (hside : other.side = table.side) : table.words = other.words ↔ table = other := by
  refine ⟨fun hwords ↦ (eq_iff_get_eq hside).mpr fun i j hi hj ↦ ?_, congrArg words⟩
  have hlt := flat_lt hi hj
  obtain ⟨word, hword, hget⟩ := h.exists_word hlt
  obtain ⟨word', hword', hget'⟩ := hother.exists_word (hside.symm ▸ hlt)
  rw [hside, ← hwords, hword, Option.some.injEq] at hword'
  rw [hget, hget', hword']

/-- A table is filled exactly when each cell on or above the diagonal reads as a cost. -/
theorem isFilled_iff_get (table : Table) :
    table.IsFilled ↔
      ∀ i j, i ≤ j → j < table.side → ∃ cost, table.get i j = .ok (some cost) := by
  have hcell (i j : Nat) (hij : i ≤ j) (hj : j < table.side) :
      (∃ cost, table.get i j = .ok (some cost)) ↔ (table.cell i j).isSome := by
    rw [get_eq_ok (by omega) hj]
    simp [Option.isSome_iff_exists]
  refine ⟨fun h i j hij hj ↦ (hcell i j hij hj).mpr (h j hj i (by omega)), fun h j hj i hi ↦ ?_⟩
  exact (hcell i j (by omega) hj).mp (h i j (by omega) hj)

/-- A cell that reads as a cost reads as one after every request. -/
theorem exists_get_handle (request : Request) {cost : Nat}
    (h : table.get i j = .ok (some cost)) :
    ∃ cost', (table.handle request).get i j = .ok (some cost') := by
  obtain ⟨hlt, hcell⟩ := get_eq_ok_iff.mp h
  obtain ⟨cost', hcost⟩ := Option.isSome_iff_exists.mp
    (isSome_cell_handle request (Option.isSome_of_eq_some hcell.symm))
  exact ⟨cost', get_eq_ok_iff.mpr ⟨by rwa [side_handle], hcost.symm⟩⟩

/-- A request for one cell of the table changes no other one. -/
theorem get_handle_of_ne (hinside : request.IsInside table.side) (hi : i < table.side)
    (hj : j < table.side) (hne : (i, j) ≠ (request.row, request.col)) :
    (table.handle request).get i j = table.get i j := by
  have hother : ¬ request.Gives i j := fun ⟨hrow, hcol, _⟩ ↦ hne (by rw [hrow, hcol])
  have hside := table.side_handle request
  rw [get_eq_ok hi hj, get_eq_ok (hside.symm ▸ hi) (hside.symm ▸ hj), cell_handle hinside hj,
    if_neg hother]

/-- The table that requests of a new table leave is known. -/
theorem afterRequests_eq_ok {side : Nat} (fits : FitsMemory side) (requests : List Request) :
    afterRequests side requests = .ok ((initial side fits).handleAll requests) := by
  rw [afterRequests, fresh_eq_ok fits]
  rfl

/-- A new table takes every request, at any row and column, exactly: one number changes, or nothing
does. The cells are read off the numbers, and cells that hold a cost never lose it, so a table that
is filled stays filled. When all requests are for cells of the table, it is a partial map: a cell
holds the cost of the last request for it, or else zero on the diagonal and nothing elsewhere, and a
request for one cell changes no other one. Tables of one side are the same exactly when all their
cells read the same, and exactly when their numbers are the same. -/
theorem afterRequests_refines_map {side : Nat} (fits : FitsMemory side)
    (requests : List Request) :
    ∃ table, afterRequests side requests = .ok table ∧ table.side = side ∧
      (∀ request, table.TakesExactly request) ∧
      (∀ i j, i * side + j < side * side → ∃ word,
        table.words[i * side + j]? = some word ∧ table.get i j = .ok (meaning word)) ∧
      (table.IsFilled ↔ ∀ i j, i ≤ j → j < side → ∃ cost, table.get i j = .ok (some cost)) ∧
      (∀ request i j cost, table.get i j = .ok (some cost) →
        ∃ cost', (table.handle request).get i j = .ok (some cost')) ∧
      (∀ request, table.IsFilled → (table.handle request).IsFilled) ∧
      ((∀ request ∈ requests, request.IsInside side) →
        (∀ i j, i < side → j < side → table.get i j = .ok (Request.lastCost? requests i j)) ∧
        ∀ request, request.IsInside side → ∀ i j, i < side → j < side →
          (i, j) ≠ (request.row, request.col) → (table.handle request).get i j = table.get i j) ∧
      ∀ others other, afterRequests side others = .ok other →
        (table = other ↔ ∀ i j, i < side → j < side → table.get i j = other.get i j) ∧
        (table = other ↔ table.words = other.words) := by
  refine ⟨_, afterRequests_eq_ok fits requests, side_handleAll _ _, takesExactly _, ?_⟩
  have hmark := (holdsNoMark_initial fits).handleAll requests
  have hside : ((initial side fits).handleAll requests).side = side := side_handleAll _ _
  have hcell (hinside : ∀ request ∈ requests, request.IsInside side) (i j : Nat) (hi : i < side)
      (hj : j < side) := cell_handleAll_initial fits hinside hi hj
  -- From here on, only what every request keeps is known of the table, and what its cells hold.
  generalize (initial side fits).handleAll requests = table at hmark hside hcell
  subst hside
  refine ⟨fun i j ↦ hmark.exists_word, isFilled_iff_get table,
    fun request i j cost h ↦ exists_get_handle request h, fun request h ↦ h.handle request,
    fun hinside ↦ ⟨fun i j hi hj ↦ ?_, fun request h i j ↦ get_handle_of_ne h⟩,
    fun others other hother ↦ ?_⟩
  · rw [get_eq_ok hi hj, hcell hinside i j hi hj]
  · obtain rfl := Except.ok.inj ((afterRequests_eq_ok fits others).symm.trans hother)
    have hside : ((initial table.side fits).handleAll others).side = table.side :=
      side_handleAll _ _
    have hmark' := (holdsNoMark_initial fits).handleAll others
    exact ⟨eq_iff_get_eq hside, (hmark.words_eq_iff hmark' hside).symm⟩

/-- The second cost for a cell replaces the first one, and the mark replaces none. A column beyond
the last one is that of a cell in the next row. -/
theorem afterRequests_refines_map_two :
    ∃ table, afterRequests 2 [{ row := 0, col := 1, cost := 6000 },
        { row := 0, col := 1, cost := 7000 }, { row := 0, col := 1, cost := unsetMark }] =
          .ok table ∧
      table.get 0 1 = .ok (some 7000) ∧ table.get 1 1 = .ok (some 0) ∧ table.get 1 0 = .ok none ∧
      (table.handle { row := 0, col := 2, cost := 5 }).words = table.words.set 2 5 ∧
      table.handle { row := indexLimit - 1, col := 1, cost := 5 } = table := by
  obtain ⟨table, htable, hside, htakes, -, -, -, -, hmap, -⟩ :=
    afterRequests_refines_map (show FitsMemory 2 by decide)
      [{ row := 0, col := 1, cost := 6000 }, { row := 0, col := 1, cost := 7000 },
        { row := 0, col := 1, cost := unsetMark }]
  obtain ⟨hcells, -⟩ := hmap (by decide)
  have hwrap := htakes { row := 0, col := 2, cost := 5 }
  have hbeyond := htakes { row := indexLimit - 1, col := 1, cost := 5 }
  have hstops : ∃ fault, table.set (indexLimit - 1) 1 5 = .error fault :=
    hbeyond.stops_iff.mpr (.inr (.inl (by rw [hside]; decide)))
  have hstored : ∃ next, table.set 0 2 5 = .ok next := by
    cases hset : table.set 0 2 5 with
    | error fault =>
        have hstop := hwrap.stops_iff.mp ⟨fault, hset⟩
        rw [hside] at hstop
        exact absurd hstop (by decide)
    | ok next => exact ⟨next, rfl⟩
  obtain ⟨fault, hfault⟩ := hstops
  obtain ⟨next, hnext⟩ := hstored
  obtain ⟨hhandle, -, hwords⟩ := hwrap.handle_of_ok next hnext
  rw [← hhandle, Nat.zero_mul, Nat.zero_add] at hwords
  exact ⟨table, htable, hcells 0 1 (by decide) (by decide), hcells 1 1 (by decide) (by decide),
    hcells 1 0 (by decide) (by decide), hwords, hbeyond.handle_of_stop fault hfault⟩

end Table

end ChainProduct
