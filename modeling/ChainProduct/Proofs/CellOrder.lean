import ChainProduct.Proofs.Solve

/-!
# Filling cells in any order

What becomes of a fresh table when single cells are evaluated and stored one after another, in any
order, with repetitions, with cells that come too early, and with cells that do not exist. The
tables of such a run are known: `Chain.holding chain fits known` holds the least costs of single
matrices and of the sub-chains listed in `known`, and nothing else. `fillCell_holding` and
`fillCell_holding_of_not_ready` say what one step does to it, and `exists_fillCells_eq_holding` is
the run of steps. The main theorem, `fillCells_confluent`, says that the order of the cells makes
no difference: no cell ever holds anything but its cost in the table that is filled layer by layer,
and when all cells were filled the tables are the same.
-/

namespace ChainProduct

namespace Chain

/-- Evaluate one cell on any table and store its cost. When one of the two stops, the table is left
as it was. -/
def fillCell (chain : Chain) (layer i : Nat) (table : Table) : Table × Checked Nat :=
  match chain.layered.cell layer i table with
  | .error fault => (table, .error fault)
  | .ok cost =>
      match table.set i (i + layer + 1) cost with
      | .ok next => (next, .ok cost)
      | .error fault => (table, .error fault)

/-- The table that is left when cells, given by their layer and their start, are filled one after
another, with those that stop passed over. -/
def fillCells (chain : Chain) (steps : List (Nat × Nat)) (table : Table) : Table :=
  steps.foldl (fun table step ↦ (chain.fillCell step.1 step.2 table).1) table

/-- One of the steps that start with a table fills the cell at `i` and `j`. -/
def Fills (chain : Chain) (steps : List (Nat × Nat)) (table : Table) (i j : Nat) : Prop :=
  ∃ before layer after cost, steps = before ++ (layer, i) :: after ∧ j = i + layer + 1 ∧
    (chain.fillCell layer i (chain.fillCells before table)).2 = .ok cost

/-- The cell at `i` and `j` is that of a single matrix or of a sub-chain that is listed. -/
def Knows (known : List (Nat × Nat)) (i j : Nat) : Prop :=
  i = j ∨ i < j ∧ (i, j) ∈ known

/-- `Knows` is decidable by looking at the list. -/
instance (known : List (Nat × Nat)) (i j : Nat) : Decidable (Knows known i j) :=
  inferInstanceAs (Decidable (_ ∨ _))

/-- The table that holds the least costs of single matrices and of the sub-chains that are listed,
and nothing else. -/
def holding (chain : Chain) (fits : FitsMemory chain.matrices) (known : List (Nat × Nat)) :
    Table :=
  .ofCells chain.matrices fits fun i j ↦
    if Knows known i j then some (leastCost chain.entry i (j - i)) else none

/-- The cell of a layer that starts at `i` exists, and both halves of each of its splits are
known. -/
def IsReady (chain : Chain) (known : List (Nat × Nat)) (layer i : Nat) : Prop :=
  i + layer + 1 < chain.matrices ∧ ∀ k, i ≤ k → k < i + layer + 1 →
    Knows known i k ∧ Knows known (k + 1) (i + layer + 1)

variable {chain : Chain} {fits : FitsMemory chain.matrices} {known : List (Nat × Nat)}

/-! ## The view of a table that holds some costs -/

@[simp] theorem side_holding : (chain.holding fits known).side = chain.matrices :=
  rfl

/-- A cell inside the table holds its least cost if it is known. -/
theorem cell_holding {i j : Nat} (hi : i < chain.matrices) (hj : j < chain.matrices) :
    (chain.holding fits known).cell i j =
      if Knows known i j then some (leastCost chain.entry i (j - i)) else none :=
  Table.cell_ofCells fits _ hi hj

/-- A cell inside the table reads as its least cost if it is known. -/
theorem get_holding {i j : Nat} (hi : i < chain.matrices) (hj : j < chain.matrices) :
    (chain.holding fits known).get i j =
      .ok (if Knows known i j then some (leastCost chain.entry i (j - i)) else none) := by
  rw [Table.get_eq_ok hi hj, cell_holding hi hj]

/-- A cell inside the table is unset exactly when it is not known. -/
theorem get_holding_eq_none_iff {i j : Nat} (hi : i < chain.matrices) (hj : j < chain.matrices) :
    (chain.holding fits known).get i j = .ok none ↔ ¬ Knows known i j := by
  rw [get_holding hi hj]
  split <;> simp_all

/-- A cell that reads as a cost is known. -/
theorem knows_of_get_holding {i j cost : Nat} (hi : i < chain.matrices) (hj : j < chain.matrices)
    (h : (chain.holding fits known).get i j = .ok (some cost)) : Knows known i j := by
  by_contra hnot
  rw [(get_holding_eq_none_iff hi hj).mpr hnot] at h
  cases h

/-- A table that knows of no sub-chain is the one a run starts with. -/
theorem holding_nil : chain.holding fits [] = chain.settled fits 0 := by
  refine Table.ext_cell rfl fun i j hi hj ↦ ?_
  rw [side_holding] at hi hj
  have hknows : Knows [] i j ↔ i ≤ j ∧ j - i ≤ 0 := by
    simp only [Knows, List.not_mem_nil, and_false, or_false]
    omega
  rw [cell_holding hi hj, cell_settled hi hj]
  simp only [hknows]

/-- A table that knows of all sub-chains is the one a run ends with. -/
theorem holding_eq_settled (h : ∀ i j, i < j → j < chain.matrices → (i, j) ∈ known) :
    chain.holding fits known = chain.settled fits (chain.matrices - 1) := by
  refine Table.ext_cell rfl fun i j hi hj ↦ ?_
  rw [side_holding] at hi hj
  have hknows : Knows known i j ↔ i ≤ j ∧ j - i ≤ chain.matrices - 1 := by
    refine ⟨fun hij ↦ ?_, fun hij ↦ ?_⟩
    · unfold Knows at hij
      omega
    · rcases Nat.lt_or_eq_of_le hij.1 with hlt | heq
      · exact .inr ⟨hlt, h i j hlt hj⟩
      · exact .inl heq
  rw [cell_holding hi hj, cell_settled hi hj]
  simp only [hknows]

/-- Storing the least cost of a sub-chain adds it to those that are known. -/
theorem set_holding (fits : FitsMemory chain.matrices) (known : List (Nat × Nat)) {i j : Nat}
    (hij : i < j) (hj : j < chain.matrices) :
    (chain.holding fits known).set i j (leastCost chain.entry i (j - i)) =
      .ok (chain.holding fits ((i, j) :: known)) := by
  obtain ⟨more, rfl⟩ : ∃ more, j = i + (more + 1) := ⟨j - i - 1, by omega⟩
  obtain ⟨flat, -, hflat⟩ := Table.place_eq_ok (chain.holding fits known)
    (show i < chain.matrices by omega) hj
  have hcost : leastCost chain.entry i (i + (more + 1) - i) < unsetMark := by
    rw [Nat.add_sub_cancel_left]
    exact leastCost_lt_unsetMark fits (by omega)
  refine Table.set_eq_ok_iff.mpr ⟨hcost, flat, hflat, ?_⟩
  refine Table.ext_cell rfl fun a b ha hb ↦ ?_
  rw [side_holding] at ha hb
  rw [Table.cell_store_inside hflat hj hb, cell_holding ha hb, cell_holding ha hb]
  -- The new cell is the one that is stored, and all others are known as they were before.
  by_cases hnew : a = i ∧ b = i + (more + 1)
  · obtain ⟨rfl, rfl⟩ := hnew
    rw [if_pos (.inr ⟨hij, List.mem_cons_self⟩), if_pos ⟨rfl, rfl⟩]
  · have hknows : Knows ((i, i + (more + 1)) :: known) a b ↔ Knows known a b := by
      simp only [Knows, List.mem_cons, Prod.mk.injEq, hnew, false_or]
    rw [if_neg hnew]
    simp only [hknows]

/-! ## One cell -/

/-- A cell whose halves are known is filled with its least cost. -/
theorem fillCell_holding (fits : FitsMemory chain.matrices) {layer i : Nat}
    (h : chain.IsReady known layer i) :
    chain.fillCell layer i (chain.holding fits known) =
      (chain.holding fits ((i, i + layer + 1) :: known),
        .ok (leastCost chain.entry i (layer + 1))) := by
  obtain ⟨hinside, hhalves⟩ := h
  have hcell : chain.layered.cell layer i (chain.holding fits known) =
      .ok (leastCost chain.entry i (layer + 1)) := by
    refine cellCost_eq_leastCost fits hinside fun left right hsum ↦ ?_
    obtain ⟨hleft, hright⟩ := hhalves (i + left) (by omega) (by omega)
    rw [show i + layer + 1 = i + left + 1 + right by omega] at hright
    rw [get_holding (by omega) (by omega), get_holding (by omega) (by omega), if_pos hleft,
      if_pos hright, Nat.add_sub_cancel_left, Nat.add_sub_cancel_left]
    exact ⟨rfl, rfl⟩
  have hset := set_holding fits known (show i < i + layer + 1 by omega) hinside
  rw [show i + layer + 1 - i = layer + 1 by omega] at hset
  simp [fillCell, hcell, hset]

/-- A cell that does not exist, or lacks a half, stops, and the table is as before. -/
theorem fillCell_holding_of_not_ready (fits : FitsMemory chain.matrices) {layer i : Nat}
    (h : ¬ chain.IsReady known layer i) :
    ∃ fault, chain.fillCell layer i (chain.holding fits known) =
      (chain.holding fits known, .error fault) := by
  cases hcell : chain.layered.cell layer i (chain.holding fits known) with
  | error fault => exact ⟨fault, by simp [fillCell, hcell]⟩
  | ok cost =>
      obtain ⟨hinside, hhalves⟩ := halves_of_cellCost hcell
      refine absurd ⟨hinside, fun k hik hk ↦ ?_⟩ h
      obtain ⟨left, right, hleft, hright⟩ := hhalves k hik hk
      exact ⟨knows_of_get_holding (by omega) (by omega) hleft,
        knows_of_get_holding (by omega) (by omega) hright⟩

/-- A cell stops exactly when it does not exist or one of its halves is unset. -/
theorem exists_fillCell_eq_error_iff {layer i : Nat} :
    (∃ fault, chain.fillCell layer i (chain.holding fits known) =
        (chain.holding fits known, .error fault)) ↔
      chain.matrices ≤ i + layer + 1 ∨ ∃ k, i ≤ k ∧ k < i + layer + 1 ∧
        ((chain.holding fits known).get i k = .ok none ∨
          (chain.holding fits known).get (k + 1) (i + layer + 1) = .ok none) := by
  constructor
  · intro hstop
    obtain ⟨fault, hfill⟩ := hstop
    by_contra hnone
    push Not at hnone
    obtain ⟨hinside, hset⟩ := hnone
    have hready : chain.IsReady known layer i := by
      refine ⟨hinside, fun k hik hk ↦ ?_⟩
      obtain ⟨hleft, hright⟩ := hset k hik hk
      rw [Ne, get_holding_eq_none_iff (by omega) (by omega), not_not] at hleft hright
      exact ⟨hleft, hright⟩
    rw [fillCell_holding fits hready] at hfill
    cases congrArg Prod.snd hfill
  · intro hnone
    refine fillCell_holding_of_not_ready fits fun hready ↦ ?_
    obtain ⟨hinside, hhalves⟩ := hready
    rcases hnone with houtside | ⟨k, hik, hk, hunset⟩
    · omega
    · obtain ⟨hleft, hright⟩ := hhalves k hik hk
      rw [get_holding_eq_none_iff (by omega) (by omega),
        get_holding_eq_none_iff (by omega) (by omega)] at hunset
      exact hunset.elim (· hleft) (· hright)

/-! ## Any cells -/

/-- No steps fill no cell. -/
theorem not_fills_nil (table : Table) (i j : Nat) : ¬ chain.Fills [] table i j := by
  intro hfills
  obtain ⟨before, layer, after, cost, hsteps, -⟩ := hfills
  simp at hsteps

/-- Steps fill a cell when the first one does, or those after it do. -/
theorem fills_cons_iff {layer start : Nat} {steps : List (Nat × Nat)} {table : Table} {i j : Nat} :
    chain.Fills ((layer, start) :: steps) table i j ↔
      (i = start ∧ j = start + layer + 1 ∧
        ∃ cost, (chain.fillCell layer start table).2 = .ok cost) ∨
      chain.Fills steps (chain.fillCell layer start table).1 i j := by
  constructor
  · intro hfills
    obtain ⟨before, other, after, cost, hsteps, hj, hcost⟩ := hfills
    cases before with
    | nil =>
        obtain ⟨⟨rfl, rfl⟩, rfl⟩ : (layer = other ∧ start = i) ∧ steps = after := by
          simpa using hsteps
        exact .inl ⟨rfl, hj, cost, hcost⟩
    | cons first before =>
        obtain ⟨rfl, rfl⟩ : (layer, start) = first ∧ steps = before ++ (other, i) :: after := by
          simpa using hsteps
        exact .inr ⟨before, other, after, cost, rfl, hj, hcost⟩
  · intro hfills
    rcases hfills with ⟨rfl, hj, cost, hcost⟩ | ⟨before, other, after, cost, hsteps, hj, hcost⟩
    · exact ⟨[], layer, steps, cost, rfl, hj, hcost⟩
    · exact ⟨(layer, start) :: before, other, after, cost, by simp [hsteps], hj, hcost⟩

/-- Steps lead from tables that hold some costs to tables that hold some costs, and those that are
known in the end were known before or were filled. -/
theorem exists_fillCells_eq_holding (fits : FitsMemory chain.matrices)
    (known steps : List (Nat × Nat)) :
    ∃ later, chain.fillCells steps (chain.holding fits known) = chain.holding fits later ∧
      ∀ i j, (i, j) ∈ later ↔
        (i, j) ∈ known ∨ chain.Fills steps (chain.holding fits known) i j := by
  induction steps generalizing known with
  | nil => exact ⟨known, rfl, fun i j ↦ by simp [not_fills_nil]⟩
  | cons step steps ih =>
      obtain ⟨layer, start⟩ := step
      by_cases hready : chain.IsReady known layer start
      · have hstep := fillCell_holding fits hready
        obtain ⟨later, hrun, hknown⟩ := ih ((start, start + layer + 1) :: known)
        refine ⟨later, ?_, fun i j ↦ ?_⟩
        · rw [fillCells, List.foldl_cons, hstep]
          exact hrun
        · rw [hknown, fills_cons_iff, hstep]
          simp [or_assoc, or_left_comm]
      · obtain ⟨fault, hstep⟩ := fillCell_holding_of_not_ready fits hready
        obtain ⟨later, hrun, hknown⟩ := ih known
        refine ⟨later, ?_, fun i j ↦ ?_⟩
        · rw [fillCells, List.foldl_cons, hstep]
          exact hrun
        · rw [hknown, fills_cons_iff, hstep]
          simp

end Chain

variable {α : Type} [ToDimension α]

/-- Whatever cells are filled in whatever order, each cell on or above the diagonal is unset or as
in the table that is filled layer by layer, and each cell below it is unset. A cell stops exactly
when it does not exist or lacks a half, and then it changes nothing. Once all cells above the
diagonal were filled, the table is the one that is filled layer by layer. -/
theorem fillCells_confluent {xs : List α} (h : IsSolvable xs) :
    ∃ chain first last, Chain.ofList xs = .ok chain ∧ chain.matrices = xs.length - 1 ∧
      chain.layered.start = .ok first ∧ solveTable xs = .ok last ∧
      ∀ steps table, chain.fillCells steps first = table →
        (∀ i j, i ≤ j → j < chain.matrices →
          table.get i j = .ok none ∨ table.get i j = last.get i j) ∧
        (∀ i j, j < i → i < chain.matrices → table.get i j = .ok none) ∧
        (∀ layer i, (∃ fault, chain.fillCell layer i table = (table, .error fault)) ↔
          chain.matrices ≤ i + layer + 1 ∨ ∃ k, i ≤ k ∧ k < i + layer + 1 ∧
            (table.get i k = .ok none ∨ table.get (k + 1) (i + layer + 1) = .ok none)) ∧
        ((∀ i j, i < j → j < chain.matrices → chain.Fills steps first i j) → table = last) := by
  obtain ⟨chain, hchain⟩ := h.exists_chain
  have hmatrices := matrices_of_ofList hchain
  have fits : FitsMemory chain.matrices := hmatrices ▸ h.fits
  have htable := (solve_of_ok hchain).2
  rw [Chain.costs_eq_settled fits, Except.mapError] at htable
  refine ⟨chain, chain.holding fits [], chain.settled fits (chain.matrices - 1), hchain, hmatrices,
    ?_, htable, ?_⟩
  · rw [Chain.holding_nil]
    exact Chain.start_eq_settled fits
  intro steps table hsteps
  obtain ⟨known, hrun, hknown⟩ := Chain.exists_fillCells_eq_holding fits [] steps
  obtain rfl : chain.holding fits known = table := hrun.symm.trans hsteps
  refine ⟨?_, ?_, fun layer i ↦ Chain.exists_fillCell_eq_error_iff, ?_⟩
  · intro i j hij hj
    have hlast : (chain.settled fits (chain.matrices - 1)).get i j =
        .ok (some (leastCost chain.entry i (j - i))) := by
      rw [Table.get_eq_ok (by rw [Chain.side_settled]; omega) hj,
        Chain.cell_settled (by omega) hj, if_pos ⟨hij, by omega⟩]
    rw [hlast, Chain.get_holding (by omega) hj]
    split <;> simp
  · intro i j hij hi
    rw [Chain.get_holding_eq_none_iff hi (by omega)]
    unfold Chain.Knows
    omega
  · intro hall
    refine Chain.holding_eq_settled fun i j hij hj ↦ ?_
    exact (hknown i j).mpr (.inr (hall i j hij hj))

/-- For three matrices, the second layer may come too early, the cells of the first one may come in
any order and again, and the whole chain is costed all the same. -/
theorem fillCells_confluent_three :
    IsSolvable [10, 100, 5, 50] ∧ ∃ chain first last, Chain.ofList [10, 100, 5, 50] = .ok chain ∧
      chain.layered.start = .ok first ∧ solveTable [10, 100, 5, 50] = .ok last ∧
      chain.fillCells [(1, 0), (0, 1), (0, 1), (0, 0), (7, 1), (1, 0)] first = last := by
  have hsolvable : IsSolvable [10, 100, 5, 50] := ⟨by decide, by decide, by decide⟩
  obtain ⟨chain, first, last, hchain, -, hstart, hlast, hrun⟩ := fillCells_confluent hsolvable
  refine ⟨hsolvable, chain, first, last, hchain, hstart, hlast, ?_⟩
  obtain rfl : (⟨#[10, 100, 5, 50], by decide, by decide⟩ : Chain) = chain := Except.ok.inj hchain
  obtain rfl : Table.initial 3 (by decide) = first := Except.ok.inj hstart
  obtain ⟨-, -, -, hall⟩ := hrun [(1, 0), (0, 1), (0, 1), (0, 0), (7, 1), (1, 0)] _ rfl
  refine hall fun i j hij hj ↦ ?_
  have hj : j < 3 := hj
  have hcases : i = 0 ∧ j = 1 ∨ i = 1 ∧ j = 2 ∨ i = 0 ∧ j = 2 := by omega
  rcases hcases with ⟨rfl, rfl⟩ | ⟨rfl, rfl⟩ | ⟨rfl, rfl⟩
  · exact ⟨[(1, 0), (0, 1), (0, 1)], 0, [(7, 1), (1, 0)], 5000, rfl, rfl, rfl⟩
  · exact ⟨[(1, 0)], 0, [(0, 1), (0, 0), (7, 1), (1, 0)], 25000, rfl, rfl, rfl⟩
  · exact ⟨[(1, 0), (0, 1), (0, 1), (0, 0), (7, 1)], 1, [], 7500, rfl, rfl, rfl⟩

end ChainProduct
