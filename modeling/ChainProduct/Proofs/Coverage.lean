import ChainProduct.Proofs.Schedule
import ChainProduct.Proofs.Settled
import Mathlib.Data.List.Nodup
import Mathlib.Tactic.Ring

/-!
# The calls of a run on a chain

A run on a chain goes over the triangle of all pairs `i < j` of matrices, one diagonal after the
other. `triangle n` lists these pairs in their order: each of them is there once
(`mem_triangle_iff`, `pairwise_triangle`), and there are as many as pairs of different matrices
(`length_triangle`). The calls that fill the first layers are known as a list, `Chain.fillCalls`,
since every table that they see or leave is settled.

The main theorem, `Chain.run_coversTriangle`, says that the calls of a run evaluate the triangle
once and store it layer by layer, and that a cost stays in its cell once it is stored.
-/

namespace ChainProduct

variable {σ κ : Type}

/-! ## What a call is about -/

namespace Call

/-- The first and the last matrix of the sub-chain that is evaluated. -/
def subChain? : Call σ κ → Option (Nat × Nat)
  | .cell layer index _ _ => some (index, index + layer + 1)
  | _ => none

/-- The layer that is stored, and the number of its values. -/
def storedLayer? : Call σ κ → Option (Nat × Nat)
  | .store layer values _ _ => some (layer, values.length)
  | _ => none

/-- The cells of a layer are the sub-chains that start at one matrix after another. -/
theorem filterMap_subChain?_ofLayer (layer : Nat) (seen : σ) (values : List κ) (after : σ) :
    (ofLayer layer seen values after).filterMap subChain? =
      (List.range values.length).map fun i ↦ (i, i + layer + 1) := by
  have hcells : (cells layer seen values).filterMap subChain? =
      (values.zipIdx.map Prod.snd).map fun i ↦ (i, i + layer + 1) := by
    rw [cells, List.mapIdx_eq_zipIdx_map, List.filterMap_map, List.map_map, ← List.filterMap_eq_map]
    rfl
  rw [ofLayer, List.filterMap_append, hcells, List.zipIdx_map_snd, ← List.range_eq_range']
  simp [subChain?]

/-- The calls of a layer store it once. -/
theorem filterMap_storedLayer?_ofLayer (layer : Nat) (seen : σ) (values : List κ) (after : σ) :
    (ofLayer layer seen values after).filterMap storedLayer? = [(layer, values.length)] := by
  have hcells : (cells layer seen values : List (Call σ κ)).filterMap storedLayer? = [] := by
    rw [List.filterMap_eq_nil_iff]
    intro call hcall
    obtain ⟨index, hindex, rfl⟩ := List.mem_mapIdx.mp hcall
    rfl
  rw [ofLayer, List.filterMap_append, hcells]
  rfl

/-- The cells among the calls of a layer have its values. -/
theorem cell_mem_ofLayer_iff {layer index count : Nat} {seen other after : σ} {values : List κ}
    {value : κ} : .cell layer index seen value ∈ ofLayer count other values after ↔
      layer = count ∧ seen = other ∧ values[index]? = some value := by
  simp only [ofLayer, cells, List.mem_append, List.mem_mapIdx, List.mem_singleton, reduceCtorEq,
    or_false, Call.cell.injEq, List.getElem?_eq_some_iff]
  grind

/-- The values that the calls of a layer store are its own. -/
theorem store_mem_ofLayer_iff {layer count : Nat} {before after seen next : σ}
    {values costs : List κ} : .store layer values before after ∈ ofLayer count seen costs next ↔
      layer = count ∧ values = costs ∧ before = seen ∧ after = next := by
  simp [ofLayer, cells]

end Call

/-! ## The triangle -/

/-- The sub-chain is shorter than the other one, or as long and starts before it. -/
def Precedes (pair other : Nat × Nat) : Prop :=
  pair.2 - pair.1 < other.2 - other.1 ∨ pair.2 - pair.1 = other.2 - other.1 ∧ pair.1 < other.1

/-- The pairs `i < j` of this many matrices, one diagonal after the other. -/
def triangle (matrices : Nat) : List (Nat × Nat) :=
  (List.range (matrices - 1)).flatMap fun layer ↦
    (List.range (matrices - 1 - layer)).map fun i ↦ (i, i + layer + 1)

/-- The triangle holds the pairs above the diagonal. -/
theorem mem_triangle_iff {matrices i j : Nat} : (i, j) ∈ triangle matrices ↔
    i < j ∧ j < matrices := by
  simp only [triangle, List.mem_flatMap, List.mem_map, List.mem_range, Prod.mk.injEq]
  refine ⟨fun hpair ↦ ?_, fun ⟨hij, hj⟩ ↦ ?_⟩
  · obtain ⟨layer, hlayer, start, hstart, rfl, rfl⟩ := hpair
    omega
  · exact ⟨j - i - 1, by omega, i, by omega, rfl, by omega⟩

/-- The triangle is listed by the length of the sub-chains, and then by their start. -/
theorem pairwise_triangle (matrices : Nat) : (triangle matrices).Pairwise Precedes := by
  rw [triangle, List.pairwise_flatMap]
  constructor
  · intro layer _
    rw [List.pairwise_map]
    exact List.pairwise_lt_range.imp fun hlt ↦ .inr ⟨by omega, hlt⟩
  · refine List.pairwise_lt_range.imp fun hlt pair hpair other hother ↦ .inl ?_
    obtain ⟨i, -, rfl⟩ := List.mem_map.mp hpair
    obtain ⟨k, -, rfl⟩ := List.mem_map.mp hother
    omega

example : triangle 4 = [(0, 1), (1, 2), (2, 3), (0, 2), (1, 3), (0, 3)] := by decide

/-- No pair is listed twice. -/
theorem nodup_triangle (matrices : Nat) : (triangle matrices).Nodup :=
  (pairwise_triangle matrices).imp fun hprecedes heq ↦ by
    subst heq
    unfold Precedes at hprecedes
    omega

/-- Widths that fall by one from layer to layer, down to one, have a closed sum. -/
theorem two_mul_sum_widths (layers : Nat) :
    2 * ((List.range layers).map fun layer ↦ layers - layer).sum = layers * (layers + 1) := by
  induction layers with
  | zero => rfl
  | succ layers ih =>
      have hrest : (List.range layers).map (fun layer ↦ layers + 1 - (layer + 1)) =
          (List.range layers).map fun layer ↦ layers - layer :=
        List.map_congr_left fun layer _ ↦ Nat.add_sub_add_right _ _ _
      rw [List.range_succ_eq_map, List.map_cons, List.map_map, List.sum_cons, Nat.mul_add]
      simp only [Function.comp_def, Nat.succ_eq_add_one, Nat.sub_zero, hrest, ih]
      ring

/-- There are as many pairs as there are ways to choose two of the matrices. -/
theorem length_triangle (matrices : Nat) :
    (triangle matrices).length = matrices * (matrices - 1) / 2 := by
  have hwidths := two_mul_sum_widths (matrices - 1)
  rw [triangle, List.length_flatMap]
  simp only [List.length_map, List.length_range]
  cases matrices with
  | zero => rfl
  | succ more =>
      rw [Nat.add_sub_cancel] at hwidths ⊢
      rw [Nat.mul_comm, ← hwidths, Nat.mul_div_cancel_left _ (by decide)]

/-! ## The calls of a run -/

/-- The calls cover the triangle: every pair of matrices is evaluated once and in order, every layer
is stored once and in order, and what was evaluated stays in its cell. -/
structure Chain.CoversTriangle (chain : Chain) (calls : List (Call Table Nat)) (last : Table) :
    Prop where
  /-- Each pair of matrices `i < j` is evaluated once, and no other pair is. -/
  evaluates : ∀ i j, (calls.filterMap Call.subChain?).count (i, j) =
    if i < j ∧ j < chain.matrices then 1 else 0
  /-- There are as many evaluations as there are pairs. -/
  evaluations : (calls.filterMap Call.subChain?).length =
    chain.matrices * (chain.matrices - 1) / 2
  /-- Shorter sub-chains come first, and among those of one length the ones that start first. -/
  ordered : (calls.filterMap Call.subChain?).Pairwise Precedes
  /-- Each layer is stored once, after the layers below it, with as many costs as fit beside its
  sub-chains. -/
  stores : calls.filterMap Call.storedLayer? =
    (List.range (chain.matrices - 1)).map fun layer ↦ (layer, chain.matrices - 1 - layer)
  /-- A cost is found in its cell from the moment its layer is stored, and at the end. -/
  keeps : ∀ layer index seen value, .cell layer index seen value ∈ calls →
    (∀ later values before after, .store later values before after ∈ calls → layer ≤ later →
      after.get index (index + layer + 1) = .ok (some value)) ∧
    last.get index (index + layer + 1) = .ok (some value)
  /-- The table is filled once the last layer is stored, and not before. -/
  fills : ∀ layer values before after, .store layer values before after ∈ calls →
    (after.IsFilled ↔ layer + 2 = chain.matrices)

namespace Chain

variable {chain : Chain} {fits : FitsMemory chain.matrices}

/-- The calls that fill the first layers. -/
def fillCalls (chain : Chain) (fits : FitsMemory chain.matrices) (count : Nat) :
    List (Call Table Nat) :=
  .start (chain.settled fits 0) :: (List.range count).flatMap fun layer ↦
    Call.ofLayer layer (chain.settled fits layer) (chain.layerCosts layer)
      (chain.settled fits (layer + 1))

/-- The calls of a run: all layers are filled, and then the result is read off. -/
def runCalls (chain : Chain) (fits : FitsMemory chain.matrices) : List (Call Table Nat) :=
  chain.fillCalls fits (chain.matrices - 1) ++
    [.answer (chain.settled fits (chain.matrices - 1))
      (leastCost chain.entry 0 (chain.matrices - 1))]

/-- One layer more is evaluated and settled by each step of a run. -/
theorem step_settled {layer : Nat} (h : layer < chain.matrices) :
    chain.layered.step layer (chain.settled fits layer) =
      .ok (chain.layerCosts layer, chain.settled fits (layer + 1)) :=
  Layered.step_eq_ok_iff.mpr ⟨cells_settled h (Nat.le_refl layer), store_settled h⟩

/-- Filling the first layers makes these calls. -/
theorem result_fillFirst_settled (fits : FitsMemory chain.matrices) {count : Nat}
    (h : count < chain.matrices) : (chain.layered.traced.fillFirst count).result =
      .ok (chain.settled fits count, chain.fillCalls fits count) := by
  induction count with
  | zero =>
      rw [Layered.result_fillFirst_zero, start_eq_settled fits]
      rfl
  | succ count ih =>
      rw [Layered.result_fillFirst_succ, ih (by omega), ok_bind]
      simp [step_settled (show count < chain.matrices by omega), fillCalls, List.range_succ]

/-- A run makes these calls, and its result is the least cost of the whole chain. -/
theorem result_solve_settled (fits : FitsMemory chain.matrices) :
    chain.layered.traced.solve.result =
      .ok (leastCost chain.entry 0 (chain.matrices - 1), chain.runCalls fits) := by
  have hpos := chain.one_le_matrices
  have hanswer : chain.layered.answer (chain.settled fits (chain.matrices - 1)) =
      .ok (leastCost chain.entry 0 (chain.matrices - 1)) := totalCost_settled fits
  rw [Layered.result_solve, Layered.result_fill, layered_layers, ok_bind,
    result_fillFirst_settled fits (by omega), ok_bind]
  simp only [hanswer, ok_bind]
  rfl

/-- The sub-chains that a run evaluates are the triangle. -/
theorem filterMap_subChain?_runCalls (fits : FitsMemory chain.matrices) :
    (chain.runCalls fits).filterMap Call.subChain? = triangle chain.matrices := by
  rw [runCalls, fillCalls, List.cons_append, List.filterMap_cons_none rfl, List.filterMap_append,
    List.filterMap_flatMap]
  simp only [Call.filterMap_subChain?_ofLayer, length_layerCosts]
  exact List.append_nil _

/-- A run stores the layers one after another. -/
theorem filterMap_storedLayer?_runCalls (fits : FitsMemory chain.matrices) :
    (chain.runCalls fits).filterMap Call.storedLayer? =
      (List.range (chain.matrices - 1)).map fun layer ↦ (layer, chain.matrices - 1 - layer) := by
  rw [runCalls, fillCalls, List.cons_append, List.filterMap_cons_none rfl, List.filterMap_append,
    List.filterMap_flatMap]
  simp only [Call.filterMap_storedLayer?_ofLayer, length_layerCosts]
  exact (List.append_nil _).trans List.map_eq_flatMap.symm

/-- The cells that a run evaluates lie in the triangle and have their least costs. -/
theorem cell_mem_runCalls {layer index value : Nat} {seen : Table}
    (h : .cell layer index seen value ∈ chain.runCalls fits) :
    index + layer + 1 < chain.matrices ∧ value = leastCost chain.entry index (layer + 1) := by
  simp only [runCalls, fillCalls, List.mem_append, List.mem_cons, reduceCtorEq, List.mem_flatMap,
    Call.cell_mem_ofLayer_iff, List.not_mem_nil, false_or, or_false] at h
  obtain ⟨_, -, rfl, -, hvalue⟩ := h
  obtain ⟨hindex, rfl⟩ := List.getElem?_eq_some_iff.mp hvalue
  rw [length_layerCosts] at hindex
  exact ⟨by omega, by simp [layerCosts]⟩

/-- The table that is left when a layer is stored is settled up to this layer. -/
theorem store_mem_runCalls {layer : Nat} {values : List Nat} {before after : Table}
    (h : .store layer values before after ∈ chain.runCalls fits) :
    layer + 1 < chain.matrices ∧ after = chain.settled fits (layer + 1) := by
  simp only [runCalls, fillCalls, List.mem_append, List.mem_cons, reduceCtorEq, List.mem_flatMap,
    Call.store_mem_ofLayer_iff, List.not_mem_nil, false_or, or_false] at h
  obtain ⟨_, hlayer, rfl, -, -, hafter⟩ := h
  have := List.mem_range.mp hlayer
  exact ⟨by omega, hafter⟩

/-- The calls of a run cover the triangle. -/
theorem coversTriangle_runCalls (fits : FitsMemory chain.matrices) :
    chain.CoversTriangle (chain.runCalls fits) (chain.settled fits (chain.matrices - 1)) := by
  have hpairs := filterMap_subChain?_runCalls fits
  -- A cost that a settled table holds is in all tables that are settled further.
  have hget {layer index span : Nat} (hindex : index + layer + 1 < chain.matrices)
      (hlayer : layer + 1 ≤ span) : (chain.settled fits span).get index (index + layer + 1) =
        .ok (some (leastCost chain.entry index (layer + 1))) := by
    have hsettled := get_settled fits span (show index + (layer + 1) < chain.matrices by omega)
    rwa [if_pos hlayer] at hsettled
  refine ⟨fun i j ↦ ?_, ?_, ?_, filterMap_storedLayer?_runCalls fits,
    fun layer index seen value hcell ↦ ?_, fun layer values before after hstore ↦ ?_⟩
  · rw [hpairs, (nodup_triangle _).count]
    simp only [mem_triangle_iff]
  · rw [hpairs, length_triangle]
  · rw [hpairs]
    exact pairwise_triangle _
  · obtain ⟨hindex, rfl⟩ := cell_mem_runCalls hcell
    refine ⟨fun later values before after hstore hlater ↦ ?_, hget hindex (by omega)⟩
    obtain ⟨-, rfl⟩ := store_mem_runCalls hstore
    exact hget hindex (Nat.succ_le_succ hlater)
  · obtain ⟨hlayer, rfl⟩ := store_mem_runCalls hstore
    rw [isFilled_settled]
    omega

/-- A run on a chain whose table fits in memory has a result, and its calls cover the triangle of
pairs of matrices. A run on a single matrix evaluates nothing and stores nothing: the table that it
starts with is filled. -/
theorem run_coversTriangle (chain : Chain) (fits : FitsMemory chain.matrices)
    {engine : Engine (Tracing Table Nat) Table Nat}
    (hengine : engine.IsMadeFor chain.layered.traced) :
    ∃ last cost calls, chain.costs = .ok last ∧ chain.minCost = .ok cost ∧
      engine.run.result = .ok (cost, calls) ∧ calls.getLast? = some (.answer last cost) ∧
      chain.CoversTriangle calls last ∧
      (chain.matrices = 1 → Table.fresh chain.matrices = .ok last ∧ last.IsFilled ∧
        calls = [.start last, .answer last cost]) := by
  refine ⟨_, _, chain.runCalls fits, costs_eq_settled fits, minCost_eq_leastCost fits, ?_,
    List.getLast?_concat, coversTriangle_runCalls fits, fun hone ↦ ⟨?_, ?_, ?_⟩⟩
  · rw [hengine.eq_fill_and_solve.2, result_solve_settled fits]
  · have hstart : Table.fresh chain.matrices = .ok (chain.settled fits 0) := start_eq_settled fits
    rw [hstart, hone]
  · exact isFilled_settled.mpr (Nat.le_refl _)
  · simp [runCalls, fillCalls, hone]

/-- A run on three matrices evaluates each pair of them once, and stores two costs and then one. -/
theorem run_coversTriangle_three :
    ∃ (chain : Chain) (_ : FitsMemory chain.matrices) (cost : Nat) (calls : List (Call Table Nat)),
      chain.dims = #[10, 100, 5, 50] ∧
      (Engine.ofProblem chain.layered.traced).run.result = .ok (cost, calls) ∧
      (calls.filterMap Call.subChain?).count (0, 2) = 1 ∧
      (calls.filterMap Call.subChain?).count (2, 0) = 0 ∧
      (calls.filterMap Call.subChain?).length = 3 ∧
      calls.filterMap Call.storedLayer? = [(0, 2), (1, 1)] := by
  let chain : Chain := ⟨#[10, 100, 5, 50], by decide, by decide⟩
  have fits : FitsMemory chain.matrices := by decide
  obtain ⟨last, cost, calls, -, -, hresult, -, hcovers, -⟩ :=
    run_coversTriangle chain fits (.inl rfl)
  have hpairs : 3 * (3 - 1) / 2 = 3 := by decide
  exact ⟨chain, fits, cost, calls, rfl, hresult, hcovers.evaluates 0 2, hcovers.evaluates 2 0,
    hcovers.evaluations.trans hpairs, hcovers.stores⟩

end Chain

end ChainProduct
