import ChainProduct.Proofs.Settled

/-!
# Filling layers in any order

What becomes of a fresh table when layers are evaluated and stored one after another, in any order,
with repetitions, and with numbers that belong to no layer. `fillLayer_settled_of_le` and its
companions give the outcome of one layer on each settled table, and the main theorem,
`fillLayers_settled`, says that no other table is ever reached: a layer that comes too early or
too late stops and changes nothing, and one that comes again stores what is there already.
-/

namespace ChainProduct.Chain

variable {chain : Chain} {fits : FitsMemory chain.matrices}

/-- The table that is left when layers are filled one after another, with those that stop passed
over. -/
def fillLayers (chain : Chain) (layers : List Nat) (table : Table) : Table :=
  layers.foldl (fun table layer ↦ (chain.fillLayer layer table).1) table

/-! ## One layer -/

/-- A layer whose shorter sub-chains are settled is evaluated and settled. -/
theorem fillLayer_settled_of_le {span layer : Nat} (h : layer < chain.matrices)
    (hlayer : layer ≤ span) :
    chain.fillLayer layer (chain.settled fits span) =
      (chain.settled fits (max span (layer + 1)), .ok (chain.layerCosts layer)) :=
  fillLayer_of_ok (cells_settled h hlayer) (storeLayer_settled h hlayer)

/-- A layer that skips one stops, and the table is as before. -/
theorem fillLayer_settled_of_lt {span layer : Nat} (h : layer + 1 < chain.matrices)
    (hspan : span < layer) :
    chain.fillLayer layer (chain.settled fits span) =
      (chain.settled fits span, .error .unsetHalf) :=
  fillLayer_of_error (cells_settled_of_lt h hspan)

/-- The layer after the last one has no cells, so it changes nothing. -/
theorem fillLayer_pred_matrices (table : Table) (hside : table.side = chain.matrices) :
    chain.fillLayer (chain.matrices - 1) table = (table, .ok []) := by
  have hpos := chain.one_le_matrices
  have hmatrices := Table.side_lt_of_fits table.fits
  rw [hside] at hmatrices
  have hcells : chain.layered.cells (chain.matrices - 1) table = .ok [] := by
    rw [Layered.cells, layered_width (hside ▸ table.fits) (by omega), Nat.sub_self]
    rfl
  have hstore : table.storeLayer (chain.matrices - 1) [] = (table, none) := by
    rw [Table.storeLayer_eq table (by unfold indexLimit; omega)]
    rfl
  exact fillLayer_of_ok hcells hstore

/-- A number that belongs to no layer stops, and the table is as before. -/
theorem fillLayer_of_le {layer : Nat} (h : chain.matrices ≤ layer) (table : Table) :
    ∃ fault, chain.fillLayer layer table = (table, .error fault) := by
  obtain ⟨fault, hcells⟩ := cells_of_le h table
  exact ⟨fault, fillLayer_of_error hcells⟩

/-- One layer leads from a settled table to a settled table. -/
theorem fillLayer_settled (fits : FitsMemory chain.matrices) {span : Nat}
    (hspan : span < chain.matrices) (layer : Nat) :
    ∃ more < chain.matrices, (chain.fillLayer layer (chain.settled fits span)).1 =
      chain.settled fits more := by
  rcases Nat.lt_or_ge layer chain.matrices with h | h
  · rcases Nat.lt_or_ge span layer with hlayer | hlayer
    · refine ⟨span, hspan, ?_⟩
      rcases Nat.lt_or_ge (layer + 1) chain.matrices with hnext | hnext
      · rw [fillLayer_settled_of_lt hnext hlayer]
      · obtain rfl : layer = chain.matrices - 1 := by omega
        rw [fillLayer_pred_matrices _ (side_settled span)]
    · -- The layer after the last one settles nothing, so the span stays that of the chain.
      refine ⟨min (max span (layer + 1)) (chain.matrices - 1), by omega, ?_⟩
      rw [fillLayer_settled_of_le h hlayer]
      rcases Nat.lt_or_ge (max span (layer + 1)) chain.matrices with hmax | hmax
      · rw [Nat.min_eq_left (by omega)]
      · exact settled_eq_of_le (by omega) (by omega)
  · obtain ⟨fault, hfill⟩ := fillLayer_of_le h (chain.settled fits span)
    exact ⟨span, hspan, by rw [hfill]⟩

/-! ## Any layers -/

/-- Layers lead from settled tables to settled tables, in whatever order they are filled. -/
theorem exists_fillLayers_eq_settled {span : Nat} (hspan : span < chain.matrices)
    (layers : List Nat) :
    ∃ more < chain.matrices, chain.fillLayers layers (chain.settled fits span) =
      chain.settled fits more := by
  induction layers generalizing span with
  | nil => exact ⟨span, hspan, rfl⟩
  | cons layer layers ih =>
      obtain ⟨more, hmore, hstep⟩ := fillLayer_settled fits hspan layer
      obtain ⟨last, hlast, hrun⟩ := ih hmore
      refine ⟨last, hlast, ?_⟩
      rw [fillLayers, List.foldl_cons, hstep]
      exact hrun

/-- Whatever layers are filled in whatever order, the table is one of the settled ones, and each
layer has a known outcome on each of them: those before the next layer change nothing, the next
layer settles its sub-chains, those after it stop, the first number beyond the layers does
nothing, and larger numbers stop. -/
theorem fillLayers_settled (chain : Chain) (fits : FitsMemory chain.matrices) :
    chain.layered.start = .ok (chain.settled fits 0) ∧
    (∀ layers, ∃ span < chain.matrices,
      chain.fillLayers layers (chain.settled fits 0) = chain.settled fits span) ∧
    ∀ span < chain.matrices,
      (chain.settled fits span).side = chain.matrices ∧
      (∀ i j, i < chain.matrices → j < chain.matrices →
        (i ≤ j ∧ j - i ≤ span → ∃ cost, (chain.settled fits span).get i j = .ok (some cost) ∧
          IsLeastCost chain.entry i j cost) ∧
        (¬ (i ≤ j ∧ j - i ≤ span) → (chain.settled fits span).get i j = .ok none)) ∧
      (∀ layer < span, chain.fillLayer layer (chain.settled fits span) =
        (chain.settled fits span, .ok (chain.layerCosts layer))) ∧
      (span + 1 < chain.matrices → chain.fillLayer span (chain.settled fits span) =
        (chain.settled fits (span + 1), .ok (chain.layerCosts span))) ∧
      (∀ layer, span < layer → layer + 1 < chain.matrices →
        ∃ fault, chain.fillLayer layer (chain.settled fits span) =
          (chain.settled fits span, .error fault)) ∧
      chain.fillLayer (chain.matrices - 1) (chain.settled fits span) =
        (chain.settled fits span, .ok []) ∧
      (∀ layer, chain.matrices ≤ layer →
        ∃ fault, chain.fillLayer layer (chain.settled fits span) =
          (chain.settled fits span, .error fault)) ∧
      ((chain.settled fits span).IsFilled ↔ span = chain.matrices - 1) := by
  refine ⟨start_eq_settled fits, exists_fillLayers_eq_settled chain.one_le_matrices,
    fun span hspan ↦ ⟨side_settled span, ?_, ?_, ?_, ?_, ?_, ?_, ?_⟩⟩
  · intro i j hi hj
    rw [Table.get_eq_ok (by rwa [side_settled]) (by rwa [side_settled]), cell_settled hi hj]
    refine ⟨fun h ↦ ⟨_, by rw [if_pos h], isLeastCost_leastCost chain.entry h.1⟩, fun h ↦ ?_⟩
    rw [if_neg h]
  · intro layer hlayer
    rw [fillLayer_settled_of_le (by omega) (by omega), Nat.max_eq_left hlayer]
  · intro hnext
    rw [fillLayer_settled_of_le (by omega) (Nat.le_refl span), Nat.max_eq_right (Nat.le_succ span)]
  · intro layer hlayer hnext
    exact ⟨_, fillLayer_settled_of_lt hnext hlayer⟩
  · exact fillLayer_pred_matrices _ (side_settled span)
  · intro layer hlayer
    exact fillLayer_of_le hlayer _
  · rw [isFilled_settled]
    omega

/-- For three matrices, the second layer stops on a fresh table, and settles the whole chain after
the first one. -/
theorem fillLayers_settled_three :
    ∃ (chain : Chain) (fits : FitsMemory chain.matrices), chain.dims = #[10, 100, 5, 50] ∧
      (∃ fault, chain.fillLayer 1 (chain.settled fits 0) =
        (chain.settled fits 0, .error fault)) ∧
      chain.fillLayer 0 (chain.settled fits 0) =
        (chain.settled fits 1, .ok (chain.layerCosts 0)) ∧
      (chain.fillLayer 1 (chain.settled fits 1)).1.IsFilled := by
  let chain : Chain := ⟨#[10, 100, 5, 50], by decide, by decide⟩
  have fits : FitsMemory chain.matrices := by decide
  obtain ⟨-, -, houtcome⟩ := fillLayers_settled chain fits
  obtain ⟨-, -, -, hfirst, hskip, -⟩ := houtcome 0 (by decide)
  obtain ⟨-, -, -, hsecond, -⟩ := houtcome 1 (by decide)
  obtain ⟨-, -, -, -, -, -, -, hfilled⟩ := houtcome 2 (by decide)
  refine ⟨chain, fits, rfl, hskip 1 (by decide) (by decide), hfirst (by decide), ?_⟩
  rw [hsecond (by decide)]
  exact hfilled.mpr rfl

end ChainProduct.Chain
