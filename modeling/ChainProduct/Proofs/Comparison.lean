import ChainProduct.Proofs.Solve

/-!
# Chains compared

What two lists of dimensions say about each other's tables. `subChain xs i j` are the dimensions of
the matrices from `i` to `j` of a list. Solved alone they give the block of the table that belongs
to these matrices, with other rows, other layers and another side (`solveTable_subChain`), and any
two lists that share a stretch of dimensions share the block. Larger dimensions never cost less:
`solveTable_mono` compares the tables of two lists cell by cell, although the best bracketings of
their sub-chains may differ.
-/

namespace ChainProduct

variable {α β : Type}

/-- The dimensions of the matrices from `i` to `j` of a list. -/
def subChain (xs : List α) (i j : Nat) : List α :=
  (xs.drop i).take (j - i + 2)

/-- A sub-chain has one dimension more than it has matrices. -/
theorem length_subChain {xs : List α} {i j : Nat} (hij : i ≤ j) (hj : j < xs.length - 1) :
    (subChain xs i j).length = j - i + 2 := by
  rw [subChain, List.length_take, List.length_drop]
  omega

variable [ToDimension α] [ToDimension β]

/-! ## Parts of a list -/

/-- A sub-chain has the dimensions of the list from its first matrix on. -/
theorem dimensionAt_subChain (xs : List α) {i j p : Nat} (hp : p ≤ j - i + 1) :
    dimensionAt (subChain xs i j) p = dimensionAt xs (i + p) := by
  have hlt : p < j - i + 2 := by omega
  simp [dimensionAt, subChain, List.getElem?_take_of_lt hlt]

/-- Every sub-chain of a solvable list is solvable. -/
theorem IsSolvable.subChain {xs : List α} (h : IsSolvable xs) {i j : Nat} (hij : i ≤ j)
    (hj : j < xs.length - 1) : IsSolvable (subChain xs i j) where
  two_le_length := by
    rw [length_subChain hij hj]
    omega
  isDimension x hx := h.isDimension x (List.mem_of_mem_drop (List.mem_of_mem_take hx))
  fits := h.fits.mono (by rw [length_subChain hij hj]; omega)

/-- Lists that share a stretch of dimensions share the block of their tables that belongs to it. -/
theorem IsSolvable.get_eq_get {xs : List α} {ys : List β} {table other : Table}
    (hxs : IsSolvable xs) (hys : IsSolvable ys) (htable : solveTable xs = .ok table)
    (hother : solveTable ys = .ok other) {i k span : Nat} (hi : i + span < xs.length - 1)
    (hk : k + span < ys.length - 1)
    (h : ∀ p ≤ span + 1, dimensionAt xs (i + p) = dimensionAt ys (k + p)) {a b : Nat}
    (hab : a ≤ b) (hb : b ≤ span) : table.get (i + a) (i + b) = other.get (k + a) (k + b) := by
  rw [hxs.get_eq htable (by omega) (by omega), hys.get_eq hother (by omega) (by omega),
    Nat.add_sub_add_left, Nat.add_sub_add_left]
  refine congrArg (Except.ok ∘ some) (leastCost_congr fun p hp ↦ ?_)
  rw [Nat.add_assoc, Nat.add_assoc]
  exact h (a + p) (by omega)

/-! ## Tables of two lists -/

/-- The table of a sub-chain is the block of the table of the list that belongs to its matrices, and
its least cost is one cell of that table. No dimension outside the sub-chain has a part in the
block: every list that contains the same dimensions has the same block. -/
theorem solveTable_subChain {xs : List α} (h : IsSolvable xs) {i j : Nat} (hij : i ≤ j)
    (hj : j < xs.length - 1) :
    ∃ table part, solveTable xs = .ok table ∧ solveTable (subChain xs i j) = .ok part ∧
      part.side = j - i + 1 ∧
      (∀ a b, a ≤ b → b ≤ j - i → ∃ cost, part.get a b = .ok (some cost) ∧
        table.get (i + a) (i + b) = .ok (some cost)) ∧
      (∃ cost, solve (subChain xs i j) = .ok cost ∧ table.get i j = .ok (some cost)) ∧
      ∀ ys k, IsSolvable ys → subChain ys k (k + (j - i)) = subChain xs i j →
        ∃ other, solveTable ys = .ok other ∧ ∀ a b, a ≤ b → b ≤ j - i →
          other.get (k + a) (k + b) = table.get (i + a) (i + b) := by
  have hpartSolvable := h.subChain hij hj
  have hlength := length_subChain hij hj
  obtain ⟨table, htable, -, hcell⟩ := h.exists_table
  obtain ⟨part, hpart, hside, hpartCell⟩ := hpartSolvable.exists_table
  rw [hlength] at hside hpartCell
  have hblock (a b : Nat) (hab : a ≤ b) (hb : b ≤ j - i) :
      table.get (i + a) (i + b) = part.get a b := by
    have hsame := h.get_eq_get hpartSolvable htable hpart (show i + (j - i) < _ by omega)
      (show 0 + (j - i) < _ by omega)
      (fun p hp ↦ by rw [Nat.zero_add, dimensionAt_subChain xs hp]) hab hb
    rwa [Nat.zero_add, Nat.zero_add] at hsame
  refine ⟨table, part, htable, hpart, hside, fun a b hab hb ↦ ?_, ?_, fun ys k hys hsame ↦ ?_⟩
  · have hcost := hpartCell a b hab (by omega)
    exact ⟨_, hcost, (hblock a b hab hb).trans hcost⟩
  · have hcost := hpartCell 0 (j - i) (Nat.zero_le _) (by omega)
    refine ⟨_, hpartSolvable.solve_eq, ?_⟩
    rw [hlength]
    have hlast := (hblock 0 (j - i) (Nat.zero_le _) (Nat.le_refl _)).trans hcost
    rwa [Nat.add_zero, Nat.add_sub_of_le hij] at hlast
  · obtain ⟨other, hother, -, -⟩ := hys.exists_table
    have hcount := congrArg List.length hsame
    rw [hlength, subChain, List.length_take, List.length_drop] at hcount
    refine ⟨other, hother, fun a b hab hb ↦ ?_⟩
    refine hys.get_eq_get h hother htable (show k + (j - i) < _ by omega)
      (show i + (j - i) < _ by omega) (fun p hp ↦ ?_) hab hb
    rw [← dimensionAt_subChain xs hp, ← hsame, dimensionAt_subChain ys (by omega)]

/-- The last two of three matrices alone cost what they cost as a part of the three, and so they do
behind two other matrices. -/
theorem solveTable_subChain_three :
    IsSolvable [10, 100, 5, 50] ∧ ∃ table other, solveTable [10, 100, 5, 50] = .ok table ∧
      solveTable [7, 8, 9, 100, 5, 50] = .ok other ∧ solve [100, 5, 50] = .ok 25000 ∧
      table.get 1 2 = .ok (some 25000) ∧ other.get 3 4 = .ok (some 25000) := by
  have hsolvable : IsSolvable [10, 100, 5, 50] := by decide
  have hother : IsSolvable [7, 8, 9, 100, 5, 50] := by decide
  obtain ⟨table, part, htable, -, -, -, ⟨cost, hcost, hcell⟩, hlists⟩ :=
    solveTable_subChain hsolvable (show 1 ≤ 2 by decide) (by decide)
  obtain ⟨other, htable', hsame⟩ := hlists _ 3 hother rfl
  have hsolve : solve [100, 5, 50] = .ok 25000 := by rfl
  obtain rfl : cost = 25000 := Except.ok.inj (hcost.symm.trans hsolve)
  exact ⟨hsolvable, table, other, htable, htable', hsolve, hcell,
    (hsame 0 1 (by decide) (by decide)).trans hcell⟩

/-- When no dimension of a list is larger than that of another one, no sub-chain costs more, nor
does the whole chain. -/
theorem solveTable_mono {xs : List α} {ys : List β} (hxs : IsSolvable xs) (hys : IsSolvable ys)
    (hlength : xs.length = ys.length)
    (hle : ∀ p < xs.length, dimensionAt xs p ≤ dimensionAt ys p) :
    ∃ table other, solveTable xs = .ok table ∧ solveTable ys = .ok other ∧
      (∀ i j, i ≤ j → j < xs.length - 1 → ∃ cost more, table.get i j = .ok (some cost) ∧
        other.get i j = .ok (some more) ∧ cost ≤ more) ∧
      ∃ cost more, solve xs = .ok cost ∧ solve ys = .ok more ∧ cost ≤ more := by
  have htwo := hxs.two_le_length
  have hmono (i span : Nat) (hspan : i + span < xs.length - 1) :
      leastCost (dimensionAt xs) i span ≤ leastCost (dimensionAt ys) i span :=
    leastCost_mono fun p hp ↦ hle (i + p) (by omega)
  obtain ⟨table, htable, -, hcell⟩ := hxs.exists_table
  obtain ⟨other, hother, -, hotherCell⟩ := hys.exists_table
  refine ⟨table, other, htable, hother, fun i j hij hj ↦ ?_, ?_⟩
  · exact ⟨_, _, hcell i j hij hj, hotherCell i j hij (by omega), hmono i (j - i) (by omega)⟩
  · refine ⟨_, _, hxs.solve_eq, hys.solve_eq, ?_⟩
    rw [← hlength]
    exact hmono 0 (xs.length - 2) (by omega)

/-- Three matrices are best multiplied from the left, and with two dimensions made larger from the
right; no sub-chain costs more before than after that. -/
theorem solveTable_mono_three :
    IsSolvable [10, 100, 5, 50] ∧ IsSolvable [200, 100, 200, 50] ∧
      ∃ table other, solveTable [10, 100, 5, 50] = .ok table ∧
        solveTable [200, 100, 200, 50] = .ok other ∧
        (∃ cost more, table.get 1 2 = .ok (some cost) ∧ other.get 1 2 = .ok (some more) ∧
          cost ≤ more) ∧
        solve [10, 100, 5, 50] = .ok 7500 ∧ solve [200, 100, 200, 50] = .ok 2000000 ∧
        7500 ≤ 2000000 := by
  have hsmall : IsSolvable [10, 100, 5, 50] := by decide
  have hlarge : IsSolvable [200, 100, 200, 50] := by decide
  obtain ⟨table, other, htable, hother, hcell, cost, more, hcost, hmore, hle⟩ :=
    solveTable_mono hsmall hlarge rfl (by decide)
  obtain rfl : cost = 7500 := Except.ok.inj (hcost.symm.trans (by rfl))
  obtain rfl : more = 2000000 := Except.ok.inj (hmore.symm.trans (by rfl))
  exact ⟨hsmall, hlarge, table, other, htable, hother, hcell 1 2 (by decide) (by decide), hcost,
    hmore, hle⟩

end ChainProduct
