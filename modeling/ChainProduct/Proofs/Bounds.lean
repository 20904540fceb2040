import ChainProduct.Proofs.Solve
import Mathlib.Algebra.BigOperators.Intervals
import Mathlib.Data.Set.Finite.Lemmas
import Mathlib.Order.Interval.Set.Basic

/-!
# Bounds on the least cost

The cost of multiplying a sub-chain from left to right is a sum with a closed form,
`leftToRightCost`, and the cost of one bracketing among the others, `Bracketing.leftToRight`. So it
bounds the least cost from above. When the dimensions never fall it is also a lower bound: the first
dimension of the right part of a product is at least that of the whole, so no product gains on the
one that takes its matrices one by one (`leftToRightCost_le_join`, and by induction on the
bracketing `Bracketing.leftToRightCost_le_cost`). The theorem `solveTable_leftToRight` says both
about every cell of a table.

Each bracketing has one product less than it has matrices. So the least cost of a sub-chain also
lies between as many cubes of its least and of its greatest dimension: `solveTable_between_cubes`.
-/

namespace ChainProduct

/-- The cost of multiplying the matrices from `i` to `j` from left to right: each matrix after the
first one is multiplied with the product of those before it, which has as many rows as the
first. -/
def leftToRightCost (d : Nat → Nat) (i j : Nat) : Nat :=
  d i * ∑ k ∈ Finset.Ioc i j, d k * d (k + 1)

/-- The bracketing that multiplies a matrix and `more` others from left to right. -/
def Bracketing.leftToRight : Nat → Bracketing
  | 0 => single
  | more + 1 => join (leftToRight more) single

variable {d : Nat → Nat}

/-! ## The cost from left to right -/

/-- A single matrix costs nothing. -/
@[simp] theorem leftToRightCost_self (d : Nat → Nat) (i : Nat) : leftToRightCost d i i = 0 := by
  simp [leftToRightCost]

/-- One matrix more costs one product more. -/
theorem leftToRightCost_succ {i j : Nat} (hij : i ≤ j) :
    leftToRightCost d i (j + 1) =
      leftToRightCost d i j + productCost (d i) (d (j + 1)) (d (j + 2)) := by
  rw [leftToRightCost, leftToRightCost, Finset.sum_Ioc_succ_top hij, Nat.mul_add, productCost,
    Nat.mul_assoc (d i)]

namespace Bracketing

@[simp] theorem size_leftToRight (more : Nat) : (leftToRight more).size = more + 1 := by
  induction more with
  | zero => rfl
  | succ more ih => rw [leftToRight, size, ih, size]

/-- The bracketing from left to right has the cost from left to right. -/
theorem cost_leftToRight (d : Nat → Nat) (i more : Nat) :
    (leftToRight more).cost d i = leftToRightCost d i (i + more) := by
  induction more with
  | zero => simp [leftToRight, cost]
  | succ more ih =>
      rw [leftToRight, cost, cost, ih, size_leftToRight, size, Nat.add_zero, ← Nat.add_assoc i,
        leftToRightCost_succ (Nat.le_add_right i more)]

end Bracketing

/-- The least cost is at most the cost from left to right. -/
theorem leastCost_le_leftToRightCost (d : Nat → Nat) (i span : Nat) :
    leastCost d i span ≤ leftToRightCost d i (i + span) := by
  have hle := (Bracketing.leftToRight span).leastCost_le_cost d i
  rwa [Bracketing.size_leftToRight, Nat.add_sub_cancel, Bracketing.cost_leftToRight] at hle

/-! ## Dimensions that never fall -/

/-- When the dimensions never fall, a last product that joins two parts costs no less than taking
the matrices of the second part one by one. -/
theorem leftToRightCost_le_join {i m j : Nat} (him : i ≤ m) (hmj : m < j)
    (hd : MonotoneOn d (Set.Icc i (j + 1))) :
    leftToRightCost d i j ≤ leftToRightCost d i m + leftToRightCost d (m + 1) j +
      productCost (d i) (d (m + 1)) (d (j + 1)) := by
  have hfirst : d i ≤ d (m + 1) := hd ⟨by omega, by omega⟩ ⟨by omega, by omega⟩ (by omega)
  have hlast : d (m + 2) ≤ d (j + 1) := hd ⟨by omega, by omega⟩ ⟨by omega, by omega⟩ (by omega)
  have hsum : ∑ k ∈ Finset.Ioc i j, d k * d (k + 1) =
      ∑ k ∈ Finset.Ioc i (m + 1), d k * d (k + 1) +
        ∑ k ∈ Finset.Ioc (m + 1) j, d k * d (k + 1) :=
    (Finset.sum_Ioc_consecutive _ (by omega) (by omega)).symm
  calc
    leftToRightCost d i j
      = leftToRightCost d i (m + 1) + d i * ∑ k ∈ Finset.Ioc (m + 1) j, d k * d (k + 1) := by
          rw [leftToRightCost, hsum, Nat.mul_add, leftToRightCost]
    _ = leftToRightCost d i m + productCost (d i) (d (m + 1)) (d (m + 2)) +
          d i * ∑ k ∈ Finset.Ioc (m + 1) j, d k * d (k + 1) := by
          rw [leftToRightCost_succ him]
    _ ≤ leftToRightCost d i m + productCost (d i) (d (m + 1)) (d (j + 1)) +
          leftToRightCost d (m + 1) j := by
          refine Nat.add_le_add (Nat.add_le_add_left ?_ _) ?_
          · exact Nat.mul_le_mul_left _ hlast
          · exact Nat.mul_le_mul_right _ hfirst
    _ = _ := Nat.add_right_comm _ _ _

/-- When the dimensions never fall, no bracketing costs less than the one from left to right. -/
theorem Bracketing.leftToRightCost_le_cost {i j : Nat} (b : Bracketing)
    (hsize : i + b.size = j + 1) (hd : MonotoneOn d (Set.Icc i (j + 1))) :
    leftToRightCost d i j ≤ b.cost d i := by
  induction b generalizing i j with
  | single =>
      obtain rfl : i = j := Nat.succ.inj hsize
      exact (leftToRightCost_self d i).le
  | join left right hleft hright =>
      have hl := left.one_le_size
      have hr := right.one_le_size
      rw [size] at hsize
      obtain ⟨m, hm⟩ : ∃ m, i + left.size = m + 1 := ⟨i + left.size - 1, by omega⟩
      have hend : m + 1 + right.size = j + 1 := by omega
      have hleft : leftToRightCost d i m ≤ left.cost d i :=
        hleft hm (hd.mono (Set.Icc_subset_Icc (Nat.le_refl i) (by omega)))
      have hright : leftToRightCost d (m + 1) j ≤ right.cost d (m + 1) :=
        hright hend (hd.mono (Set.Icc_subset_Icc (by omega) (Nat.le_refl _)))
      rw [cost, hm, hend]
      exact (leftToRightCost_le_join (by omega) (by omega) hd).trans
        (Nat.add_le_add_right (Nat.add_le_add hleft hright) _)

/-- When the dimensions never fall, the least cost is the one from left to right. -/
theorem leastCost_eq_leftToRightCost {i span : Nat}
    (hd : MonotoneOn d (Set.Icc i (i + span + 1))) :
    leastCost d i span = leftToRightCost d i (i + span) := by
  obtain ⟨b, hsize, hcost⟩ := Bracketing.exists_cost_eq_leastCost d i span
  refine Nat.le_antisymm (leastCost_le_leftToRightCost d i span) ?_
  rw [← hcost]
  exact b.leftToRightCost_le_cost (by omega) hd

/-! ## Lists of dimensions -/

variable {α : Type} [ToDimension α]

/-- Dimensions that are listed in order never fall. -/
theorem monotoneOn_dimensionAt {xs : List α}
    (hsorted : (xs.map ToDimension.value).Pairwise (· ≤ ·)) :
    MonotoneOn (dimensionAt xs) (Set.Iio xs.length) := by
  intro p hp q hq hpq
  rw [Set.mem_Iio] at hp hq
  rw [dimensionAt_of_lt hp, dimensionAt_of_lt hq]
  refine Int.toNat_le_toNat ?_
  rcases Nat.lt_or_eq_of_le hpq with hlt | rfl
  · exact List.pairwise_iff_getElem.mp (List.pairwise_map.mp hsorted) p q hp hq hlt
  · exact le_rfl

/-- No cell of the table costs more than multiplying its matrices from left to right. When the
dimensions are listed in order, every cell costs exactly that, and so does the whole chain. -/
theorem solveTable_leftToRight {xs : List α} (h : IsSolvable xs) :
    ∃ table, solveTable xs = .ok table ∧
      (∀ i j, i ≤ j → j < xs.length - 1 → ∃ cost, table.get i j = .ok (some cost) ∧
        cost ≤ leftToRightCost (dimensionAt xs) i j ∧
        (Bracketing.leftToRight (j - i)).cost (dimensionAt xs) i =
          leftToRightCost (dimensionAt xs) i j) ∧
      ((xs.map ToDimension.value).Pairwise (· ≤ ·) →
        (∀ i j, i ≤ j → j < xs.length - 1 →
          table.get i j = .ok (some (leftToRightCost (dimensionAt xs) i j))) ∧
        solve xs = .ok (leftToRightCost (dimensionAt xs) 0 (xs.length - 2))) := by
  have htwo := h.two_le_length
  obtain ⟨table, htable, -, hcell⟩ := h.exists_table
  refine ⟨table, htable, fun i j hij hj ↦ ⟨_, hcell i j hij hj, ?_, ?_⟩, fun hsorted ↦ ?_⟩
  · have hle := leastCost_le_leftToRightCost (dimensionAt xs) i (j - i)
    rwa [Nat.add_sub_of_le hij] at hle
  · rw [Bracketing.cost_leftToRight, Nat.add_sub_of_le hij]
  · have hleast (i span : Nat) (hspan : i + span < xs.length - 1) :
        leastCost (dimensionAt xs) i span = leftToRightCost (dimensionAt xs) i (i + span) := by
      refine leastCost_eq_leftToRightCost ((monotoneOn_dimensionAt hsorted).mono fun p hp ↦ ?_)
      have := hp.2
      rw [Set.mem_Iio]
      omega
    refine ⟨fun i j hij hj ↦ ?_, ?_⟩
    · rw [hcell i j hij hj, hleast i (j - i) (by omega), Nat.add_sub_of_le hij]
    · rw [h.solve_eq, hleast 0 (xs.length - 2) (by omega), Nat.zero_add]

/-- Three matrices cost at most what they cost from left to right, here a tenth of it, and exactly
that when their dimensions are listed in order. -/
theorem solveTable_leftToRight_three :
    IsSolvable [50, 5, 100, 10] ∧ IsSolvable [10, 20, 30, 40] ∧
      (∃ table, solveTable [50, 5, 100, 10] = .ok table ∧ table.get 0 2 = .ok (some 7500) ∧
        7500 ≤ leftToRightCost (dimensionAt [50, 5, 100, 10]) 0 2) ∧
      leftToRightCost (dimensionAt [50, 5, 100, 10]) 0 2 = 75000 ∧
      solve [10, 20, 30, 40] = .ok (10 * (20 * 30 + 30 * 40)) := by
  have hfalling : IsSolvable [50, 5, 100, 10] := by decide
  have hrising : IsSolvable [10, 20, 30, 40] := by decide
  obtain ⟨table, htable, hbound, -⟩ := solveTable_leftToRight hfalling
  obtain ⟨cost, hcost, hle, -⟩ := hbound 0 2 (by decide) (by decide)
  have hget : (solveTable [50, 5, 100, 10]).map (·.get 0 2) = .ok (.ok (some 7500)) := by rfl
  rw [htable] at hget
  obtain rfl : cost = 7500 := by simpa using hcost.symm.trans (Except.ok.inj hget)
  obtain ⟨other, -, -, hsorted⟩ := solveTable_leftToRight hrising
  exact ⟨hfalling, hrising, ⟨table, htable, hcost, hle⟩, by decide, (hsorted (by decide)).2⟩

/-! ## Dimensions between two numbers -/

/-- Between two positions a list has a least and a greatest dimension. -/
theorem exists_isLeast_isGreatest (d : Nat → Nat) {i j : Nat} (hij : i ≤ j) :
    ∃ least greatest,
      IsLeast (d '' Set.Icc i j) least ∧ IsGreatest (d '' Set.Icc i j) greatest := by
  have hfinite := Set.finite_Icc i j
  have hne : (Set.Icc i j).Nonempty := ⟨i, Nat.le_refl i, hij⟩
  obtain ⟨p, hp, hleast⟩ := Set.exists_min_image _ d hfinite hne
  obtain ⟨q, hq, hgreatest⟩ := Set.exists_max_image _ d hfinite hne
  exact ⟨d p, d q, ⟨Set.mem_image_of_mem d hp, Set.forall_mem_image.mpr fun r hr ↦ hleast r hr⟩,
    ⟨Set.mem_image_of_mem d hq, Set.forall_mem_image.mpr fun r hr ↦ hgreatest r hr⟩⟩

/-- The product of three equal dimensions is their cube. -/
theorem productCost_self (side : Nat) : productCost side side side = side ^ 3 :=
  (pow_three' side).symm

/-- The least cost lies between as many cubes of the least and of the greatest dimension as there
are products. -/
theorem leastCost_mem_Icc {i j least greatest : Nat} (hij : i ≤ j)
    (hleast : IsLeast (d '' Set.Icc i (j + 1)) least)
    (hgreatest : IsGreatest (d '' Set.Icc i (j + 1)) greatest) :
    leastCost d i (j - i) ∈ Set.Icc ((j - i) * least ^ 3) ((j - i) * greatest ^ 3) := by
  have hmem (p : Nat) (hp : p ≤ j - i + 1) : d (i + p) ∈ d '' Set.Icc i (j + 1) :=
    Set.mem_image_of_mem d ⟨by omega, by omega⟩
  rw [← productCost_self, ← productCost_self]
  exact ⟨le_leastCost fun p hp ↦ hleast.2 (hmem p hp),
    leastCost_le fun p hp ↦ hgreatest.2 (hmem p hp)⟩

/-- No sub-chain of a list costs as much as the 96th power of two for each of its matrices. -/
theorem IsSolvable.leastCost_lt {xs : List α} (h : IsSolvable xs) {i span : Nat}
    (hspan : i + span < xs.length - 1) :
    leastCost (dimensionAt xs) i span < (xs.length - 1) * 2 ^ 96 := by
  have hmost (p : Nat) (hp : p ≤ span + 1) : dimensionAt xs (i + p) ≤ maxDimension := by
    rw [dimensionAt_of_lt (show i + p < xs.length by omega)]
    have hdimension := (h.isDimension _ (List.getElem_mem (by omega : i + p < xs.length))).2
    omega
  calc
    leastCost (dimensionAt xs) i span
      ≤ span * productCost maxDimension maxDimension maxDimension := leastCost_le hmost
    _ ≤ span * 2 ^ 96 := Nat.mul_le_mul_left span (by decide)
    _ < (xs.length - 1) * 2 ^ 96 := Nat.mul_lt_mul_of_pos_right (by omega) (by decide)

/-- Each cell of the table lies between as many cubes of the least and of the greatest dimension of
its matrices as these have products. A chain all of whose dimensions are equal costs as many of
their cubes. No cost reaches the 96th power of two for each matrix, which is below the mark of unset
cells. -/
theorem solveTable_between_cubes {xs : List α} (h : IsSolvable xs) :
    ∃ table, solveTable xs = .ok table ∧
      (∀ i j, i ≤ j → j < xs.length - 1 → ∃ least greatest cost,
        IsLeast (dimensionAt xs '' Set.Icc i (j + 1)) least ∧
        IsGreatest (dimensionAt xs '' Set.Icc i (j + 1)) greatest ∧
        table.get i j = .ok (some cost) ∧
        (j - i) * least ^ 3 ≤ cost ∧ cost ≤ (j - i) * greatest ^ 3 ∧
        cost < (xs.length - 1) * 2 ^ 96) ∧
      (∃ cost, solve xs = .ok cost ∧ cost < (xs.length - 1) * 2 ^ 96) ∧
      (xs.length - 1) * 2 ^ 96 < unsetMark ∧
      ∀ side : Nat, (∀ x ∈ xs, ToDimension.value x = side) →
        solve xs = .ok ((xs.length - 2) * side ^ 3) := by
  have htwo := h.two_le_length
  obtain ⟨table, htable, -, hcell⟩ := h.exists_table
  refine ⟨table, htable, fun i j hij hj ↦ ?_, ?_, ?_, fun side hside ↦ ?_⟩
  · obtain ⟨least, greatest, hleast, hgreatest⟩ :=
      exists_isLeast_isGreatest (dimensionAt xs) (show i ≤ j + 1 by omega)
    obtain ⟨hlower, hupper⟩ := leastCost_mem_Icc hij hleast hgreatest
    exact ⟨least, greatest, _, hleast, hgreatest, hcell i j hij hj, hlower, hupper,
      h.leastCost_lt (by omega)⟩
  · exact ⟨_, h.solve_eq, h.leastCost_lt (by omega)⟩
  · have hmatrices := Table.side_lt_of_fits h.fits
    calc
      (xs.length - 1) * 2 ^ 96
        ≤ 0x4000_0000 * 2 ^ 96 := Nat.mul_le_mul_right _ hmatrices.le
      _ < unsetMark := by decide
  · have hsame (p : Nat) (hp : p ≤ xs.length - 2 + 1) : dimensionAt xs (0 + p) = side := by
      rw [dimensionAt_of_lt (show 0 + p < xs.length by omega), hside _ (List.getElem_mem _)]
      rfl
    rw [h.solve_eq, leastCost_congr (e := fun _ ↦ side) (j := 0) hsame, leastCost_const,
      productCost_self]

/-- Three matrices cost more than two cubes of their least dimension and less than two of their
greatest one, and exactly two cubes when all dimensions are equal. -/
theorem solveTable_between_cubes_three :
    IsSolvable [10, 100, 5, 50] ∧ IsSolvable [7, 7, 7, 7] ∧
      IsLeast (dimensionAt [10, 100, 5, 50] '' Set.Icc 0 3) 5 ∧
      IsGreatest (dimensionAt [10, 100, 5, 50] '' Set.Icc 0 3) 100 ∧
      (∃ table, solveTable [10, 100, 5, 50] = .ok table ∧ table.get 0 2 = .ok (some 7500) ∧
        2 * 5 ^ 3 ≤ 7500 ∧ 7500 ≤ 2 * 100 ^ 3) ∧
      solve [7, 7, 7, 7] = .ok (2 * 7 ^ 3) := by
  have hmixed : IsSolvable [10, 100, 5, 50] := by decide
  have hequal : IsSolvable [7, 7, 7, 7] := by decide
  have hbetween (p : Nat) (hp : p ≤ 3) :
      5 ≤ dimensionAt [10, 100, 5, 50] p ∧ dimensionAt [10, 100, 5, 50] p ≤ 100 := by
    revert p
    decide
  have hleast : IsLeast (dimensionAt [10, 100, 5, 50] '' Set.Icc 0 3) 5 :=
    ⟨⟨2, by decide, rfl⟩, Set.forall_mem_image.mpr fun p hp ↦ (hbetween p hp.2).1⟩
  have hgreatest : IsGreatest (dimensionAt [10, 100, 5, 50] '' Set.Icc 0 3) 100 :=
    ⟨⟨1, by decide, rfl⟩, Set.forall_mem_image.mpr fun p hp ↦ (hbetween p hp.2).2⟩
  obtain ⟨table, htable, hcell, -, -, -⟩ := solveTable_between_cubes hmixed
  obtain ⟨least, greatest, cost, hleast', hgreatest', hcost, hlower, hupper, -⟩ :=
    hcell 0 2 (by decide) (by decide)
  obtain rfl := hleast.unique hleast'
  obtain rfl := hgreatest.unique hgreatest'
  have hget : (solveTable [10, 100, 5, 50]).map (·.get 0 2) = .ok (.ok (some 7500)) := by rfl
  rw [htable] at hget
  obtain rfl : cost = 7500 := by simpa using hcost.symm.trans (Except.ok.inj hget)
  obtain ⟨-, -, -, -, -, hcube⟩ := solveTable_between_cubes hequal
  exact ⟨hmixed, hequal, hleast, hgreatest, ⟨table, htable, hcost, hlower, hupper⟩,
    hcube 7 (by decide)⟩

end ChainProduct
