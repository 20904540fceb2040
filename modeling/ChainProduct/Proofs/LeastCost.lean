import ChainProduct.Bracketing
import Mathlib.Data.Finset.Lattice.Fold
import Mathlib.Data.Fintype.Basic
import Mathlib.Order.Lattice.Nat

/-!
# The least cost of a sub-chain

`leastCost d i span` is the least cost of the matrices from `i` to `i + span`, by recursion on the
last multiplication. The main theorem, `isLeastCost_leastCost`, says that it is the least cost over
all bracketings: the principle of optimality, in both directions. Larger dimensions never make it
less (`leastCost_mono`). A bracketing of `span + 1` matrices has `span` products, so the least cost
lies between `span` of the smallest products and `span` of the largest ones (`le_leastCost`,
`leastCost_le`).
-/

namespace ChainProduct

/-- The least cost of the matrices from `i` to `i + span`: the last multiplication joins the
matrices up to some `i + left` with those after it. -/
def leastCost (d : Nat → Nat) (i span : Nat) : Nat :=
  match span with
  | 0 => 0
  | span + 1 =>
      Finset.univ.inf' Finset.univ_nonempty fun left : Fin (span + 1) ↦
        leastCost d i left + leastCost d (i + left + 1) (span - left) +
          productCost (d i) (d (i + left + 1)) (d (i + span + 2))
termination_by span

/-- The cost when the last multiplication joins the matrices from `i` to `i + left` with the
`right + 1` matrices after them, and both parts have their least cost. -/
def joinCost (d : Nat → Nat) (i left right : Nat) : Nat :=
  leastCost d i left + leastCost d (i + left + 1) right +
    productCost (d i) (d (i + left + 1)) (d (i + left + right + 2))

variable {d : Nat → Nat}

/-- A single matrix costs nothing. -/
@[simp] theorem leastCost_zero (d : Nat → Nat) (i : Nat) : leastCost d i 0 = 0 := by
  rw [leastCost]

/-- No last multiplication makes the cost less than the least one. -/
theorem leastCost_le_joinCost (d : Nat → Nat) (i left right : Nat) :
    leastCost d i (left + right + 1) ≤ joinCost d i left right := by
  rw [leastCost]
  refine (Finset.inf'_le _ (Finset.mem_univ ⟨left, by omega⟩)).trans (le_of_eq ?_)
  simp only [joinCost, Nat.add_sub_cancel_left]
  rw [show i + (left + right) + 2 = i + left + right + 2 by omega]

/-- Some last multiplication attains the least cost. -/
theorem exists_joinCost_eq (d : Nat → Nat) (i span : Nat) :
    ∃ left right, left + right = span ∧ leastCost d i (span + 1) = joinCost d i left right := by
  rw [leastCost]
  obtain ⟨⟨left, hleft⟩, -, hattained⟩ := Finset.exists_mem_eq_inf' Finset.univ_nonempty
    fun left : Fin (span + 1) ↦ leastCost d i left + leastCost d (i + left + 1) (span - left) +
      productCost (d i) (d (i + left + 1)) (d (i + span + 2))
  refine ⟨left, span - left, by omega, ?_⟩
  rw [hattained, joinCost, show i + left + (span - left) + 2 = i + span + 2 by omega]

namespace Bracketing

/-- The least cost is a lower bound: each part of a product costs at least its own least cost. -/
theorem leastCost_le_cost (d : Nat → Nat) (i : Nat) (b : Bracketing) :
    leastCost d i (b.size - 1) ≤ b.cost d i := by
  induction b generalizing i with
  | single => simp [size]
  | join left right hleft hright =>
      have hl := left.one_le_size
      have hr := right.one_le_size
      have hstart : i + (left.size - 1) + 1 = i + left.size := by omega
      have hstop : i + (left.size - 1) + (right.size - 1) + 2 = i + left.size + right.size := by
        omega
      calc
        leastCost d i ((join left right).size - 1)
          = leastCost d i (left.size - 1 + (right.size - 1) + 1) := by
              rw [size, show left.size + right.size - 1 =
                left.size - 1 + (right.size - 1) + 1 by omega]
        _ ≤ joinCost d i (left.size - 1) (right.size - 1) := leastCost_le_joinCost d i _ _
        _ ≤ (join left right).cost d i := by
              rw [joinCost, hstart, hstop, cost]
              exact Nat.add_le_add_right (Nat.add_le_add (hleft i) (hright _)) _

/-- The least cost is attained: join bracketings that attain the least costs of both parts. -/
theorem exists_cost_eq_leastCost (d : Nat → Nat) (i span : Nat) :
    ∃ b : Bracketing, b.size = span + 1 ∧ b.cost d i = leastCost d i span := by
  -- Both parts have a smaller span, and the second one has a start of its own.
  induction span using Nat.strong_induction_on generalizing i with
  | h span ih =>
      cases span with
      | zero => exact ⟨single, rfl, by simp [cost]⟩
      | succ span =>
          obtain ⟨l, r, hspan, hattained⟩ := exists_joinCost_eq d i span
          obtain ⟨left, hlsize, hlcost⟩ := ih l (by omega) i
          obtain ⟨right, hrsize, hrcost⟩ := ih r (by omega) (i + l + 1)
          refine ⟨join left right, by rw [size]; omega, ?_⟩
          rw [hattained, joinCost, cost, hlcost, hlsize, hrsize, ← Nat.add_assoc i l 1, hrcost,
            show i + l + 1 + (r + 1) = i + l + r + 2 by omega]

/-- When all dimensions are the same, every product costs the same, and a bracketing has one product
less than it has matrices. -/
theorem cost_const (side i : Nat) (b : Bracketing) :
    b.cost (fun _ ↦ side) i = (b.size - 1) * productCost side side side := by
  induction b generalizing i with
  | single => simp [cost, size]
  | join left right hleft hright =>
      have hl := left.one_le_size
      have hr := right.one_le_size
      rw [cost, hleft, hright, size,
        show left.size + right.size - 1 = left.size - 1 + (right.size - 1) + 1 by omega,
        Nat.add_mul, Nat.add_mul, Nat.one_mul]

/-- A bracketing costs no less when no dimension is less. -/
theorem cost_le_cost {e : Nat → Nat} {i j : Nat} (b : Bracketing)
    (h : ∀ p ≤ b.size, d (i + p) ≤ e (j + p)) : b.cost d i ≤ b.cost e j := by
  induction b generalizing i j with
  | single => exact Nat.le_refl 0
  | join left right hleft hright =>
      simp only [size] at h
      have hleft : left.cost d i ≤ left.cost e j := hleft fun p hp ↦ h p (by omega)
      have hright : right.cost d (i + left.size) ≤ right.cost e (j + left.size) :=
        hright fun p hp ↦ by
          rw [Nat.add_assoc, Nat.add_assoc]
          exact h (left.size + p) (by omega)
      have hproduct :
          productCost (d i) (d (i + left.size)) (d (i + left.size + right.size)) ≤
            productCost (e j) (e (j + left.size)) (e (j + left.size + right.size)) := by
        refine Nat.mul_le_mul (Nat.mul_le_mul (h 0 (by omega)) (h _ (by omega))) ?_
        rw [Nat.add_assoc, Nat.add_assoc]
        exact h (left.size + right.size) (Nat.le_refl _)
      exact Nat.add_le_add (Nat.add_le_add hleft hright) hproduct

end Bracketing

/-- The recurrence computes the least cost over all bracketings. -/
theorem isLeastCost_leastCost (d : Nat → Nat) {i j : Nat} (h : i ≤ j) :
    IsLeastCost d i j (leastCost d i (j - i)) := by
  constructor
  · obtain ⟨b, hsize, hcost⟩ := Bracketing.exists_cost_eq_leastCost d i (j - i)
    exact ⟨b, by omega, hcost⟩
  · intro b hsize
    rw [show j - i = b.size - 1 by omega]
    exact b.leastCost_le_cost d i

/-- There is one least cost. -/
theorem IsLeastCost.eq_leastCost {i j cost : Nat} (h : IsLeastCost d i j cost) (hij : i ≤ j) :
    cost = leastCost d i (j - i) := by
  obtain ⟨⟨b, hsize, hcost⟩, hbound⟩ := h
  obtain ⟨⟨b', hsize', hcost'⟩, hbound'⟩ := isLeastCost_leastCost d hij
  exact Nat.le_antisymm (hcost' ▸ hbound b' hsize') (hcost ▸ hbound' b hsize)

/-- One least cost is at most another one when each bracketing of the one has a counterpart for the
other that costs no more. -/
theorem leastCost_le_leastCost {e : Nat → Nat} {i j span : Nat}
    (h : ∀ b : Bracketing, b.size = span + 1 →
      ∃ b' : Bracketing, b'.size = span + 1 ∧ b'.cost e j ≤ b.cost d i) :
    leastCost e j span ≤ leastCost d i span := by
  obtain ⟨b, hsize, hcost⟩ := Bracketing.exists_cost_eq_leastCost d i span
  obtain ⟨b', hsize', hle⟩ := h b hsize
  calc
    leastCost e j span = leastCost e j (b'.size - 1) := by rw [hsize', Nat.add_sub_cancel]
    _ ≤ b'.cost e j := b'.leastCost_le_cost e j
    _ ≤ b.cost d i := hle
    _ = leastCost d i span := hcost

/-- The least cost is no less when no dimension is less: the bracketing that is best for the larger
dimensions costs no more on the smaller ones. -/
theorem leastCost_mono {e : Nat → Nat} {i j span : Nat}
    (h : ∀ p ≤ span + 1, d (i + p) ≤ e (j + p)) : leastCost d i span ≤ leastCost e j span :=
  leastCost_le_leastCost fun b hsize ↦ ⟨b, hsize, b.cost_le_cost fun p hp ↦ h p (hsize ▸ hp)⟩

/-- The least cost of a sub-chain depends on its own dimensions only. -/
theorem leastCost_congr {e : Nat → Nat} {i j span : Nat}
    (h : ∀ p ≤ span + 1, d (i + p) = e (j + p)) : leastCost d i span = leastCost e j span :=
  Nat.le_antisymm (leastCost_mono fun p hp ↦ (h p hp).le) (leastCost_mono fun p hp ↦ (h p hp).ge)

/-- When all dimensions are the same, the least cost is that of as many products as there are
matrices after the first one. -/
theorem leastCost_const (side i span : Nat) :
    leastCost (fun _ ↦ side) i span = span * productCost side side side := by
  obtain ⟨b, hsize, hcost⟩ := Bracketing.exists_cost_eq_leastCost (fun _ ↦ side) i span
  rw [← hcost, b.cost_const, hsize, Nat.add_sub_cancel]

/-- Dimensions that are no larger than `most` bound the least cost from above. -/
theorem leastCost_le {most i span : Nat} (hmost : ∀ p ≤ span + 1, d (i + p) ≤ most) :
    leastCost d i span ≤ span * productCost most most most := by
  rw [← leastCost_const most i]
  exact leastCost_mono hmost

/-- Dimensions that are no less than `least` bound the least cost from below. -/
theorem le_leastCost {least i span : Nat} (hleast : ∀ p ≤ span + 1, least ≤ d (i + p)) :
    span * productCost least least least ≤ leastCost d i span := by
  rw [← leastCost_const least i]
  exact leastCost_mono hleast

end ChainProduct
