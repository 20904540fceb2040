import ChainProduct.Proofs.Solve
import Mathlib.Algebra.Ring.Periodic
import Mathlib.Data.List.Rotate
import Mathlib.Order.Monotone.Basic

/-!
# Symmetries of the least cost

The least cost of a list of dimensions stays the same when the list is turned round or reversed. Two
operations on bracketings account for it. `Bracketing.mirror` swaps the parts of every product; its
cost is that of the bracketing on the reversed dimensions (`cost_mirror`). `Bracketing.turn` follows
the first matrix down and closes the ring of dimensions there; its cost is that of the bracketing on
the ring entered one dimension later (`cost_turn`).

The main theorems are about lists. `solve_rotate` says that no rotation changes the least cost, and
`solveTable_reverse` that the table of a reversed list is the mirror image of the table of the list,
cell by cell.
-/

namespace ChainProduct

variable {d e : Nat → Nat}

namespace Bracketing

/-! ## Mirror images -/

/-- The bracketing of the matrices in reverse order. -/
def mirror : Bracketing → Bracketing
  | single => single
  | join left right => join right.mirror left.mirror

@[simp] theorem size_mirror (b : Bracketing) : b.mirror.size = b.size := by
  induction b with
  | single => rfl
  | join left right hleft hright => simp only [mirror, size, hleft, hright, Nat.add_comm]

/-- On reversed dimensions the mirror image costs the same: its last product has the same factors,
with the outer ones exchanged. -/
theorem cost_mirror {i j : Nat} (b : Bracketing)
    (h : ∀ p ≤ b.size, e (j + p) = d (i + (b.size - p))) : b.mirror.cost e j = b.cost d i := by
  induction b generalizing i j with
  | single => rfl
  | join left right hleft hright =>
      simp only [size] at h
      have hright : right.mirror.cost e j = right.cost d (i + left.size) :=
        hright fun p hp ↦ by
          rw [h p (by omega)]
          congr 1
          omega
      have hleft : left.mirror.cost e (j + right.size) = left.cost d i :=
        hleft fun p hp ↦ by
          rw [Nat.add_assoc, h (right.size + p) (by omega)]
          congr 2
          omega
      have hfirst : e j = d (i + left.size + right.size) := by
        rw [Nat.add_assoc]
        exact h 0 (Nat.zero_le _)
      have hmiddle : e (j + right.size) = d (i + left.size) := by
        rw [h right.size (by omega), Nat.add_sub_cancel]
      have hlast : e (j + right.size + left.size) = d i := by
        rw [Nat.add_assoc, h (right.size + left.size) (by omega)]
        congr 1
        omega
      rw [mirror, cost, cost, size_mirror, size_mirror, hleft, hright, hfirst, hmiddle, hlast,
        productCost_reverse, Nat.add_comm (right.cost d _)]

/-! ## Turning the ring of dimensions -/

/-- The bracketing with its first matrix taken off, where `rest` brackets the matrices behind it:
each product on the way down to the first matrix becomes one of its second part with what lies
behind that. -/
def turn : Bracketing → Bracketing → Bracketing
  | single, rest => rest
  | join left right, rest => left.turn (join right rest)

/-- Turning takes one matrix off. -/
theorem size_turn (b rest : Bracketing) : (b.turn rest).size + 1 = b.size + rest.size := by
  induction b generalizing rest with
  | single => exact Nat.add_comm _ _
  | join left right hleft _ =>
      rw [turn, hleft, size, size, Nat.add_assoc]

/-- When the dimensions close to a ring behind `rest`, turning keeps the cost: a product on the way
to the first matrix has the first dimension of the ring among its factors, before and after. -/
theorem cost_turn {i : Nat} (b rest : Bracketing) (h : d (i + b.size + rest.size) = d i) :
    (b.turn rest).cost d (i + 1) = b.cost d i + rest.cost d (i + b.size) := by
  induction b generalizing rest with
  | single => simp only [turn, cost, size, Nat.zero_add]
  | join left right hleft _ =>
      have hring : d (i + left.size + (join right rest).size) = d i := by
        rw [← h]
        simp only [size, Nat.add_assoc]
      have hend : d (i + left.size + right.size + rest.size) = d i := by
        rw [← h, size, Nat.add_assoc i left.size right.size]
      rw [turn, hleft (join right rest) hring, cost, cost, hend, productCost_rotate, size,
        ← Nat.add_assoc i]
      omega

end Bracketing

/-! ## Least costs -/

/-- Reversing the dimensions of a sub-chain makes its least cost no larger. -/
theorem leastCost_le_of_reverse {i j span : Nat}
    (h : ∀ p ≤ span + 1, e (j + p) = d (i + (span + 1 - p))) :
    leastCost e j span ≤ leastCost d i span := by
  refine leastCost_le_leastCost fun b hsize ↦ ⟨b.mirror, by rw [b.size_mirror, hsize], ?_⟩
  rw [b.cost_mirror (by rwa [hsize])]

/-- The least cost of a sub-chain is that of its reversed dimensions. -/
theorem leastCost_reverse {i j span : Nat}
    (h : ∀ p ≤ span + 1, e (j + p) = d (i + (span + 1 - p))) :
    leastCost e j span = leastCost d i span := by
  refine Nat.le_antisymm (leastCost_le_of_reverse h) (leastCost_le_of_reverse fun p hp ↦ ?_)
  rw [h (span + 1 - p) (by omega), Nat.sub_sub_self hp]

/-- Entering a ring of dimensions one later makes the least cost no larger. -/
theorem leastCost_succ_le {i span : Nat} (h : d (i + (span + 2)) = d i) :
    leastCost d (i + 1) span ≤ leastCost d i span := by
  refine leastCost_le_leastCost fun b hsize ↦ ⟨b.turn .single, ?_, ?_⟩
  · have hturn := b.size_turn .single
    rw [Bracketing.size] at hturn
    omega
  · refine Nat.le_of_eq (b.cost_turn .single ?_)
    rw [hsize, Bracketing.size]
    exact h

/-- The least cost of a ring of dimensions does not depend on where it is entered: it never grows
from one entry to the next, and after a whole turn it is what it was. -/
theorem leastCost_eq_of_periodic {span : Nat} (h : Function.Periodic d (span + 2)) (i : Nat) :
    leastCost d i span = leastCost d 0 span := by
  have hanti : Antitone fun i ↦ leastCost d i span :=
    antitone_nat_of_succ_le fun i ↦ leastCost_succ_le (h i)
  have hperiodic : Function.Periodic (fun i ↦ leastCost d i span) (span + 2) := fun i ↦
    leastCost_congr fun p _ ↦ by rw [Nat.add_right_comm, h]
  refine Nat.le_antisymm (hanti (Nat.zero_le i)) ?_
  calc
    leastCost d 0 span = leastCost d (i * (span + 2)) span := (hperiodic.nat_mul_eq i).symm
    _ ≤ leastCost d i span := hanti (Nat.le_mul_of_pos_right i (Nat.succ_pos _))

/-! ## Lists of dimensions -/

variable {α : Type} [ToDimension α]

/-- A rotated list has its dimensions later in the ring of the list. -/
theorem dimensionAt_rotate {xs : List α} {position : Nat} (turns : Nat)
    (h : position < xs.length) :
    dimensionAt (xs.rotate turns) position = dimensionAt xs ((turns + position) % xs.length) := by
  have hring : (turns + position) % xs.length < xs.length := Nat.mod_lt _ (by omega)
  rw [dimensionAt_of_lt (by rwa [List.length_rotate]), dimensionAt_of_lt hring]
  simp only [List.getElem_rotate, Nat.add_comm turns]

/-- A reversed list has its dimensions from the end of the list. -/
theorem dimensionAt_reverse {xs : List α} {position : Nat} (h : position < xs.length) :
    dimensionAt xs.reverse position = dimensionAt xs (xs.length - 1 - position) := by
  rw [dimensionAt_of_lt (by rwa [List.length_reverse]), dimensionAt_of_lt (by omega),
    List.getElem_reverse]

/-- No rotation of the dimensions changes the least cost, nor does moving the first one to the
end. -/
theorem solve_rotate {xs : List α} (h : IsSolvable xs) :
    ∃ cost, solve xs = .ok cost ∧ (∀ turns, solve (xs.rotate turns) = .ok cost) ∧
      ∀ first rest, xs = first :: rest → solve (rest ++ [first]) = .ok cost := by
  have hlength := h.two_le_length
  -- The ring of the dimensions; a rotated list is the ring entered at another place.
  let ring (position : Nat) : Nat := dimensionAt xs (position % xs.length)
  have hring : Function.Periodic ring (xs.length - 2 + 2) := fun position ↦ by
    simp only [ring, Nat.sub_add_cancel hlength, Nat.add_mod_right]
  have hrotated (turns : Nat) :
      solve (xs.rotate turns) = .ok (leastCost ring 0 (xs.length - 2)) := by
    have hsolve := (h.perm (List.rotate_perm xs turns)).solve_eq
    rw [List.length_rotate] at hsolve
    rw [hsolve, ← leastCost_eq_of_periodic hring turns]
    refine congrArg Except.ok (leastCost_congr fun p hp ↦ ?_)
    rw [Nat.zero_add, dimensionAt_rotate turns (by omega)]
  refine ⟨_, by simpa using hrotated 0, hrotated, fun first rest hxs ↦ ?_⟩
  have hone := hrotated 1
  rwa [show xs.rotate 1 = rest ++ [first] by simp [hxs]] at hone

/-- Three matrices whose dimensions are turned round by two have other products, but the same least
cost. -/
theorem solve_rotate_three :
    IsSolvable [10, 100, 5, 50] ∧ solve [10, 100, 5, 50] = .ok 7500 ∧
      solve [5, 50, 10, 100] = .ok 7500 := by
  have hsolvable : IsSolvable [10, 100, 5, 50] := ⟨by decide, by decide, by decide⟩
  have hsolve : solve [10, 100, 5, 50] = .ok 7500 := by rfl
  obtain ⟨cost, hcost, hrotated, -⟩ := solve_rotate hsolvable
  obtain rfl : 7500 = cost := by simpa [hsolve] using hcost
  exact ⟨hsolvable, hsolve, hrotated 2⟩

/-- The table of the reversed dimensions is the mirror image of the table, cell by cell, so the
least cost of the whole chain is the same. -/
theorem solveTable_reverse {xs : List α} (h : IsSolvable xs) :
    ∃ table mirrored, solveTable xs = .ok table ∧ solveTable xs.reverse = .ok mirrored ∧
      (∀ i j, i ≤ j → j < xs.length - 1 →
        ∃ cost, mirrored.get i j = .ok (some cost) ∧
          table.get (xs.length - 2 - j) (xs.length - 2 - i) = .ok (some cost)) ∧
      ∃ cost, solve xs = .ok cost ∧ solve xs.reverse = .ok cost := by
  have hlength := h.two_le_length
  have hreversed := h.perm (List.reverse_perm xs)
  obtain ⟨table, htable, -, hcell⟩ := h.exists_table
  obtain ⟨mirrored, hmirrored, -, hmirroredCell⟩ := hreversed.exists_table
  have hsolve := hreversed.solve_eq
  simp only [List.length_reverse] at hmirroredCell hsolve
  refine ⟨table, mirrored, htable, hmirrored, fun i j hij hj ↦ ⟨_, hmirroredCell i j hij hj, ?_⟩,
    _, h.solve_eq, ?_⟩
  · rw [hcell _ _ (by omega) (by omega)]
    refine congrArg (Except.ok ∘ some) ?_
    rw [show xs.length - 2 - i - (xs.length - 2 - j) = j - i by omega]
    refine (leastCost_reverse fun p hp ↦ ?_).symm
    rw [dimensionAt_reverse (by omega)]
    congr 1
    omega
  · rw [hsolve]
    refine congrArg Except.ok (leastCost_reverse fun p hp ↦ ?_)
    rw [dimensionAt_reverse (by omega)]
    congr 1
    omega

/-- For three matrices, the product of the first two in reverse order costs what that of the last
two costs. -/
theorem solveTable_reverse_three :
    IsSolvable [10, 100, 5, 50] ∧ ∃ table mirrored,
      solveTable [10, 100, 5, 50] = .ok table ∧ solveTable [50, 5, 100, 10] = .ok mirrored ∧
      table.get 1 2 = .ok (some 25000) ∧ mirrored.get 0 1 = .ok (some 25000) := by
  have hsolvable : IsSolvable [10, 100, 5, 50] := ⟨by decide, by decide, by decide⟩
  obtain ⟨table, mirrored, htable, hmirrored, hcell, -⟩ := solveTable_reverse hsolvable
  obtain ⟨cost, hcost, hother⟩ := hcell 0 1 (by decide) (by decide)
  have hget : (solveTable [10, 100, 5, 50]).map (·.get 1 2) = .ok (.ok (some 25000)) := by rfl
  rw [htable] at hget
  have hget : table.get 1 2 = .ok (some 25000) := Except.ok.inj hget
  obtain rfl : cost = 25000 := by simpa using hother.symm.trans hget
  exact ⟨hsolvable, table, mirrored, htable, hmirrored, hget, hcost⟩

end ChainProduct
