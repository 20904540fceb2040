import ChainProduct.Chain

/-!
# Bracketings

The order in which the matrices of a chain are multiplied is a full bracketing: a single matrix, or
the product of two bracketings of neighbouring parts. Its cost is the number of scalar
multiplications of all its products. The size of a bracketing is at least one (`one_le_size`), so
no part of a product is empty.
-/

namespace ChainProduct

/-- A full bracketing of one or more matrices, which keep their order. -/
inductive Bracketing where
  | single
  | join (left right : Bracketing)
  deriving DecidableEq, Repr

namespace Bracketing

/-- The number of matrices. -/
def size : Bracketing → Nat
  | single => 1
  | join left right => left.size + right.size

/-- The number of scalar multiplications when the first matrix is matrix `i` and matrix `k` is
`d k × d (k + 1)`. -/
def cost (d : Nat → Nat) (i : Nat) : Bracketing → Nat
  | single => 0
  | join left right =>
      left.cost d i + right.cost d (i + left.size) +
        productCost (d i) (d (i + left.size)) (d (i + left.size + right.size))

/-- A bracketing holds at least one matrix. -/
theorem one_le_size (b : Bracketing) : 1 ≤ b.size := by
  induction b with
  | single => exact Nat.le_refl 1
  | join left right hleft hright => simp only [size]; omega

end Bracketing

/-- The number is the least cost of the matrices from `i` to `j`: a bracketing attains it, and none
costs less. -/
def IsLeastCost (d : Nat → Nat) (i j cost : Nat) : Prop :=
  (∃ b : Bracketing, i + b.size = j + 1 ∧ b.cost d i = cost) ∧
    ∀ b : Bracketing, i + b.size = j + 1 → cost ≤ b.cost d i

end ChainProduct
