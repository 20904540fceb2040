import ChainProduct.Recurrence

/-!
# Solving lists of dimensions

The least cost of a product of matrices, and the table of all sub-chains, straight from a list of
numbers. A list that is no chain is refused with its cause; a chain can only fail by a fault.
-/

namespace ChainProduct

/-- Why there is no answer. -/
inductive SolveError where
  /-- The input is refused. -/
  | input (cause : InputError)
  /-- The computation stopped. -/
  | fault (cause : Fault)
  deriving DecidableEq, Repr

/-- The outcome of a request for an answer. -/
abbrev Solved := Except SolveError

/-- What a checked computation on a valid input makes of it. -/
def Solved.ofInput {α β : Type} (input : Except InputError α) (compute : α → Checked β) :
    Solved β := do
  let value ← input.mapError .input
  (compute value).mapError .fault

variable {α : Type} [ToDimension α]

/-- The least number of scalar multiplications for a list of dimensions. -/
def solve (xs : List α) : Solved Nat :=
  Solved.ofInput (Chain.ofList xs) Chain.minCost

/-- The costs of all sub-chains for a list of dimensions. -/
def solveTable (xs : List α) : Solved Table :=
  Solved.ofInput (Chain.ofList xs) Chain.costs

end ChainProduct
