import ChainProduct.Fault

/-!
# Layered computations

A layered computation groups its cells into layers. Each cell of a layer depends on what the
earlier layers left behind, the frontier, and on no other cell of its own layer. `Layered.fill`
starts a frontier and then, one layer after the other, evaluates all cells of the layer on the
frontier and stores them together. The operations live in a monad, so that a computation may stop
with a fault or keep a record of its calls.
-/

namespace ChainProduct

/-- A layered computation with frontiers in `σ` and cell values in `κ`. -/
structure Layered (m : Type → Type) (σ κ : Type) where
  /-- The number of layers. -/
  layers : m Nat
  /-- The frontier before the first layer. -/
  start : m σ
  /-- The number of cells of a layer. -/
  width : Nat → m Nat
  /-- The value of a cell, given by its layer and its index there, on a frontier. -/
  cell : Nat → Nat → σ → m κ
  /-- The frontier after the values of a layer, in the order of their indices, are stored. -/
  store : Nat → List κ → σ → m σ
  /-- The result on a frontier that holds every layer. -/
  answer : σ → m κ

namespace Layered

variable {m : Type → Type} {σ κ : Type} [Monad m] [MonadExceptOf Fault m]

/-- The values of the cells of a layer, all of them on the same frontier. -/
def cells (problem : Layered m σ κ) (layer : Nat) (frontier : σ) : m (List κ) := do
  (List.range (← problem.width layer)).mapM fun index ↦ problem.cell layer index frontier

/-- The frontier after one more layer, whose number of cells has to be its width. -/
def advance (problem : Layered m σ κ) (frontier : σ) (layer : Nat) : m σ := do
  let values ← problem.cells layer frontier
  if values.length = (← problem.width layer) then
    problem.store layer values frontier
  else
    throwThe Fault .wrongWidth

/-- The frontier after the first layers. -/
def fillFirst (problem : Layered m σ κ) (count : Nat) : m σ := do
  (List.range count).foldlM problem.advance (← problem.start)

/-- The frontier after all layers. -/
def fill (problem : Layered m σ κ) : m σ := do
  problem.fillFirst (← problem.layers)

/-- The result of the computation. -/
def solve (problem : Layered m σ κ) : m κ := do
  problem.answer (← problem.fill)

/-- One layer more is filled on the frontier that the layers before it leave. -/
theorem fillFirst_succ [LawfulMonad m] (problem : Layered m σ κ) (count : Nat) :
    problem.fillFirst (count + 1) =
      problem.fillFirst count >>= fun seen ↦ problem.advance seen count := by
  simp [fillFirst, List.range_succ]

end Layered

end ChainProduct
