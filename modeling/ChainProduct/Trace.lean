import ChainProduct.Layered

/-!
# Traces

The calls that a layered computation receives, with what each of them was given and what it gave
back. `Layered.traced` is the same computation with a record of its calls; that the number of
layers or a width was asked for is not recorded.
-/

namespace ChainProduct

/-- A call of an operation of a layered computation. -/
inductive Call (σ κ : Type) where
  /-- A frontier was made. -/
  | start (made : σ)
  /-- A cell was evaluated on a frontier. -/
  | cell (layer index : Nat) (seen : σ) (value : κ)
  /-- The values of a layer were stored. -/
  | store (layer : Nat) (values : List κ) (before after : σ)
  /-- The result was read off a frontier. -/
  | answer (seen : σ) (value : κ)
  deriving DecidableEq, Repr

/-- A checked computation that keeps the calls it made, the latest one first. -/
abbrev Tracing (σ κ : Type) := StateT (List (Call σ κ)) Checked

namespace Tracing

variable {σ κ α : Type}

/-- Keep one more call. -/
def record (call : Call σ κ) : Tracing σ κ Unit :=
  modify (call :: ·)

/-- The value of a traced computation and its calls in the order in which they were made. -/
def result (computation : Tracing σ κ α) : Checked (α × List (Call σ κ)) := do
  let (value, calls) ← computation.run []
  return (value, calls.reverse)

end Tracing

/-- The same computation with a record of its calls. -/
def Layered.traced {σ κ : Type} (problem : Layered Checked σ κ) : Layered (Tracing σ κ) σ κ where
  layers := problem.layers
  start := do
    let made ← problem.start
    Tracing.record (.start made)
    return made
  width layer := problem.width layer
  cell layer index seen := do
    let value ← problem.cell layer index seen
    Tracing.record (.cell layer index seen value)
    return value
  store layer values before := do
    let after ← problem.store layer values before
    Tracing.record (.store layer values before after)
    return after
  answer seen := do
    let value ← problem.answer seen
    Tracing.record (.answer seen value)
    return value

namespace Layered

variable {σ κ : Type} (problem : Layered Checked σ κ) (layer : Nat) (log : List (Call σ κ))

/-- That the number of layers was asked for is not recorded. -/
theorem run_layers_traced :
    problem.traced.layers.run log = do return (← problem.layers, log) :=
  rfl

/-- That a width was asked for is not recorded. -/
theorem run_width_traced :
    (problem.traced.width layer).run log = do return (← problem.width layer, log) :=
  rfl

/-- The start is recorded with the frontier that it made. -/
theorem run_start_traced :
    problem.traced.start.run log = do
      let made ← problem.start
      return (made, .start made :: log) := by
  simp only [traced]
  cases problem.start <;> rfl

/-- A cell is recorded with the frontier that it saw and its value. -/
theorem run_cell_traced (index : Nat) (seen : σ) :
    (problem.traced.cell layer index seen).run log = do
      let value ← problem.cell layer index seen
      return (value, .cell layer index seen value :: log) := by
  simp only [traced]
  cases problem.cell layer index seen <;> rfl

/-- Values are recorded when they are stored, with both frontiers. -/
theorem run_store_traced (values : List κ) (before : σ) :
    (problem.traced.store layer values before).run log = do
      let after ← problem.store layer values before
      return (after, .store layer values before after :: log) := by
  simp only [traced]
  cases problem.store layer values before <;> rfl

/-- The result is recorded with the frontier that it was read off. -/
theorem run_answer_traced (seen : σ) :
    (problem.traced.answer seen).run log = do
      let value ← problem.answer seen
      return (value, .answer seen value :: log) := by
  simp only [traced]
  cases problem.answer seen <;> rfl

end Layered

end ChainProduct
