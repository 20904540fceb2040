import ChainProduct.Layered

/-!
# Engines

An engine runs a layered computation. It knows from which width on a layer is worth sharing among
workers. No cell of a layer depends on another one, so the results never depend on this threshold:
`run_build` and `frontier_build` say so for every way to make an engine.
-/

namespace ChainProduct

/-- A layered computation with the least width from which its layers are worth sharing. -/
structure Engine (m : Type → Type) (σ κ : Type) where
  problem : Layered m σ κ
  threshold : Nat
  one_le_threshold : 1 ≤ threshold

namespace Engine

variable {m : Type → Type} {σ κ : Type}

/-- The threshold of an engine for which none is chosen. -/
def defaultThreshold : Nat := 64

/-- The engine with a chosen threshold; zero counts as one. -/
def withThreshold (problem : Layered m σ κ) (threshold : Nat) : Engine m σ κ :=
  { problem, threshold := max threshold 1, one_le_threshold := Nat.le_max_right threshold 1 }

/-- The engine with the default threshold. -/
def ofProblem (problem : Layered m σ κ) : Engine m σ κ :=
  withThreshold problem defaultThreshold

/-- What may be chosen when an engine is made. -/
structure Settings where
  threshold : Option Nat := none
  deriving DecidableEq, Repr

/-- The engine with the given settings; what is not chosen has its default. -/
def build (problem : Layered m σ κ) (settings : Settings) : Engine m σ κ :=
  withThreshold problem (settings.threshold.getD defaultThreshold)

variable [Monad m] [MonadExceptOf Fault m]

/-- The frontier after all layers. -/
def frontier (engine : Engine m σ κ) : m σ :=
  engine.problem.fill

/-- The result of the computation. -/
def run (engine : Engine m σ κ) : m κ :=
  engine.problem.solve

/-- The settings of an engine do not change the frontier it ends with. -/
theorem frontier_build (problem : Layered m σ κ) (settings : Settings) :
    (build problem settings).frontier = problem.fill :=
  rfl

/-- The settings of an engine do not change its result. -/
theorem run_build (problem : Layered m σ κ) (settings : Settings) :
    (build problem settings).run = problem.solve :=
  rfl

/-- The result is read off the last frontier. -/
theorem run_eq_answer_frontier (engine : Engine m σ κ) :
    engine.run = engine.frontier >>= engine.problem.answer :=
  rfl

end Engine

end ChainProduct
