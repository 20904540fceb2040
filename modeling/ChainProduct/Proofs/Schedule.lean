import ChainProduct.Engine
import ChainProduct.Trace
import Mathlib.Data.List.Forall2

/-!
# The schedule of an engine

Which calls an engine makes, for any layered computation and whatever its operations are. The
relation `Layered.Schedule problem count calls last` is the reference: a frontier is made, and then,
for each of the first `count` layers, all cells are evaluated on the frontier that the layers before
left, in the order of their indices, and their values are stored together.

The main theorem, `engine_follows_schedule`, says that an engine makes exactly these calls, however
it was made, and after them reads off its result once. It stops only with the fault of a call on a
frontier of the schedule, so the test of the number of cells never fails. What holds of the first
frontier and is kept by each layer holds of the last one.
-/

namespace ChainProduct

variable {σ κ α β γ : Type}

namespace Call

/-- The calls that evaluate the cells of a layer, which have the given values. -/
def cells (layer : Nat) (seen : σ) (values : List κ) : List (Call σ κ) :=
  values.mapIdx fun index value ↦ .cell layer index seen value

/-- The calls that evaluate the cells of a layer and store their values. -/
def ofLayer (layer : Nat) (seen : σ) (values : List κ) (after : σ) : List (Call σ κ) :=
  cells layer seen values ++ [.store layer values seen after]

/-- The values that a call stores. -/
def stored : Call σ κ → List κ
  | .store _ values _ _ => values
  | _ => []

/-- The calls of a layer store its values. -/
theorem flatMap_stored_ofLayer (layer : Nat) (seen : σ) (values : List κ) (after : σ) :
    (ofLayer layer seen values after).flatMap stored = values := by
  have hcells : (cells layer seen values : List (Call σ κ)).flatMap stored = [] := by
    rw [List.flatMap_eq_nil_iff]
    intro call hcall
    obtain ⟨index, hindex, rfl⟩ := List.mem_mapIdx.mp hcall
    rfl
  rw [ofLayer, List.flatMap_append, hcells]
  simp [stored]

end Call

namespace Layered

/-- The calls of a layered computation up to some layer, and the frontier after them. -/
inductive Schedule (problem : Layered Checked σ κ) : Nat → List (Call σ κ) → σ → Prop
  | start {made : σ} (hstart : problem.start = .ok made) : Schedule problem 0 [.start made] made
  | layer {count : Nat} {calls : List (Call σ κ)} {seen after : σ} {values : List κ}
      (hbefore : Schedule problem count calls seen)
      (hwidth : problem.width count = .ok values.length)
      (hcells : ∀ index value, values[index]? = some value →
        problem.cell count index seen = .ok value)
      (hstore : problem.store count values seen = .ok after) :
      Schedule problem (count + 1) (calls ++ Call.ofLayer count seen values after) after

/-- A call on a frontier of the schedule stops with a fault. -/
inductive Stops (problem : Layered Checked σ κ) (fault : Fault) : Prop
  | layers (h : problem.layers = .error fault)
  | start (h : problem.start = .error fault)
  | width {count : Nat} {calls : List (Call σ κ)} {seen : σ}
      (hbefore : problem.Schedule count calls seen) (h : problem.width count = .error fault)
  | cell {count width index : Nat} {calls : List (Call σ κ)} {seen : σ}
      (hbefore : problem.Schedule count calls seen) (hwidth : problem.width count = .ok width)
      (hindex : index < width) (h : problem.cell count index seen = .error fault)
  | store {count : Nat} {calls : List (Call σ κ)} {seen : σ} {values : List κ}
      (hbefore : problem.Schedule count calls seen)
      (hcells : problem.cells count seen = .ok values)
      (h : problem.store count values seen = .error fault)
  | answer {count : Nat} {calls : List (Call σ κ)} {last : σ}
      (hbefore : problem.Schedule count calls last) (h : problem.answer last = .error fault)

end Layered

/-- The engine is one of those that can be made for a computation, with any threshold. -/
def Engine.IsMadeFor {m : Type → Type} (engine : Engine m σ κ) (problem : Layered m σ κ) : Prop :=
  engine = .ofProblem problem ∨ (∃ threshold, engine = .withThreshold problem threshold) ∨
    ∃ settings, engine = .build problem settings

/-- An engine that was made for a computation runs it. -/
theorem Engine.IsMadeFor.eq_fill_and_solve {m : Type → Type} [Monad m] [MonadExceptOf Fault m]
    {engine : Engine m σ κ} {problem : Layered m σ κ} (h : engine.IsMadeFor problem) :
    engine.frontier = problem.fill ∧ engine.run = problem.solve := by
  rcases h with rfl | ⟨threshold, rfl⟩ | ⟨settings, rfl⟩
  · exact ⟨rfl, rfl⟩
  · exact ⟨rfl, rfl⟩
  · exact ⟨rfl, rfl⟩

/-! ## Steps one after another -/

/-- Steps one after another succeed exactly when each gives its result. -/
theorem mapM_eq_ok_iff {ε : Type} {step : α → Except ε β} {xs : List α} {ys : List β} :
    xs.mapM step = .ok ys ↔ List.Forall₂ (fun x y ↦ step x = .ok y) xs ys := by
  induction xs generalizing ys with
  | nil => simp [pure, Except.pure, eq_comm]
  | cons x xs ih =>
      rw [List.mapM_cons, bind_eq_ok_iff, List.forall₂_cons_left_iff]
      refine ⟨fun hsteps ↦ ?_, fun hsteps ↦ ?_⟩
      · obtain ⟨y, hy, hsteps⟩ := hsteps
        obtain ⟨rest, hrest, heq⟩ := bind_eq_ok_iff.mp hsteps
        exact ⟨y, rest, hy, ih.mp hrest, (Except.ok.inj heq).symm⟩
      · obtain ⟨y, rest, hy, hrest, rfl⟩ := hsteps
        exact ⟨y, hy, bind_eq_ok_iff.mpr ⟨rest, ih.mpr hrest, rfl⟩⟩

namespace Layered

variable {problem : Layered Checked σ κ} {layer count : Nat} {seen after last : σ}
  {values : List κ} {calls : List (Call σ κ)}

/-- The cells of a layer have values exactly when the layer has as many and each is that of its
index. -/
theorem cells_eq_ok_iff : problem.cells layer seen = .ok values ↔
    problem.width layer = .ok values.length ∧ ∀ index value, values[index]? = some value →
      problem.cell layer index seen = .ok value := by
  have hrange : List.Forall₂ (fun index value ↦ problem.cell layer index seen = .ok value)
      (List.range values.length) values ↔
      ∀ index value, values[index]? = some value → problem.cell layer index seen = .ok value := by
    rw [List.forall₂_iff_get]
    simp only [List.length_range, List.get_eq_getElem, List.getElem_range, true_and,
      List.getElem?_eq_some_iff]
    exact ⟨fun hall index value hvalue ↦ by
      obtain ⟨hindex, rfl⟩ := hvalue
      exact hall index hindex hindex, fun hall index hindex _ ↦ hall index _ ⟨hindex, rfl⟩⟩
  rw [cells, bind_eq_ok_iff]
  refine ⟨fun hcells ↦ ?_, fun hcells ↦ ?_⟩
  · obtain ⟨width, hwidth, hvalues⟩ := hcells
    rw [mapM_eq_ok_iff] at hvalues
    obtain rfl : width = values.length := by simpa using hvalues.length_eq
    exact ⟨hwidth, hrange.mp hvalues⟩
  · exact ⟨_, hcells.1, mapM_eq_ok_iff.mpr (hrange.mpr hcells.2)⟩

/-- Evaluate the cells of a layer and store their values, which need not be counted. -/
def step (problem : Layered Checked σ κ) (layer : Nat) (seen : σ) : Checked (List κ × σ) := do
  let values ← problem.cells layer seen
  let after ← problem.store layer values seen
  return (values, after)

/-- A layer is stepped over exactly when its cells have values that can be stored. -/
theorem step_eq_ok_iff : problem.step layer seen = .ok (values, after) ↔
    problem.cells layer seen = .ok values ∧ problem.store layer values seen = .ok after := by
  simp only [step, bind_eq_ok_iff]
  refine ⟨fun hstep ↦ ?_, fun hstep ↦ ⟨values, hstep.1, after, hstep.2, rfl⟩⟩
  obtain ⟨_, hcells, _, hstore, heq⟩ := hstep
  cases heq
  exact ⟨hcells, hstore⟩

/-- The values of a layer are always as many as its width. -/
theorem advance_eq_step (problem : Layered Checked σ κ) (seen : σ) (layer : Nat) :
    problem.advance seen layer = (problem.step layer seen).map Prod.snd := by
  unfold advance step
  cases hcells : problem.cells layer seen with
  | error fault => rfl
  | ok values =>
      have hwidth := (cells_eq_ok_iff.mp hcells).1
      cases hstore : problem.store layer values seen <;>
        simp [hwidth, hstore, bind, Except.bind, pure, Except.pure, Except.map]

/-! ## Traced calls -/

/-- Cells that are evaluated one after another are recorded one after another. -/
theorem run_mapM_cell_traced (problem : Layered Checked σ κ) (layer width : Nat) (seen : σ)
    (log : List (Call σ κ)) :
    ((List.range width).mapM fun index ↦ problem.traced.cell layer index seen).run log = do
      let values ← (List.range width).mapM fun index ↦ problem.cell layer index seen
      return (values, (Call.cells layer seen values).reverse ++ log) := by
  induction width with
  | zero => rfl
  | succ width ih =>
      rw [List.range_succ, List.mapM_append, List.mapM_append, StateT.run_bind, ih]
      cases hvalues : (List.range width).mapM fun index ↦ problem.cell layer index seen with
      | error fault => rfl
      | ok values =>
          -- The index of the next cell is the number of values before it.
          obtain rfl : width = values.length := by
            simpa using (mapM_eq_ok_iff.mp hvalues).length_eq
          simp [run_cell_traced, Call.cells]

/-- The calls of a layer are recorded in the order in which they are made. -/
theorem run_advance_traced (problem : Layered Checked σ κ) (layer : Nat) (seen : σ)
    (log : List (Call σ κ)) :
    (problem.traced.advance seen layer).run log = do
      let (values, after) ← problem.step layer seen
      return (after, (Call.ofLayer layer seen values after).reverse ++ log) := by
  have hrun : (problem.traced.cells layer seen).run log = do
      let values ← problem.cells layer seen
      return (values, (Call.cells layer seen values).reverse ++ log) := by
    simp [cells, run_width_traced, run_mapM_cell_traced]
  rw [advance, StateT.run_bind, hrun, step]
  cases hvalues : problem.cells layer seen with
  | error fault => rfl
  | ok values =>
      have hwidth := (cells_eq_ok_iff.mp hvalues).1
      simp [run_width_traced, run_store_traced, hwidth, Call.ofLayer]

/-- What is traced before a last step is followed by the calls of this step. -/
theorem result_bind {before : Tracing σ κ α} {next : α → Tracing σ κ β} {check : α → Checked γ}
    (value : γ → β) (more : α → γ → List (Call σ κ))
    (h : ∀ a log, (next a).run log = do
      let c ← check a
      return (value c, (more a c).reverse ++ log)) :
    Tracing.result (before >>= next) = do
      let (a, calls) ← before.result
      let c ← check a
      return (value c, calls ++ more a c) := by
  simp [Tracing.result, h]

/-- The calls of a run whose first layers are filled are followed by those of the next layer. -/
theorem result_fillFirst_succ (problem : Layered Checked σ κ) (count : Nat) :
    (problem.traced.fillFirst (count + 1)).result = do
      let (seen, calls) ← (problem.traced.fillFirst count).result
      let (values, after) ← problem.step count seen
      return (after, calls ++ Call.ofLayer count seen values after) := by
  rw [fillFirst_succ]
  exact result_bind Prod.snd (fun seen result ↦ Call.ofLayer count seen result.1 result.2)
    fun seen log ↦ run_advance_traced problem count seen log

/-- Before the first layer only the start is recorded. -/
theorem result_fillFirst_zero (problem : Layered Checked σ κ) :
    (problem.traced.fillFirst 0).result = do
      let made ← problem.start
      return (made, [.start made]) := by
  simp [Tracing.result, fillFirst, run_start_traced]

/-- The calls of a run are those of its layers. -/
theorem result_fill (problem : Layered Checked σ κ) :
    problem.traced.fill.result =
      problem.layers >>= fun count ↦ (problem.traced.fillFirst count).result := by
  simp [Tracing.result, fill, run_layers_traced]

/-- The result is read off the last frontier once, after all other calls. -/
theorem result_solve (problem : Layered Checked σ κ) :
    problem.traced.solve.result = do
      let (last, calls) ← problem.traced.fill.result
      let cost ← problem.answer last
      return (cost, calls ++ [.answer last cost]) :=
  result_bind id (fun last cost ↦ [.answer last cost]) fun last log ↦
    run_answer_traced problem log last

/-- That calls are recorded changes no frontier. -/
theorem fillFirst_eq_map_result (problem : Layered Checked σ κ) (count : Nat) :
    problem.fillFirst count = (problem.traced.fillFirst count).result.map Prod.fst := by
  induction count with
  | zero =>
      rw [result_fillFirst_zero]
      cases hstart : problem.start <;> simp [fillFirst, hstart, Except.map]
  | succ count ih =>
      rw [fillFirst_succ, ih, result_fillFirst_succ]
      cases (problem.traced.fillFirst count).result with
      | error fault => rfl
      | ok result =>
          show problem.advance result.1 count = _
          rw [advance_eq_step]
          cases hstep : problem.step count result.1 <;> simp [hstep, Except.map]

/-- So it changes no last frontier. -/
theorem fill_eq_map_result (problem : Layered Checked σ κ) :
    problem.fill = problem.traced.fill.result.map Prod.fst := by
  rw [fill, result_fill]
  cases hlayers : problem.layers with
  | error fault => rfl
  | ok count => exact fillFirst_eq_map_result problem count

/-- And it changes no result. -/
theorem solve_eq_map_result (problem : Layered Checked σ κ) :
    problem.solve = problem.traced.solve.result.map Prod.fst := by
  rw [solve, fill_eq_map_result, result_solve]
  cases problem.traced.fill.result with
  | error fault => rfl
  | ok result =>
      show problem.answer result.1 = _
      cases hanswer : problem.answer result.1 <;> simp [hanswer, Except.map]

/-! ## The schedule -/

/-- The first layers are filled exactly by the calls of the schedule. -/
theorem result_fillFirst_eq_ok_iff : (problem.traced.fillFirst count).result = .ok (last, calls) ↔
    problem.Schedule count calls last := by
  induction count generalizing calls last with
  | zero =>
      rw [result_fillFirst_zero, bind_eq_ok_iff]
      refine ⟨fun hresult ↦ ?_, fun hschedule ↦ ?_⟩
      · obtain ⟨made, hstart, heq⟩ := hresult
        cases heq
        exact .start hstart
      · cases hschedule with
        | start hstart => exact ⟨last, hstart, rfl⟩
  | succ count ih =>
      rw [result_fillFirst_succ, bind_eq_ok_iff]
      refine ⟨fun hresult ↦ ?_, fun hschedule ↦ ?_⟩
      · obtain ⟨⟨seen, before⟩, hbefore, hlayer⟩ := hresult
        obtain ⟨⟨values, after⟩, hstep, heq⟩ := bind_eq_ok_iff.mp hlayer
        obtain ⟨hvalues, hstore⟩ := step_eq_ok_iff.mp hstep
        obtain ⟨hwidth, hcells⟩ := cells_eq_ok_iff.mp hvalues
        cases heq
        exact .layer (ih.mp hbefore) hwidth hcells hstore
      · cases hschedule with
        | @layer _ _ seen _ values hbefore hwidth hcells hstore =>
            have hstep : problem.step count seen = .ok (values, last) :=
              step_eq_ok_iff.mpr ⟨cells_eq_ok_iff.mpr ⟨hwidth, hcells⟩, hstore⟩
            exact ⟨_, ih.mpr hbefore, bind_eq_ok_iff.mpr ⟨_, hstep, rfl⟩⟩

/-- A layer that cannot be stepped over has a call that stops. -/
theorem stops_of_step_eq_error {fault : Fault} (hbefore : problem.Schedule count calls seen)
    (h : problem.step count seen = .error fault) : problem.Stops fault := by
  rw [step, bind_eq_error_iff] at h
  rcases h with hcells | ⟨values, hvalues, hrest⟩
  · rw [cells, bind_eq_error_iff] at hcells
    rcases hcells with hwidth | ⟨width, hwidth, hvalues⟩
    · exact .width hbefore hwidth
    · obtain ⟨index, hindex, hcell⟩ := exists_mem_of_mapM_eq_error hvalues
      exact .cell hbefore hwidth (List.mem_range.mp hindex) hcell
  · rcases bind_eq_error_iff.mp hrest with hstore | ⟨after, -, hdone⟩
    · exact .store hbefore hvalues hstore
    · cases hdone

/-- A run whose first layers cannot be filled has a call that stops. -/
theorem stops_of_result_fillFirst_eq_error {fault : Fault}
    (h : (problem.traced.fillFirst count).result = .error fault) : problem.Stops fault := by
  induction count with
  | zero =>
      rw [result_fillFirst_zero, bind_eq_error_iff] at h
      rcases h with hstart | ⟨made, -, hdone⟩
      · exact .start hstart
      · cases hdone
  | succ count ih =>
      rw [result_fillFirst_succ, bind_eq_error_iff] at h
      rcases h with hbefore | ⟨before, hbefore, hlayer⟩
      · exact ih hbefore
      · rcases bind_eq_error_iff.mp hlayer with hstep | ⟨after, -, hdone⟩
        · exact stops_of_step_eq_error (result_fillFirst_eq_ok_iff.mp hbefore) hstep
        · cases hdone

/-- All layers are filled exactly by the calls of the schedule. -/
theorem result_fill_eq_ok_iff : problem.traced.fill.result = .ok (last, calls) ↔
    ∃ count, problem.layers = .ok count ∧ problem.Schedule count calls last := by
  rw [result_fill, bind_eq_ok_iff]
  exact exists_congr fun count ↦ and_congr_right fun _ ↦ result_fillFirst_eq_ok_iff

/-- A result is read off the last frontier, once and after all other calls. -/
theorem result_solve_eq_ok_iff {cost : κ} : problem.traced.solve.result = .ok (cost, calls) ↔
    ∃ last filled, problem.traced.fill.result = .ok (last, filled) ∧
      problem.answer last = .ok cost ∧ calls = filled ++ [.answer last cost] := by
  rw [result_solve, bind_eq_ok_iff]
  refine ⟨fun hresult ↦ ?_, fun hresult ↦ ?_⟩
  · obtain ⟨⟨last, filled⟩, hfill, hlast⟩ := hresult
    obtain ⟨value, hanswer, heq⟩ := bind_eq_ok_iff.mp hlast
    cases heq
    exact ⟨last, filled, hfill, hanswer, rfl⟩
  · obtain ⟨last, filled, hfill, hanswer, rfl⟩ := hresult
    exact ⟨_, hfill, bind_eq_ok_iff.mpr ⟨cost, hanswer, rfl⟩⟩

/-- A run that does not end with a frontier has a call that stops. -/
theorem stops_of_result_fill_eq_error {fault : Fault}
    (h : problem.traced.fill.result = .error fault) : problem.Stops fault := by
  rw [result_fill, bind_eq_error_iff] at h
  rcases h with hlayers | ⟨count, -, hfill⟩
  · exact .layers hlayers
  · exact stops_of_result_fillFirst_eq_error hfill

/-- A run that has no result has a call that stops. -/
theorem stops_of_result_solve_eq_error {fault : Fault}
    (h : problem.traced.solve.result = .error fault) : problem.Stops fault := by
  rw [result_solve, bind_eq_error_iff] at h
  rcases h with hfill | ⟨last, hfill, hrest⟩
  · exact stops_of_result_fill_eq_error hfill
  · obtain ⟨count, -, hschedule⟩ := result_fill_eq_ok_iff.mp hfill
    rcases bind_eq_error_iff.mp hrest with hanswer | ⟨cost, -, hdone⟩
    · exact .answer hschedule hanswer
    · cases hdone

/-- A run in which no call stops ends with a frontier and has a result. -/
theorem exists_result_of_not_stops (h : ∀ fault, ¬ problem.Stops fault) :
    ∃ last calls cost, problem.traced.fill.result = .ok (last, calls) ∧
      problem.traced.solve.result = .ok (cost, calls ++ [.answer last cost]) := by
  cases hsolve : problem.traced.solve.result with
  | error fault => exact absurd (stops_of_result_solve_eq_error hsolve) (h fault)
  | ok result =>
      obtain ⟨last, calls, hfill, -, hcalls⟩ := result_solve_eq_ok_iff.mp hsolve
      exact ⟨last, calls, result.1, hfill, congrArg _ (Prod.ext rfl hcalls)⟩

/-- What holds of the first frontier and is kept by each layer holds after any number of them. -/
theorem Schedule.invariant {Inv : Nat → σ → Prop} (h : problem.Schedule count calls last)
    (hstart : ∀ made, problem.start = .ok made → Inv 0 made)
    (hlayer : ∀ layer < count, ∀ seen values after, Inv layer seen →
      problem.cells layer seen = .ok values → problem.store layer values seen = .ok after →
      Inv (layer + 1) after) : Inv count last := by
  induction h with
  | start hmade => exact hstart _ hmade
  | @layer count _ seen after values _ hwidth hcells hstore ih =>
      have hseen : Inv count seen := ih fun layer h ↦ hlayer layer (Nat.lt_succ_of_lt h)
      exact hlayer count (Nat.lt_succ_self count) seen values after hseen
        (cells_eq_ok_iff.mpr ⟨hwidth, hcells⟩) hstore

/-- Where storing appends the values to what a frontier shows, it shows all values in the order in
which they were stored. -/
theorem Schedule.view_eq_append {view : σ → List κ} {made : σ}
    (h : problem.Schedule count calls last) (hmade : problem.start = .ok made)
    (hstore : ∀ layer values seen after, problem.store layer values seen = .ok after →
      view after = view seen ++ values) : view last = view made ++ calls.flatMap Call.stored := by
  induction h with
  | @start other hother =>
      obtain rfl : other = made := Except.ok.inj (hother.symm.trans hmade)
      simp [Call.stored]
  | layer _ _ _ hafter ih =>
      rw [hstore _ _ _ _ hafter, ih, List.flatMap_append, Call.flatMap_stored_ofLayer,
        List.append_assoc]

end Layered

/-! ## Engines -/

/-- An engine makes the calls of the schedule and no others, however it was made, and reads off its
result once, after them; that they are recorded changes nothing. It has a result unless a call on a
frontier of the schedule stops, and then it stops with the fault of that call. What each layer keeps
holds of its last frontier, and where storing appends, each frontier of the schedule shows what the
calls before it stored, in their order. -/
theorem engine_follows_schedule {problem : Layered Checked σ κ} {engine : Engine Checked σ κ}
    {traced : Engine (Tracing σ κ) σ κ} (hengine : engine.IsMadeFor problem)
    (htraced : traced.IsMadeFor problem.traced) :
    (engine.frontier = traced.frontier.result.map Prod.fst ∧
      engine.run = traced.run.result.map Prod.fst) ∧
    (∀ last calls, traced.frontier.result = .ok (last, calls) ↔
      ∃ count, problem.layers = .ok count ∧ problem.Schedule count calls last) ∧
    (∀ cost calls, traced.run.result = .ok (cost, calls) ↔
      ∃ last filled, traced.frontier.result = .ok (last, filled) ∧
        problem.answer last = .ok cost ∧ calls = filled ++ [.answer last cost]) ∧
    ((∀ fault, ¬ problem.Stops fault) → ∃ last calls cost,
      traced.frontier.result = .ok (last, calls) ∧
        traced.run.result = .ok (cost, calls ++ [.answer last cost])) ∧
    (∀ fault, traced.frontier.result = .error fault ∨ traced.run.result = .error fault →
      problem.Stops fault) ∧
    (∀ Inv : Nat → σ → Prop, (∀ made, problem.start = .ok made → Inv 0 made) →
      ∀ count, problem.layers = .ok count →
        (∀ layer < count, ∀ seen values after, Inv layer seen →
          problem.cells layer seen = .ok values → problem.store layer values seen = .ok after →
          Inv (layer + 1) after) →
        ∀ last, engine.frontier = .ok last → Inv count last) ∧
    (∀ view : σ → List κ, (∀ layer values seen after,
        problem.store layer values seen = .ok after → view after = view seen ++ values) →
      ∀ made, problem.start = .ok made → ∀ count calls seen, problem.Schedule count calls seen →
        view seen = view made ++ calls.flatMap Call.stored) := by
  obtain ⟨hfrontier, hrun⟩ := htraced.eq_fill_and_solve
  obtain ⟨hplain, hplainRun⟩ := hengine.eq_fill_and_solve
  rw [hfrontier, hrun, hplain, hplainRun]
  refine ⟨⟨problem.fill_eq_map_result, problem.solve_eq_map_result⟩,
    fun last calls ↦ Layered.result_fill_eq_ok_iff,
    fun cost calls ↦ Layered.result_solve_eq_ok_iff, Layered.exists_result_of_not_stops,
    fun fault hfault ↦ ?_, ?_, ?_⟩
  · cases hfault with
    | inl hfill => exact Layered.stops_of_result_fill_eq_error hfill
    | inr hsolve => exact Layered.stops_of_result_solve_eq_error hsolve
  · intro Inv hstart count hlayers hlayer last hlast
    rw [Layered.fill, hlayers, ok_bind, Layered.fillFirst_eq_map_result] at hlast
    cases hresult : (problem.traced.fillFirst count).result with
    | error fault => simp [hresult, Except.map] at hlast
    | ok result =>
        obtain rfl : result.1 = last := by simpa [hresult, Except.map] using hlast
        exact (Layered.result_fillFirst_eq_ok_iff.mp hresult).invariant hstart hlayer
  · intro view hstore made hmade count calls seen hcalls
    exact hcalls.view_eq_append hmade hstore

/-- An engine that appends, with an empty layer between two layers of two cells: the cells of the
last layer see the last value of the first one, and not each other's. -/
theorem engine_follows_schedule_appending :
    let problem : Layered Checked (List Nat) Nat :=
      { layers := .ok 3
        start := .ok [1]
        width := fun layer ↦ .ok (if layer = 1 then 0 else 2)
        cell := fun layer index seen ↦ .ok (seen.getLastD 0 + 10 * layer + index)
        store := fun _ values seen ↦ .ok (seen ++ values)
        answer := fun seen ↦ .ok (seen.getLastD 0) }
    let traced := Engine.build problem.traced { threshold := some 0 }
    ∃ calls, traced.frontier.result = .ok ([1, 1, 2, 22, 23], calls) ∧
      problem.Schedule 3 calls [1, 1, 2, 22, 23] ∧ calls.flatMap Call.stored = [1, 2, 22, 23] ∧
      traced.run.result = .ok (23, calls ++ [.answer [1, 1, 2, 22, 23] 23]) := by
  intro problem traced
  obtain ⟨-, hschedule, hresult, -, -, -, hview⟩ :=
    engine_follows_schedule (.inl rfl : (Engine.ofProblem problem).IsMadeFor problem)
      (.inr (.inr ⟨_, rfl⟩) : traced.IsMadeFor problem.traced)
  obtain ⟨calls, hfrontier⟩ : ∃ calls,
      traced.frontier.result = .ok ([1, 1, 2, 22, 23], calls) := ⟨_, rfl⟩
  obtain ⟨count, hcount, hcalls⟩ := (hschedule _ _).mp hfrontier
  obtain rfl : 3 = count := Except.ok.inj hcount
  refine ⟨calls, hfrontier, hcalls, ?_, (hresult _ _).mpr ⟨_, _, hfrontier, rfl, rfl⟩⟩
  have happends : ∀ layer values seen after, problem.store layer values seen = .ok after →
      after = seen ++ values := fun _ _ _ _ hstore ↦ (Except.ok.inj hstore).symm
  exact (List.cons.inj (hview id happends [1] rfl 3 calls _ hcalls)).2.symm

end ChainProduct
