/-
# The rig

Runners stand on a rig: the bench, the results that realized groups have left, and
all runners, one of which is the current one. Code run by a runner can therefore
register with any runner, its own included.
-/

import DeferredSpec.Suite.Runner

namespace DeferredSpec

/-- A bench with the results of groups and the runners. -/
structure Rig (ρ : Type) where
  bench : Bench := {}
  cells : Array (Option Value) := #[]
  runners : Array ρ := #[]
  current : RunnerRef := ⟨0⟩

namespace Rig

variable {ρ α β : Type}

instance : Inhabited (Rig ρ) := ⟨{}⟩

/-- Execute something on the bench; results and runners stay as they are. -/
def execute (execution : Execution α) : Effect (Rig ρ) α :=
  Effect.zoom Rig.bench (fun bench rig => { rig with bench := bench }) execution

/-- Do something to the world. -/
def act (action : Action α) : Effect (Rig ρ) α := execute (Execution.ofAction action)

/-- Run an effect and catch an ordinary error. -/
def capture (effect : Effect (Rig ρ) α) : Effect (Rig ρ) (Outcome α) := do
  let outcome ← effect.attempt
  match outcome with
  | .returned value => pure (.returned value)
  | .raised error => do
      let isCaught ← act (Effect.read fun world => world.isOrdinary error)
      if isCaught then pure (.raised error) else Effect.raise error

/-- Make room for the result of a group. -/
def newCell : Effect (Rig ρ) CellRef :=
  Effect.update fun rig => (⟨rig.cells.size⟩, { rig with cells := rig.cells.push none })

/-- Leave the result of a group. -/
def setCell (cell : CellRef) (value : Value) : Effect (Rig ρ) Unit :=
  Effect.modify fun rig => { rig with cells := rig.cells.setIfInBounds cell.index (some value) }

/-- The result that a group left, which fails if its hook has not run. -/
def cellValue (cell : CellRef) : Effect (Rig ρ) Value := do
  let value ← Effect.read fun rig => (rig.cells[cell.index]?).join
  match value with
  | some value => pure value
  | none => act (Action.fail .noResult)

/-- The result of the node above. -/
def read : Source → Effect (Rig ρ) Value
  | .produced make => act make
  | .kept cell => cellValue cell

/-- Change a runner together with the world. -/
def changeRunner (runner : RunnerRef) (change : ρ → World → ρ × World) : Effect (Rig ρ) Unit :=
  Effect.modify fun rig =>
    match rig.runners[runner.index]? with
    | none => rig
    | some found =>
        let changed := change found rig.bench.world
        { rig with
          bench := { rig.bench with world := changed.2 }
          runners := rig.runners.setIfInBounds runner.index changed.1 }

@[simp] theorem execute_apply (execution : Execution α) (rig : Rig ρ) :
    execute execution rig =
      ((execution rig.bench).1, { rig with bench := (execution rig.bench).2 }) := rfl

@[simp] theorem act_apply (action : Action α) (rig : Rig ρ) :
    act action rig =
      ((action rig.bench.world).1,
        { rig with bench := { rig.bench with world := (action rig.bench.world).2 } }) := rfl

@[simp] theorem execute_pure (value : α) : execute (pure value) = (pure value : Effect (Rig ρ) α) :=
  rfl

/-- Executions in sequence are executed in sequence. -/
theorem execute_bind (first : Execution α) (next : α → Execution β) :
    (execute (first >>= next) : Effect (Rig ρ) β) =
      execute first >>= fun value => execute (next value) := by
  funext rig
  rw [execute_apply, Effect.bind_apply, Effect.bind_apply, execute_apply]
  rcases first rig.bench with ⟨outcome, later⟩
  cases outcome <;> rfl

@[simp] theorem act_pure (value : α) : act (pure value) = (pure value : Effect (Rig ρ) α) := rfl

theorem capture_apply (effect : Effect (Rig ρ) α) (rig : Rig ρ) :
    capture effect rig =
      match effect rig with
      | (.returned value, later) => (.returned (.returned value), later)
      | (.raised error, later) =>
          if later.bench.world.isOrdinary error then (.returned (.raised error), later)
          else (.raised error, later) := by
  rcases ended : effect rig with ⟨outcome, later⟩
  cases outcome with
  | returned value => simp [capture, ended]
  | raised error =>
      cases ordinary : later.bench.world.isOrdinary error <;> simp [capture, ended, ordinary]

variable [SpecRunner ρ]

/-- Register a group: enter it, register its content at once, and leave it however
that ends. -/
def group (runner : RunnerRef) (name : String) (content : Effect (Rig ρ) Unit) :
    Effect (Rig ρ) Unit := do
  changeRunner runner (SpecRunner.enter name)
  let outcome ← content.attempt
  changeRunner runner fun found world => (SpecRunner.leave found, world)
  Effect.ofOutcome outcome

/-- Register a hook with the current group. -/
def before (runner : RunnerRef) (hook : Body) : Effect (Rig ρ) Unit :=
  changeRunner runner (SpecRunner.before hook)

/-- Register a case with the current group. -/
def case (runner : RunnerRef) (name : String) (body : Body) : Effect (Rig ρ) Unit :=
  changeRunner runner (SpecRunner.case name body)

end Rig

namespace Declaration

variable {ρ : Type} [SpecRunner ρ]

mutual

/-- Perform a registration call on a runner. -/
def perform (runner : RunnerRef) : Declaration → Effect (Rig ρ) Unit
  | .group name entries => Rig.group runner name (performAll runner entries)
  | .before code entries => do
      let routine ← Rig.act code
      Rig.before runner (.routine routine entries)
  | .case name code entries => do
      let routine ← Rig.act code
      Rig.case runner name (.routine routine entries)
  | .fail error => do
      let error ← Rig.act error
      Effect.raise error
  | .attempt entries => do
      let _ ← (performAll runner entries).attempt
      pure ()

/-- Perform registration calls in order. -/
def performAll (runner : RunnerRef) : List Declaration → Effect (Rig ρ) Unit
  | [] => pure ()
  | entry :: entries => do
      perform runner entry
      performAll runner entries

end

end Declaration

end DeferredSpec
