/-
# What runs cannot tell

How far the groups of a suite are prepared is the suite's own affair: no hook, no body and no
registration can look at it. So everything that runs on a rig ends in the same way, and leaves
the same rig behind, when all preparation was forgotten before, but for what was forgotten.
-/

import DeferredSpec.Proofs.Composition

namespace DeferredSpec

/-- The runner with all preparation forgotten. -/
def Runner.forget : Runner → Runner
  | .suite kept => .suite kept.reset
  | .recorder kept => .recorder kept

namespace Suite

variable (suite : Suite)

@[simp] theorem reset_reset : suite.reset.reset = suite.reset := rfl

@[simp] theorem root_reset : suite.reset.root = suite.root := rfl

theorem groupAt_reset (path : GroupPath) : suite.reset.groupAt path = suite.groupAt path := rfl

@[simp] theorem reset_setProgress (path : GroupPath) (preparation : Preparation) :
    (suite.setProgress path preparation).reset = suite.reset := rfl

theorem reset_leave : suite.leave.reset = suite.reset.leave := by
  rcases suite with ⟨current, enclosing, progress⟩
  cases enclosing <;> rfl

end Suite

namespace Rig

variable {α β : Type}

/-- The rig with the preparation of all suites forgotten. -/
def forget (rig : Rig Runner) : Rig Runner := { rig with runners := rig.runners.map Runner.forget }

/-- An effect does the same, and leaves the same behind, whether or not preparation was
forgotten before. -/
def IgnoresProgress (effect : Effect (Rig Runner) α) : Prop :=
  ∀ rig : Rig Runner, effect rig.forget = ((effect rig).1, (effect rig).2.forget)

namespace IgnoresProgress

protected theorem pure (value : α) : IgnoresProgress (pure value) := fun _ => rfl

protected theorem raise (error : ErrorRef) :
    IgnoresProgress (Effect.raise error : Effect (Rig Runner) α) := fun _ => rfl

protected theorem act (action : Action α) : IgnoresProgress (act action) := fun _ => rfl

protected theorem execute (execution : Execution α) : IgnoresProgress (execute execution) :=
  fun _ => rfl

protected theorem bind {first : Effect (Rig Runner) α} {next : α → Effect (Rig Runner) β}
    (ignores : IgnoresProgress first) (further : ∀ value, IgnoresProgress (next value)) :
    IgnoresProgress (first >>= next) := by
  intro rig
  rw [Effect.bind_apply, Effect.bind_apply, ignores rig]
  rcases first rig with ⟨outcome, later⟩
  cases outcome with
  | returned value => exact further value later
  | raised error => rfl

protected theorem attempt {effect : Effect (Rig Runner) α} (ignores : IgnoresProgress effect) :
    IgnoresProgress effect.attempt := by
  intro rig
  rw [Effect.attempt_apply, Effect.attempt_apply, ignores rig]

protected theorem changeRunner (runner : RunnerRef) {change : Runner → World → Runner × World}
    (blind : ∀ (found : Runner) (world : World),
      change found.forget world = ((change found world).1.forget, (change found world).2)) :
    IgnoresProgress (changeRunner runner change) := by
  intro rig
  rw [changeRunner, Effect.modify_apply, Effect.modify_apply]
  cases found : rig.runners[runner.index]? with
  | none => simp [forget, found]
  | some kept => simp [forget, found, blind kept]

protected theorem enter (runner : RunnerRef) (name : String) :
    IgnoresProgress (changeRunner runner (SpecRunner.enter name)) :=
  .changeRunner runner fun found world => by cases found <;> rfl

protected theorem leave (runner : RunnerRef) :
    IgnoresProgress
      (changeRunner runner fun (found : Runner) world => (SpecRunner.leave found, world)) :=
  .changeRunner runner fun found world => by
    cases found with
    | suite kept => 
        show (Runner.suite kept.reset.leave, world) = (Runner.suite kept.leave.reset, world)
        rw [Suite.reset_leave]
    | recorder kept => rfl

protected theorem before (runner : RunnerRef) (hook : Body) :
    IgnoresProgress (before runner hook) :=
  .changeRunner runner fun found world => by cases found <;> rfl

protected theorem case (runner : RunnerRef) (name : String) (body : Body) :
    IgnoresProgress (case runner name body) :=
  .changeRunner runner fun found world => by cases found <;> rfl

protected theorem group (runner : RunnerRef) (name : String)
    {content : Effect (Rig Runner) Unit} (ignores : IgnoresProgress content) :
    IgnoresProgress (group runner name content) :=
  .bind (.enter runner name) fun _ =>
    .bind ignores.attempt fun _ => .bind (.leave runner) fun _ _ => rfl

protected theorem cellValue (cell : CellRef) :
    IgnoresProgress (cellValue cell : Effect (Rig Runner) Value) := by
  refine .bind (fun _ => rfl) fun value => ?_
  cases value with
  | none => exact .act _
  | some value => exact .pure value

theorem closed : Closed (fun _ => True) @IgnoresProgress where
  pure := .pure
  raise := .raise
  bind := .bind
  attempt := .attempt
  act := .act
  execute _ _ _ _ := .execute _
  run _ _ _ _ _ := .execute _
  group := .group
  before := .before
  case := .case
  current _ := rfl
  newCell _ := rfl
  setCell _ _ _ := rfl
  cellValue := .cellValue

end IgnoresProgress

end Rig

/-- No body can tell how far groups are prepared. -/
theorem Body.ignoresProgress_run (forest : Array SpecTree) (body : Body) :
    Rig.IgnoresProgress (body.run forest) :=
  Rig.IgnoresProgress.closed.runBody (fun _ _ _ => trivial) body

end DeferredSpec
