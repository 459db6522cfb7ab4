/-
# Preparing groups

What a suite does before a case: it runs the hooks of the groups around it. The hook of
a realized group executes the node of the group and leaves the result in a cell, from
which the hooks and the cases below read it.
-/

import DeferredSpec.Proofs.Registration
import DeferredSpec.Suite.Run

namespace DeferredSpec

namespace Rig

variable {α β : Type}

/-- Where a source leads depends on the bench and the cells alone. -/
theorem read_congr {source : Source} {rig other : Rig Runner} {result : Value}
    (bench : other.bench = rig.bench) (cells : other.cells = rig.cells)
    (found : read source rig = (.returned result, rig)) :
    read source other = (.returned result, other) := by
  cases source with
  | produced make =>
      rw [read, act_apply] at found ⊢
      rw [bench]
      have outcome : (make rig.bench.world).1 = .returned result := congrArg Prod.fst found
      have world : (make rig.bench.world).2 = rig.bench.world :=
        congrArg (fun ended => ended.2.bench.world) found
      rw [outcome, world, ← bench]
  | kept cell =>
      simp only [read, cellValue, Effect.bind_apply, Effect.read_apply, cells] at found ⊢
      cases held : (rig.cells[cell.index]?).join with
      | none =>
          rw [held] at found
          cases found
      | some value =>
          rw [held] at found
          cases found
          rfl

/-- The rig with another suite in the place of a runner. -/
def withSuite (runner : RunnerRef) (suite : Suite) (rig : Rig Runner) : Rig Runner :=
  { rig with runners := rig.runners.setIfInBounds runner.index (.suite suite) }

section Suites

variable {runner : RunnerRef} {suite : Suite} {rig : Rig Runner}

@[simp] theorem withSuite_bench (other : Suite) :
    (rig.withSuite runner other).bench = rig.bench := rfl

@[simp] theorem withSuite_cells (other : Suite) :
    (rig.withSuite runner other).cells = rig.cells := rfl

theorem IsSuite.withSuite (isSuite : rig.IsSuite runner suite) (other : Suite) :
    (rig.withSuite runner other).IsSuite runner other := by
  have bound : runner.index < rig.runners.size := (Array.getElem?_eq_some_iff.mp isSuite).1
  simp [IsSuite, Rig.withSuite, bound]

theorem suiteOf_of_isSuite (isSuite : rig.IsSuite runner suite) : rig.suiteOf runner = suite := by
  rw [IsSuite] at isSuite
  simp [suiteOf, isSuite, Runner.suite?]

theorem readSuite_of_isSuite (isSuite : rig.IsSuite runner suite) (view : Suite → α) :
    readSuite runner view rig = (.returned (view suite), rig) := by
  rw [readSuite, Effect.read_apply, suiteOf_of_isSuite isSuite]

theorem changeSuite_of_isSuite (isSuite : rig.IsSuite runner suite) (change : Suite → Suite) :
    changeSuite runner change rig = (.returned (), rig.withSuite runner (change suite)) := by
  rw [IsSuite] at isSuite
  simp only [changeSuite, changeRunner, Effect.modify_apply, isSuite]
  rfl

/-- Hooks that are all run and register no more are run once. -/
theorem runFurtherHooks_eq {forest : Array SpecTree} {path : GroupPath} {name : String}
    {hooks : List Body} {done : Nat} (isSuite : rig.IsSuite runner suite)
    (known : suite.groupAt path = (name, hooks)) :
    runFurtherHooks forest runner path done rig =
      (Effect.forEach (runHook forest runner path name) (hooks.drop done) >>= fun _ =>
        pure (hooks.drop done).length) rig := by
  rw [runFurtherHooks, Effect.bind_apply, readSuite_of_isSuite isSuite, known]

theorem runHooks_nil {forest : Array SpecTree} {path : GroupPath} (name : String)
    (hooks : List Body) {generations done : Nat} (isSuite : rig.IsSuite runner suite)
    (known : suite.groupAt path = (name, hooks)) (all : hooks.drop done = []) :
    runHooks forest runner path generations done rig = (.returned (), rig) := by
  have once : runFurtherHooks forest runner path done rig = (.returned 0, rig) := by
    rw [runFurtherHooks_eq isSuite known, all]
    rfl
  cases generations with
  | zero => rw [runHooks, Effect.bind_apply, once]; rfl
  | succ generations => rw [runHooks, Effect.bind_apply, once]; rfl

/-- A group with one hook is prepared by running it, unless the hook registers more. -/
theorem runHooks_single {forest : Array SpecTree} {path : GroupPath} {name : String}
    {hook : Body} {generations : Nat} {outcome : Outcome Unit} {later : Rig Runner}
    {after : Suite} (isSuite : rig.IsSuite runner suite)
    (known : suite.groupAt path = (name, [hook]))
    (ended : runHook forest runner path name hook rig = (outcome, later))
    (still : later.IsSuite runner after) (unchanged : after.groupAt path = (name, [hook])) :
    runHooks forest runner path generations 0 rig = (outcome, later) := by
  have once : runFurtherHooks forest runner path 0 rig =
      (outcome.map fun _ => 1, later) := by
    rw [runFurtherHooks_eq isSuite known, List.drop_zero, Effect.forEach_cons, Effect.forEach_nil]
    simp only [Effect.bind_apply, ended]
    cases outcome <;> rfl
  cases outcome with
  | raised error => cases generations <;> (rw [runHooks, Effect.bind_apply, once]; rfl)
  | returned _ =>
      cases generations with
      | zero => rw [runHooks, Effect.bind_apply, once]; rfl
      | succ generations =>
          rw [runHooks, Effect.bind_apply, once]
          exact runHooks_nil name [hook] still unchanged rfl

end Suites

end Rig

namespace Body

variable {forest : Array SpecTree} {index : Nat} {whole : SpecTree} {address : Address}
  {found : ActionTree} {source : Source} {rig : Rig Runner} {previous : Value}

/-- The hook of a group executes its node and leaves the result in the cell. -/
theorem run_groupHook (cell : CellRef) (placed : forest[index]? = some whole)
    (located : whole.root.subtree? address = some found)
    (above : Rig.read source rig = (.returned previous, rig)) :
    (Body.groupHook ⟨index, address⟩ source cell).run forest rig =
      match whole.execute address found.here previous rig.bench with
      | (.returned result, bench) =>
          (.returned .null,
            { rig with bench, cells := rig.cells.setIfInBounds cell.index (some result) })
      | (.raised error, bench) => (.raised error, { rig with bench }) := by
  simp only [run, placed, located, Effect.bind_apply, above, Rig.execute_apply]
  rcases whole.execute address found.here previous rig.bench with ⟨outcome, bench⟩
  cases outcome <;> rfl

end Body

namespace Rig

variable {forest : Array SpecTree} (runner : RunnerRef) (path : GroupPath) (name : String)
  {hook : Body} {rig later : Rig Runner}

theorem runHook_of_returned {value : Value} (ended : hook.run forest rig = (.returned value, later)) :
    runHook forest runner path name hook rig = (.returned (), later) := by
  rw [runHook, Effect.bind_apply, capture_apply, ended]
  rfl

/-- The rig with a failed hook in its log. -/
def logHookFailure (title : String) (error : ErrorRef) (rig : Rig Runner) : Rig Runner :=
  { rig with
    bench.world :=
      (Action.logComposed errorLevel suiteLogger (hookFailure title error) rig.bench.world).2 }

/-- An ordinary error of a hook is logged and remembered. -/
theorem runHook_of_raised {error : ErrorRef} {suite : Suite}
    (ended : hook.run forest rig = (.raised error, later))
    (ordinary : later.bench.world.isOrdinary error) (isSuite : later.IsSuite runner suite) :
    runHook forest runner path name hook rig =
      (.raised error,
        (later.logHookFailure name error).withSuite runner
          (suite.setProgress path (.failed error))) := by
  have told : act (Action.logComposed errorLevel suiteLogger (hookFailure name error)) later =
      (.returned (), later.logHookFailure name error) := rfl
  have toldSuite : (later.logHookFailure name error).IsSuite runner suite := isSuite
  rw [runHook, Effect.bind_apply, capture_apply, ended]
  simp only [ordinary, if_true, Effect.bind_apply, told, changeSuite_of_isSuite toldSuite,
    Effect.raise_apply]

theorem runHook_of_escaped {error : ErrorRef}
    (ended : hook.run forest rig = (.raised error, later))
    (escaped : later.bench.world.isOrdinary error = false) :
    runHook forest runner path name hook rig = (.raised error, later) := by
  rw [runHook, Effect.bind_apply, capture_apply, ended]
  simp [escaped]

end Rig

end DeferredSpec
