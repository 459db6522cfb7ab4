/-
# Spec runners

A spec runner takes registrations: groups, hooks that prepare the current group,
and cases. The content of a group is registered between entering and leaving it.
Two runners are given: the suite, which keeps what was registered and can run it,
and the recorder, which notes every call.
-/

import DeferredSpec.Suite.Body

namespace DeferredSpec

/-- The registration calls of a runner. Each may write to the log or take notes. -/
class SpecRunner (ρ : Type) where
  enter : String → ρ → World → ρ × World
  leave : ρ → ρ
  before : Body → ρ → World → ρ × World
  case : String → Body → ρ → World → ρ × World

/-- A group that is being registered. -/
structure OpenGroup where
  name : String
  hooks : List Body := []
  entries : List Entry := []

namespace OpenGroup

/-- The group as an entry. -/
def close (group : OpenGroup) : Entry := .group group.name group.hooks group.entries

/-- The group with an entry behind the others. -/
def addEntry (group : OpenGroup) (entry : Entry) : OpenGroup :=
  { group with entries := group.entries ++ [entry] }

/-- The group with a hook behind the others. -/
def addHook (group : OpenGroup) (hook : Body) : OpenGroup :=
  { group with hooks := group.hooks ++ [hook] }

end OpenGroup

/-- The way from the outermost group to a group: which entry to take at each level. -/
abbrev GroupPath : Type := List Nat

/-- How far the hooks of a group have come: not run yet, run, or stopped by an
ordinary error. -/
inductive Preparation
  | pending
  | done
  | failed (error : ErrorRef)
  deriving DecidableEq, Repr

/-- A suite: the innermost open group, the open groups around it, nearest first,
and how far each group is prepared. -/
structure Suite where
  current : OpenGroup
  enclosing : List OpenGroup := []
  progress : GroupPath → Preparation := fun _ => .pending

/-- The logger of suites. -/
def suiteLogger : String := "fluentspec.runner"

namespace World

/-- Add a debugging record. -/
def debug (source message : String) (world : World) : World :=
  world.record ⟨debugLevel, source, message⟩

end World

namespace Suite

/-- A suite without registrations. -/
def empty (name : String) : Suite := { current := { name } }

/-- Open a group inside the current one. -/
def enter (name : String) (suite : Suite) : Suite :=
  { suite with current := { name }, enclosing := suite.current :: suite.enclosing }

/-- Close the current group; it becomes an entry of the group around it. -/
def leave (suite : Suite) : Suite :=
  match suite.enclosing with
  | [] => suite
  | around :: further =>
      { suite with current := around.addEntry suite.current.close, enclosing := further }

/-- Register a hook with the current group. -/
def before (hook : Body) (suite : Suite) : Suite :=
  { suite with current := suite.current.addHook hook }

/-- Register a case with the current group. -/
def case (name : String) (body : Body) (suite : Suite) : Suite :=
  { suite with current := suite.current.addEntry (.case name body) }

/-- The outermost group, every open group closed. -/
def rootOf : OpenGroup → List OpenGroup → OpenGroup
  | group, [] => group
  | group, around :: further => rootOf (around.addEntry group.close) further

/-- The outermost group. -/
def root (suite : Suite) : OpenGroup := rootOf suite.current suite.enclosing

/-- Forget all preparation. -/
def reset (suite : Suite) : Suite := { suite with progress := fun _ => .pending }

/-- Note how far a group is prepared. -/
def setProgress (path : GroupPath) (preparation : Preparation) (suite : Suite) : Suite :=
  { suite with
    progress := fun other => if other = path then preparation else suite.progress other }

@[simp] theorem leave_enter (name : String) (suite : Suite) :
    (suite.enter name).leave =
      { suite with current := suite.current.addEntry (.group name [] []) } := rfl

@[simp] theorem enclosing_before (hook : Body) (suite : Suite) :
    (suite.before hook).enclosing = suite.enclosing := rfl

@[simp] theorem enclosing_case (name : String) (body : Body) (suite : Suite) :
    (suite.case name body).enclosing = suite.enclosing := rfl

@[simp] theorem setProgress_progress_self (path : GroupPath) (preparation : Preparation)
    (suite : Suite) : (suite.setProgress path preparation).progress path = preparation := by
  simp [setProgress]

@[simp] theorem setProgress_setProgress (path : GroupPath) (first second : Preparation)
    (suite : Suite) :
    (suite.setProgress path first).setProgress path second = suite.setProgress path second := by
  simp only [setProgress, mk.injEq, true_and]
  funext other
  split <;> rfl

end Suite

instance : SpecRunner Suite where
  enter name suite world := (suite.enter name, world.debug suiteLogger ("describe: " ++ name))
  leave := Suite.leave
  before hook suite world :=
    (suite.before hook, world.debug suiteLogger ("before: " ++ suite.current.name))
  case name body suite world := (suite.case name body, world.debug suiteLogger ("it: " ++ name))

/-- A runner that notes every registration with its depth and keeps the bodies. -/
structure Recorder where
  depth : Nat := 0
  hooks : List Body := []
  cases : List Body := []

instance : SpecRunner Recorder where
  enter name recorder world :=
    ({ recorder with depth := recorder.depth + 1 },
      world.note ⟨"group", [.text name, .integer recorder.depth]⟩)
  leave recorder := { recorder with depth := recorder.depth - 1 }
  before hook recorder world :=
    ({ recorder with hooks := recorder.hooks ++ [hook] },
      world.note ⟨"before", [.integer recorder.depth]⟩)
  case name body recorder world :=
    ({ recorder with cases := recorder.cases ++ [body] },
      world.note ⟨"case", [.text name, .integer recorder.depth]⟩)

/-- A runner of either kind. -/
inductive Runner
  | suite (suite : Suite)
  | recorder (recorder : Recorder)

namespace Runner

/-- Apply a registration call of the matching kind. -/
def register (onSuite : Suite → World → Suite × World)
    (onRecorder : Recorder → World → Recorder × World) : Runner → World → Runner × World
  | .suite kept, world => (onSuite kept world).map .suite id
  | .recorder kept, world => (onRecorder kept world).map .recorder id

/-- The suite, if the runner is one. -/
def suite? : Runner → Option Suite
  | .suite kept => some kept
  | .recorder _ => none

end Runner

instance : SpecRunner Runner where
  enter name := Runner.register (SpecRunner.enter name) (SpecRunner.enter name)
  leave
    | .suite suite => .suite suite.leave
    | .recorder recorder => .recorder (SpecRunner.leave recorder)
  before hook := Runner.register (SpecRunner.before hook) (SpecRunner.before hook)
  case name body := Runner.register (SpecRunner.case name body) (SpecRunner.case name body)

end DeferredSpec
