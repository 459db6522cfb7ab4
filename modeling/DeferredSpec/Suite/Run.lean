/-
# Running suites

Cases run in the order of their registration, each after the hooks of the groups
around it, outermost first. Hooks run once, before the first case below their
group; if one fails with an ordinary error, every case below the group fails with
that very error. What is registered with the outermost group while the suite runs
is reached by the same run.
-/

import DeferredSpec.Realization.Basic

namespace DeferredSpec

namespace Body

variable {ρ : Type} [SpecRunner ρ]

/-- Run a body. Realized nodes are looked up in the trees as they are now. -/
def run (forest : Array SpecTree) : Body → Effect (Rig ρ) Value
  | .routine code entries => do
      Rig.act code.opening
      let runner ← Effect.read fun rig => rig.current
      Declaration.performAll runner entries
      Rig.act code.closing
  | .groupHook node source cell => do
      match forest[node.tree]? with
      | none => pure .null
      | some whole =>
          match whole.root.subtree? node.address with
          | none => pure .null
          | some found => do
              let previous ← Rig.read source
              let result ← Rig.execute (whole.execute node.address found.here previous)
              Rig.setCell cell result
              pure .null
  | .realizedCase realizer node source => do
      match forest[node.tree]? with
      | none => pure .null
      | some whole =>
          match whole.root.subtree? node.address with
          | none => pure .null
          | some found => do
              realizer.runCase whole node source found
              pure .null

end Body

/-- The groups on the way to a group, outermost first, the group itself included. -/
def GroupPath.lineage (group : GroupPath) : List GroupPath :=
  (List.range (group.length + 1)).map fun depth => group.take depth

/-- What is logged when the case at a path of names failed. -/
def caseFailure (path : List String) (error : ErrorRef) (world : World) : Wording :=
  (world.view (.error error)).plain.map fun said =>
    "case failed: " ++ " ".intercalate path ++ ": " ++ said

/-- A case that can be run: the group it lies in, the words of its title, its body. -/
structure Pick where
  group : GroupPath
  path : List String
  body : Body

/-- The title of a case. -/
def Pick.title (pick : Pick) : String := " ".intercalate pick.path

/-- A path of names with a group's name behind it; a nameless group adds nothing. -/
def withName (path : List String) (name : String) : List String :=
  if name.isEmpty then path else path ++ [name]

namespace Entry

mutual

/-- The cases of an entry at a place, in order of registration. -/
def picks (group : GroupPath) (index : Nat) (path : List String) : Entry → List Pick
  | .case name body => [⟨group, path ++ [name], body⟩]
  | .group name _ entries => picksAll (group ++ [index]) 0 (withName path name) entries

/-- The cases of several entries, the first of which has the given position. -/
def picksAll (group : GroupPath) (next : Nat) (path : List String) : List Entry → List Pick
  | [] => []
  | entry :: entries =>
      picks group next path entry ++ picksAll group (next + 1) path entries

end

/-- The name and the hooks of the group at a path among entries, inside a group
with the given name and hooks. -/
def groupAt (name : String) (hooks : List Body) (entries : List Entry) :
    GroupPath → String × List Body
  | [] => (name, hooks)
  | index :: rest =>
      match entries[index]? with
      | some (.group inner innerHooks innerEntries) =>
          groupAt inner innerHooks innerEntries rest
      | _ => (name, [])

mutual

/-- How deeply the bodies of an entry nest further registrations. -/
def depth (bodyDepth : Body → Nat) : Entry → Nat
  | .case _ body => bodyDepth body
  | .group _ hooks entries =>
      max ((hooks.map bodyDepth).foldl max 0) (depthAll bodyDepth entries)

/-- The greatest depth of several entries. -/
def depthAll (bodyDepth : Body → Nat) : List Entry → Nat
  | [] => 0
  | entry :: entries => max (depth bodyDepth entry) (depthAll bodyDepth entries)

end

end Entry

namespace Declaration

mutual

/-- How deeply a declaration nests bodies in one another. -/
def depth : Declaration → Nat
  | .group _ entries => depthAll entries
  | .before _ entries => depthAll entries + 1
  | .case _ _ entries => depthAll entries + 1
  | .fail _ => 0
  | .attempt entries => depthAll entries

/-- The greatest depth of several declarations. -/
def depthAll : List Declaration → Nat
  | [] => 0
  | entry :: entries => max (depth entry) (depthAll entries)

end

end Declaration

namespace ActionTree

mutual

/-- The number of levels of a tree. -/
def height : ActionTree → Nat
  | .node _ children => heightAll children + 1

/-- The greatest height of several trees. -/
def heightAll : List ActionTree → Nat
  | [] => 0
  | tree :: trees => max (height tree) (heightAll trees)

end

end ActionTree

namespace Body

/-- How many generations of registrations a body can set off: what it registers,
what that registers when it runs, and so on. -/
def generations (forest : Array SpecTree) : Body → Nat
  | .routine _ entries => Declaration.depthAll entries
  | .groupHook .. => 0
  | .realizedCase _ node _ =>
      match forest[node.tree]? with
      | none => 0
      | some whole => whole.root.height

end Body

namespace Suite

/-- The cases of the outermost group from the given entry on. -/
def picksFrom (suite : Suite) (done : Nat) : List Pick :=
  Entry.picksAll [] done (withName [] suite.root.name) (suite.root.entries.drop done)

/-- All cases. -/
def picks (suite : Suite) : List Pick := suite.picksFrom 0

/-- The name and hooks of a group. -/
def groupAt (suite : Suite) (path : GroupPath) : String × List Body :=
  Entry.groupAt suite.root.name suite.root.hooks suite.root.entries path

/-- How many generations of registrations a run of the suite can set off. -/
def generations (forest : Array SpecTree) (suite : Suite) : Nat :=
  Entry.depth (Body.generations forest) suite.root.close + 1

end Suite

/-- How a case ended. -/
structure CaseReport where
  path : List String
  error : Option ErrorRef
  deriving DecidableEq, Repr

namespace CaseReport

/-- Whether a case passed. -/
def passed (report : CaseReport) : Bool := report.error.isNone

/-- The title of a case. -/
def title (report : CaseReport) : String := " ".intercalate report.path

end CaseReport

namespace Rig

/-- The suite of a runner; a runner of another kind counts as an empty suite. -/
def suiteOf (rig : Rig Runner) (runner : RunnerRef) : Suite :=
  ((rig.runners[runner.index]?).bind Runner.suite?).getD (Suite.empty "")

/-- Read something off a suite. -/
def readSuite {α : Type} (runner : RunnerRef) (view : Suite → α) : Effect (Rig Runner) α :=
  Effect.read fun rig => view (rig.suiteOf runner)

/-- Change a suite. -/
def changeSuite (runner : RunnerRef) (change : Suite → Suite) : Effect (Rig Runner) Unit :=
  changeRunner runner fun found world =>
    match found with
    | .suite kept => (.suite (change kept), world)
    | .recorder kept => (.recorder kept, world)

/-- What is logged when a hook of a group failed. -/
def hookFailure (name : String) (error : ErrorRef) (world : World) : Wording :=
  (world.view (.error error)).plain.map fun said =>
    "before hook of '" ++ name ++ "' failed: " ++ said

/-- Run one hook of a group. An ordinary error is logged and remembered. -/
def runHook (forest : Array SpecTree) (runner : RunnerRef) (path : GroupPath) (name : String)
    (hook : Body) : Effect (Rig Runner) Unit := do
  let outcome ← capture (hook.run forest)
  match outcome with
  | .returned _ => pure ()
  | .raised error => do
      act (Action.logComposed errorLevel suiteLogger (hookFailure name error))
      changeSuite runner (Suite.setProgress path (.failed error))
      Effect.raise error

/-- Run the hooks of a group from position `done` on; returns how many those were. -/
def runFurtherHooks (forest : Array SpecTree) (runner : RunnerRef) (path : GroupPath)
    (done : Nat) : Effect (Rig Runner) Nat := do
  let (name, hooks) ← readSuite runner fun suite => suite.groupAt path
  Effect.forEach (runHook forest runner path name) (hooks.drop done)
  pure (hooks.drop done).length

/-- Run the hooks of a group from position `done` on, and then those that were
registered with it meanwhile; `generations` bounds how often that happens. -/
def runHooks (forest : Array SpecTree) (runner : RunnerRef) (path : GroupPath) :
    Nat → Nat → Effect (Rig Runner) Unit
  | 0, done => do
      let _ ← runFurtherHooks forest runner path done
      pure ()
  | generations + 1, done => do
      let count ← runFurtherHooks forest runner path done
      if count = 0 then pure () else runHooks forest runner path generations (done + count)

/-- Prepare a group: run its hooks unless they have run, and fail again with the
error that stopped them. A group counts as prepared as soon as its hooks begin. -/
def prepare (forest : Array SpecTree) (runner : RunnerRef) (path : GroupPath) :
    Effect (Rig Runner) Unit := do
  let suite ← readSuite runner id
  match suite.progress path with
  | .done => pure ()
  | .failed error => Effect.raise error
  | .pending => do
      changeSuite runner (Suite.setProgress path .done)
      runHooks forest runner path (suite.generations forest) 0

/-- Run a case: prepare the groups around it, outermost first, then run its body. -/
def runPick (forest : Array SpecTree) (runner : RunnerRef) (pick : Pick) :
    Effect (Rig Runner) Unit := do
  Effect.forEach (prepare forest runner) (GroupPath.lineage pick.group)
  let _ ← pick.body.run forest
  pure ()

/-- Run a case and report how it ended. Only ordinary errors are reported. -/
def reportPick (forest : Array SpecTree) (runner : RunnerRef) (pick : Pick) :
    Effect (Rig Runner) CaseReport := do
  let outcome ← capture (runPick forest runner pick)
  match outcome with
  | .returned _ => pure ⟨pick.path, none⟩
  | .raised error => do
      act (Action.logComposed debugLevel suiteLogger (caseFailure pick.path error))
      pure ⟨pick.path, some error⟩

/-- Run the cases from entry `done` on; returns how many entries there were at first,
with the reports. -/
def runFurther (forest : Array SpecTree) (runner : RunnerRef) (done : Nat) :
    Effect (Rig Runner) (Nat × List CaseReport) := do
  let suite ← readSuite runner id
  let reports ← Effect.collect (reportPick forest runner) (suite.picksFrom done)
  pure (suite.root.entries.length, reports)

/-- Run the cases from entry `done` on, and then those that were registered with
the outermost group meanwhile; `generations` bounds how often that happens. -/
def runFrom (forest : Array SpecTree) (runner : RunnerRef) :
    Nat → Nat → Effect (Rig Runner) (List CaseReport)
  | 0, done => do
      let (_, reports) ← runFurther forest runner done
      pure reports
  | generations + 1, done => do
      let (count, reports) ← runFurther forest runner done
      if count ≤ done then pure reports
      else do
        let more ← runFrom forest runner generations count
        pure (reports ++ more)

/-- Run all cases of a suite, nothing being prepared at first. -/
def runSuite (forest : Array SpecTree) (runner : RunnerRef) :
    Effect (Rig Runner) (List CaseReport) := do
  changeSuite runner Suite.reset
  let suite ← readSuite runner id
  runFrom forest runner (suite.generations forest) 0

/-- Hand out all cases of a suite, nothing being prepared at first. -/
def takePicks (runner : RunnerRef) : Effect (Rig Runner) (List Pick) := do
  changeSuite runner Suite.reset
  readSuite runner Suite.picks

end Rig

end DeferredSpec
