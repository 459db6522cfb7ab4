/-
# Commands of a session

What a session can be told to do: grow trees, look at them, execute nodes, set up
engines, register with runners, and run what was registered. Every command answers
or fails; a failed command leaves what happened before it failed.
-/

import DeferredSpec.Session.Chain

namespace DeferredSpec

/-- What a tree is registered with: a suite of its own, the runner of the session,
or a recorder. -/
inductive RunnerChoice
  | fresh
  | current
  | recording
  deriving DecidableEq, Repr

/-- Which engine executes the chain steps of a realized tree. -/
inductive EngineChoice
  | session
  | settings (plan : SettingsPlan)
  | environment (entries : List (String × String))

/-- Listeners to subscribe: both are told of a node, and each may fail. -/
structure ListenerPlan where
  id : String
  before : Bool := true
  after : Bool := true
  failBefore : Option Literal := none
  failAfter : Option Literal := none

/-- A command. Nodes are given by their places among the known ones. -/
inductive Command
  | subject (description : String) (factory : FactoryPlan) (recorded : Bool)
  | root (description : String) (step : StepPlan)
  | attach (parent : Int) (description : String) (step : StepPlan) (variant : Variant)
  | chain (node : Int) (links : List ChainLink)
  | step (node : Int) (name : Literal) (arguments : List Literal)
  | has (node : Int) (name : String)
  | call (node : Int) (arguments : List Literal)
  | record (node : Int) (arguments : List Literal)
  | assign (node : Int) (name : String)
  | info (node : Int)
  | tree (node : Int)
  | ancestors (node : Int)
  | isBelow (node : Int) (names : List String)
  | titles (node : Int)
  | subscribe (node : Int) (listeners : ListenerPlan)
  | logExecution (node : Int) (level : Nat)
  | execute (node : Int) (previous : Literal)
  | rerun (node : Int)
  | peek
  | engine (maxRetries : Option Int) (delay : Option DelayPlan) (eventual : Option Bool)
  | engineFromSettings (plan : SettingsPlan)
  | isEventual (node : Int)
  | runNode (node : Int) (previous : Literal)
  | runner (name : String)
  | realize (node : Int) (runner : RunnerChoice) (engine : EngineChoice)
  | realizeAt (node : Int) (previous : Literal)
  | recordedHook (place : Int)
  | recordedCase (place : Int)
  | register (entries : List EntryPlan)
  | suite
  | run
  | handOut
  | runHandedOut (place : Int)

namespace AssertionEngine

variable [ObjectModel]

/-- The standard engine with a note of everything it is asked. -/
def noted : AssertionEngine where
  expect value := do
    let rendered ← Action.render value
    Action.note "expect" [.text rendered]
    standard.expect value
  lookUp owner name kind := do
    let asked ← Action.tell name
    Action.note "lookup" [asked, .text kind.word]
    standard.lookUp owner name kind

end AssertionEngine

namespace ListenerPlan

variable [ObjectModel]

/-- Fail with a new error, if one is given. -/
def fail (error : Option Literal) : Action Unit :=
  match error with
  | some literal => literal.raise
  | none => pure ()

/-- The label of a node, as it is told. -/
def labelOf (node : ActionNode) : Action Snapshot := do
  let label ← node.label
  Action.tell label

/-- The listener told before. -/
def beforeListener (plan : ListenerPlan) : BeforeListener :=
  .code fun node => do
    let label ← labelOf node
    Action.note "before" [.text plan.id, label]
    fail plan.failBefore

/-- The listener told after. -/
def afterListener (plan : ListenerPlan) : AfterListener :=
  .code fun node result => do
    let label ← labelOf node
    let result ← Action.tell result
    Action.note "after" [.text plan.id, label, result]
    fail plan.failAfter

end ListenerPlan

namespace Session

variable [ObjectModel]

/-- The members of nodes that cannot be assigned. -/
def readOnlyMembers : List String := ["parent", "variant", "is_root", "invoked", "label"]

/-- Build a literal. -/
def build (literal : Literal) : Effect Session Value := act literal.build

/-- Plant a new tree and get to know its root. -/
def plant (tree : SpecTree) (engine : AssertionEngine) : Effect Session Answer := do
  let ref ← addTree tree
  introduce ⟨ref, engine⟩

/-- Start a tree over a factory. -/
def startSubject (description : String) (factory : FactoryPlan) (recorded : Bool) :
    Effect Session Answer := do
  let (make, shared) ← act factory.carryOut
  match shared with
  | some value => Effect.modify fun session => { session with shared := value }
  | none => pure ()
  let engine := if recorded then AssertionEngine.noted else AssertionEngine.standard
  plant (SpecTree.subject description (notedFactory make)) engine

/-- Start a tree with a hand-made root, which is a group. -/
def startRoot (description : String) (plan : StepPlan) : Effect Session Answer := do
  let step ← act plan.carryOut
  let root : ActionNode := { description := .text description, step, variant := .group }
  plant { root := .single root } AssertionEngine.standard

/-- Attach a hand-made node. -/
def attachNode (parent : Int) (description : String) (plan : StepPlan) (variant : Variant) :
    Effect Session Answer := do
  let found ← find parent
  let step ← act plan.carryOut
  let node : ActionNode := { description := .text description, step, variant }
  let (address, grown) ← act (found.tree.attach found.address node)
  setTree found.index grown
  introduce ⟨⟨found.index, address⟩, AssertionEngine.standard⟩

/-- Whether a handle has a member. Asking may add a node, which stays unknown. -/
def hasMember (found : FoundNode) (name : String) : Effect Session Answer := do
  let outcome ← (readMember (.handle found.known) name).attempt
  match outcome with
  | .returned _ => pure (.truth true)
  | .raised error => do
      let isMissing ← act <| Effect.read fun world => (world.errorAt error).kind.isIn .attribute
      if isMissing then pure (.truth false) else Effect.raise error

/-- The labels from a node up to its root. -/
def ancestorLabels (found : FoundNode) : Effect Session Answer := do
  let labels ← act (Effect.collect (fun entry => ListenerPlan.labelOf entry.2)
    (found.tree.trail found.address).reverse)
  pure (.values labels)

/-- The titles that a node has as a case and as a group. -/
def titles (found : FoundNode) : Effect Session Answer := do
  let asCase ← act (found.tree.caseTitle found.address found.below)
  let asGroup ← act (groupTitle found.here)
  pure (.texts [asCase, asGroup])

/-- Set a member of a node to nothing. -/
def assignNothing (found : FoundNode) (name : String) : Effect Session Answer := do
  let tree := found.tree
  let setHere (node : ActionNode) : SpecTree :=
    { tree with root := tree.root.setNode found.address node }
  if readOnlyMembers.contains name then act (Action.fail (.readOnly name nodeType))
  else
    match name with
    | "__class__" => act (Action.fail .classNotType)
    | "__dict__" => act (Action.fail .membersNotTable)
    | "__weakref__" => act (Action.fail (.notWritable name nodeType))
    | "description" => setTree found.index (setHere { found.here with description := .null })
    | "invocation_args" => setTree found.index (setHere { found.here with arguments := none })
    | "step" =>
        let idle : Step := fun _ _ => Action.fail (.notCallable nothingType)
        setTree found.index ((setHere { found.here with step := idle }).lose found.address .step)
    | name => setTree found.index (tree.lose found.address (NodePart.ofMember name))
  pure .nothing

/-- Fail unless a node has its listeners, which are about to be subscribed to. -/
def requireListeners (found : FoundNode) : Effect Session Unit :=
  act (found.tree.require found.address .hooks (.noAttribute nothingType "subscribe"))

/-- Subscribe listeners to the tree of a node. -/
def subscribe (found : FoundNode) (plan : ListenerPlan) : Effect Session Answer := do
  requireListeners found
  let before := if plan.before then [plan.beforeListener] else []
  let after := if plan.after then [plan.afterListener] else []
  setTree found.index (found.tree.subscribe before after)
  pure .nothing

/-- Log the executions of the tree of a node, on a new stopwatch. -/
def logExecution (found : FoundNode) (level : Nat) : Effect Session Answer := do
  requireListeners found
  let watch ← onRig (Rig.execute (Effect.update fun bench =>
    (bench.watches.size, { bench with watches := bench.watches.push default })))
  setTree found.index (found.tree.logExecution watch level)
  pure .nothing

/-- Take an engine into use. -/
def useEngine (engine : RetryEngine) : Effect Session Answer := do
  Effect.modify fun session => { session with engine := engine }
  pure (.engine engine.maxRetries engine.eventualByDefault)

/-- Set an engine up from what is given; the rest is as by default. -/
def setUpEngine (maxRetries : Option Int) (delay : Option DelayPlan) (eventual : Option Bool) :
    Effect Session Answer := do
  let engine ← act (RetryEngine.make (maxRetries.getD RetryEngine.defaultMaxRetries)
    ((delay.map DelayPlan.course).getD .immediate) (eventual.getD false))
  useEngine engine

/-- Settings that are all accepted come to an engine. -/
def engineOf (loaded : Except (List SettingProblem) Settings) :
    Effect Session (Except (List SettingProblem) RetryEngine) :=
  match loaded with
  | .ok settings => do
      let engine ← act (RetryEngine.ofSettings settings)
      pure (.ok engine)
  | .error problems => pure (.error problems)

/-- Load settings by a plan. -/
def loadPlanned (plan : SettingsPlan) : Effect Session (Except (List SettingProblem) Settings) := do
  let sources ← act plan.sources
  pure (Settings.load sources)

/-- Tell about settings that were not accepted. -/
def reject (problems : List SettingProblem) : Effect Session Answer := do
  let shown ← act (Effect.collect ShownProblem.ofProblem problems)
  pure (.rejected shown)

/-- Take the engine that settings come to into use. -/
def useSettings (plan : SettingsPlan) : Effect Session Answer := do
  let loaded ← loadPlanned plan
  let engine ← engineOf loaded
  match engine with
  | .ok engine => useEngine engine
  | .error problems => reject problems

/-- The engine that a choice comes to. -/
def chosenEngine (choice : EngineChoice) :
    Effect Session (Except (List SettingProblem) RetryEngine) :=
  match choice with
  | .session => do
      let engine ← Effect.read Session.engine
      pure (.ok engine)
  | .settings plan => do
      let loaded ← loadPlanned plan
      engineOf loaded
  | .environment entries => do
      let loaded ← act (Settings.loadRecovering ⟨entries, []⟩)
      engineOf loaded

/-- Put a runner on the rig. -/
def addRunner (runner : Runner) : Effect Session RunnerRef :=
  onRig (Effect.update fun rig =>
    (⟨rig.runners.size⟩, { rig with runners := rig.runners.push runner }))

/-- Make a runner the current one. -/
def makeCurrent (runner : RunnerRef) : Effect Session Unit :=
  onRig (Effect.modify fun rig => { rig with current := runner })

/-- The runner that a choice comes to. -/
def chosenRunner (choice : RunnerChoice) : Effect Session RunnerRef :=
  match choice with
  | .fresh => addRunner (.suite (Suite.empty ""))
  | .current => Effect.read fun session => session.rig.current
  | .recording => addRunner (.recorder {})

/-- Realize the tree of a node from its root. The runner becomes the current one
once that is done. -/
def realizeTree (found : FoundNode) (runner : RunnerChoice) (engine : EngineChoice) :
    Effect Session Answer := do
  let chosen ← chosenEngine engine
  match chosen with
  | .error problems => reject problems
  | .ok engine => do
      let runner ← chosenRunner runner
      let realizer : Realizer := ⟨runner, engine⟩
      onRig (realizer.realizeFrom found.tree found.index found.address)
      makeCurrent runner
      pure .nothing

/-- Realize a node and what is below it over a previous result. -/
def realizeNode (found : FoundNode) (previous : Literal) : Effect Session Answer := do
  let engine ← Effect.read Session.engine
  withCurrent fun runner =>
    let realizer : Realizer := ⟨runner, engine⟩
    realizer.realize found.tree found.index found.address (.produced previous.build) found.below
  pure .nothing

/-- Run one of the bodies that the current recorder keeps. -/
def runRecorded (member : String) (bodies : Recorder → List Body) (place : Int) :
    Effect Session Answer := do
  let runner ← Effect.read fun session => session.rig.runners[session.rig.current.index]?
  match runner with
  | some (.recorder recorder) => do
      let body ← orOutOfRange (memberAt? (bodies recorder).toArray place)
      let forest ← Effect.read Session.forest
      let result ← onRig (body.run forest)
      tell result
  | _ => act (Action.fail (.noAttribute "SuiteRunner" member))

/-- Run all cases of the current suite. -/
def runSuite : Effect Session Answer := do
  let forest ← Effect.read Session.forest
  let reports ← withCurrent (Rig.runSuite forest)
  let answers ← act <| Effect.read fun world => CaseAnswer.ofReports world reports
  pure (.report answers)

/-- Hand out all cases of the current suite. -/
def handOutCases : Effect Session Answer := do
  let current ← Effect.read fun session => session.rig.current
  let picks ← onRig (Rig.takePicks current)
  Effect.modify fun session =>
    { session with handedOut := picks.map fun pick => (current, pick) }
  pure (.texts (picks.map Pick.title))

/-- Run one of the cases that were handed out. -/
def runHandedOut (place : Int) : Effect Session Answer := do
  let handedOut ← Effect.read Session.handedOut
  let (runner, pick) ← orOutOfRange (memberAt? handedOut.toArray place)
  let forest ← Effect.read Session.forest
  onRig (Rig.runPick forest runner pick)
  pure .nothing

/-- Register entries with the current runner. -/
def registerEntries (entries : List EntryPlan) : Effect Session Answer := do
  withCurrent fun runner => Declaration.performAll runner (EntryPlan.declarations entries)
  pure .nothing

/-- The result of executing something, as it looks right after. -/
def answerValue (execution : Execution Value) : Effect Session Answer := do
  let result ← execute execution
  tell result

/-- Carry out a command. -/
def perform : Command → Effect Session Answer
  | .subject description factory recorded => startSubject description factory recorded
  | .root description plan => startRoot description plan
  | .attach parent description plan variant => attachNode parent description plan variant
  | .chain node links => do
      let found ← find node
      let reached ← followLinks (.handle found.known) links
      present reached
  | .step node name arguments => do
      let found ← find node
      let name ← build name
      let arguments ← act (Literal.buildAll arguments)
      let grown ← step found.known name arguments
      introduce grown
  | .has node name => do
      let found ← find node
      hasMember found name
  | .call node arguments => do
      let found ← find node
      let arguments ← act (Literal.buildAll arguments)
      callHandle found.known arguments
      let (tree, _) ← treeAt found.known.ref
      let text ← act (tree.handleText found.address)
      pure (.called true text)
  | .record node arguments => do
      let found ← find node
      let arguments ← act (Literal.buildAll arguments)
      callHandle found.known arguments
      info found.known.ref
  | .assign node name => do
      let found ← find node
      assignNothing found name
  | .info node => do
      let found ← find node
      info found.known.ref
  | .tree node => do
      let found ← find node
      let outline ← act (found.tree.outline found.address found.below)
      pure (.tree outline)
  | .ancestors node => do
      let found ← find node
      ancestorLabels found
  | .isBelow node names => do
      let found ← find node
      act (found.tree.require found.address .ancestry (.notCallable nothingType))
      pure (.truth (found.tree.isBelow found.address names))
  | .titles node => do
      let found ← find node
      titles found
  | .subscribe node plan => do
      let found ← find node
      subscribe found plan
  | .logExecution node level => do
      let found ← find node
      logExecution found level
  | .execute node previous => do
      let found ← find node
      let previous ← build previous
      answerValue (found.tree.execute found.address found.here previous)
  | .rerun node => do
      let found ← find node
      answerValue (found.tree.rerun found.address)
  | .peek => do
      let shared ← Effect.read Session.shared
      let shown ← act (Action.display shared)
      pure (.text shown)
  | .engine maxRetries delay eventual => setUpEngine maxRetries delay eventual
  | .engineFromSettings plan => useSettings plan
  | .isEventual node => do
      let found ← find node
      let engine ← Effect.read Session.engine
      let eventual ← act (engine.askEventual found.tree found.address)
      pure (.truth eventual)
  | .runNode node previous => do
      let found ← find node
      let previous ← build previous
      let engine ← Effect.read Session.engine
      answerValue (engine.run found.tree found.address found.here previous)
  | .runner name => do
      let runner ← addRunner (.suite (Suite.empty name))
      makeCurrent runner
      pure .nothing
  | .realize node runner engine => do
      let found ← find node
      realizeTree found runner engine
  | .realizeAt node previous => do
      let found ← find node
      realizeNode found previous
  | .recordedHook place => runRecorded "hooks" Recorder.hooks place
  | .recordedCase place => runRecorded "cases" Recorder.cases place
  | .register entries => registerEntries entries
  | .suite => do
      let suite ← withCurrent fun runner => Rig.readSuite runner id
      let outline ← act (Effect.read suite.outline)
      pure (.suite outline)
  | .run => runSuite
  | .handOut => handOutCases
  | .runHandedOut place => runHandedOut place

end Session

/-- What came of a command: its answer or error, and what was noted and logged
meanwhile. -/
structure StepAnswer where
  reply : Reply Answer
  notes : List Note
  records : List LogRecord

namespace Session

variable [ObjectModel]

/-- Carry out a command and tell what came of it. -/
def answer (command : Command) (session : Session) : StepAnswer × Session :=
  let noted := session.rig.bench.world.notes.size
  let recorded := session.rig.bench.world.records.size
  match perform command session with
  | (outcome, later) =>
      let after := later.rig.bench.world
      (⟨Reply.ofOutcome after outcome, (after.notes.extract noted).toList,
        (after.records.extract recorded).toList⟩, later)

/-- Carry out commands one after another; errors do not end the session. -/
def answerAll : List Command → Session → List StepAnswer
  | [], _ => []
  | command :: commands, session =>
      match answer command session with
      | (told, later) => told :: answerAll commands later

end Session

end DeferredSpec
