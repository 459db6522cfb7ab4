/-
# Sessions

A session works on one rig: it grows trees through their handles, registers them
with runners and runs what was registered. Nodes are known by their place in the
order in which the session met them.
-/

import DeferredSpec.Session.Answer
import DeferredSpec.Session.Plan
import DeferredSpec.Settings.Engine

namespace DeferredSpec

/-- A node that a session knows, with the assertion engine of its handle. -/
structure KnownNode where
  ref : NodeRef
  engine : AssertionEngine

/-- The state of a session: the rig, all trees, the known nodes, the retry engine,
the value that a factory shares, and the cases that were handed out. -/
structure Session where
  rig : Rig Runner := { runners := #[.suite (Suite.empty "")] }
  forest : Array SpecTree := #[]
  nodes : Array KnownNode := #[]
  engine : RetryEngine := ⟨RetryEngine.defaultMaxRetries, .immediate, false⟩
  shared : Value := .null
  handedOut : List (RunnerRef × Pick) := []

/-- A member of an array by its place; a negative place counts from the end. -/
def memberAt? {α : Type} (items : Array α) (place : Int) : Option α :=
  let index := if place < 0 then place + items.size else place
  if index < 0 then none else items[index.toNat]?

/-- A node together with what is below it and the tree it belongs to. -/
structure FoundNode where
  known : KnownNode
  tree : SpecTree
  below : ActionTree

namespace FoundNode

/-- The place of the tree of a node. -/
def index (found : FoundNode) : Nat := found.known.ref.tree

/-- The place of a node in its tree. -/
def address (found : FoundNode) : Address := found.known.ref.address

/-- The node itself. -/
def here (found : FoundNode) : ActionNode := found.below.here

end FoundNode

namespace Session

variable [ObjectModel] {α : Type}

/-- Do something on the rig. -/
def onRig (effect : Effect (Rig Runner) α) : Effect Session α :=
  Effect.zoom Session.rig (fun rig session => { session with rig := rig }) effect

/-- Execute something on the bench. -/
def execute (execution : Execution α) : Effect Session α := onRig (Rig.execute execution)

/-- Do something to the world. -/
def act (action : Action α) : Effect Session α := onRig (Rig.act action)

/-- The snapshot of a value. -/
def look (value : Value) : Effect Session Snapshot := act (Action.view value)

/-- What an option holds, or the failure of a place that is out of range. -/
def orOutOfRange (found : Option α) : Effect Session α :=
  match found with
  | some item => pure item
  | none => act (Action.fail .indexOutOfRange)

/-- The tree of a node, and the part of it from the node down. -/
def treeAt (ref : NodeRef) : Effect Session (SpecTree × ActionTree) := do
  let forest ← Effect.read Session.forest
  orOutOfRange <| do
    let tree ← forest[ref.tree]?
    let below ← tree.root.subtree? ref.address
    pure (tree, below)

/-- Find a node by its place among the known ones. A handle is kept under a place that is
counted from the start; any other place gets a new handle. -/
def find (place : Int) : Effect Session FoundNode := do
  let nodes ← Effect.read Session.nodes
  let known ← orOutOfRange (memberAt? nodes place)
  let (tree, below) ← treeAt known.ref
  let engine := if place < 0 then AssertionEngine.standard else known.engine
  pure ⟨⟨known.ref, engine⟩, tree, below⟩

/-- Replace a tree. -/
def setTree (index : Nat) (tree : SpecTree) : Effect Session Unit :=
  Effect.modify fun session => { session with forest := session.forest.setIfInBounds index tree }

/-- Add a tree; returns its root. -/
def addTree (tree : SpecTree) : Effect Session NodeRef :=
  Effect.update fun session =>
    (⟨session.forest.size, []⟩, { session with forest := session.forest.push tree })

/-- Get to know a node. -/
def know (known : KnownNode) : Effect Session Unit :=
  Effect.modify fun session => { session with nodes := session.nodes.push known }

/-- What is told about a node. -/
def infoOf (ref : NodeRef) : Effect Session NodeInfo := do
  let (tree, below) ← treeAt ref
  act (tree.require ref.address .variant (.noAttribute nothingType "value"))
  let label ← act below.here.label
  let text ← act (tree.nodeText ref.address below)
  let label ← look label
  let arguments ← act <| Effect.read fun world =>
    below.here.arguments.map fun arguments => arguments.map world.view
  let nodes ← Effect.read Session.nodes
  pure {
    index := nodes.findIdx? fun other => other.ref = ref
    variant := below.here.variant.word
    label
    arguments
    isRoot := tree.top ref.address == ref.address
    text }

/-- The answer that tells about a node. -/
def info (ref : NodeRef) : Effect Session Answer := do
  let told ← infoOf ref
  pure (.node told)

/-- Get to know a node and tell about it. -/
def introduce (known : KnownNode) : Effect Session Answer := do
  know known
  info known.ref

/-- Do something with the current runner. -/
def withCurrent (action : RunnerRef → Effect (Rig Runner) α) : Effect Session α := do
  let current ← Effect.read fun session => session.rig.current
  onRig (action current)

end Session

end DeferredSpec
