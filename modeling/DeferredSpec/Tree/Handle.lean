/-
# Handles

A handle stands for a node of a growing tree. Naming a member that handles do not
have themselves adds a node: the two assertion words open a case, any other word
below them is a step of the chain, and elsewhere it is a group. Calling a handle
records the arguments on its node; nothing runs until the tree is realized.
-/

import DeferredSpec.Assertion.Engine
import DeferredSpec.Tree.Execution

namespace DeferredSpec

/-- The word that opens an assertion. -/
def should : String := "should"

/-- The word that opens an assertion which may come true later. -/
def shouldEventually : String := "should_eventually"

/-- The words that open assertions. -/
def assertionEntries : List String := [should, shouldEventually]

namespace MemberTrap

/-- Names that tools look for on any object, which are therefore never trapped. -/
def reservedNames : List String := ["inspect", "pytestmark", "getdoc", "trait_names"]

/-- Whether a name is left alone. -/
def isReserved (name : String) : Bool := name.startsWith "_" || reservedNames.contains name

/-- Read an unknown member: names that are left alone are missing, and so is a
member that resolves to nothing. -/
def read {σ α : Type} (fail : Fault → Effect σ α) (owner name : String)
    (resolve : String → Effect σ (Option α)) : Effect σ α :=
  if isReserved name then fail (.reservedName name)
  else do
    let resolved ← resolve name
    match resolved with
    | some member => pure member
    | none => fail (.noAttribute owner name)

end MemberTrap

namespace SpecTree

variable [ObjectModel]

/-- The node that naming a member adds below an address: what it is described by,
what it does, and how it is realized. -/
def memberNode (tree : SpecTree) (engine : AssertionEngine) (parent : Address) (name : Value) :
    ActionNode :=
  let invoking : ActionNode :=
    { description := name
      step := fun arguments previous => engine.invoke previous name arguments
      variant := if tree.isBelow parent assertionEntries then .chainStep else .group }
  if invoking.isDescribedBy assertionEntries then
    { description := name, step := fun _ previous => engine.expect previous, variant := .leafCase }
  else invoking

/-- What is logged when a member adds a node. -/
def creationMessage (node : ActionNode) : Action String := do
  let name ← Action.plain node.description
  pure <|
    match node.variant with
    | .leafCase => "creating proxy property: " ++ name
    | variant => "creating proxy " ++ variant.word ++ ": " ++ name

/-- Attach a node below an address. It shares what its parent has of listeners. -/
def attach (tree : SpecTree) (parent : Address) (node : ActionNode) :
    Action (Address × SpecTree) := do
  tree.require parent .children (.noAttribute nothingType "append")
  let (address, root) := tree.root.attach parent node
  let losses := if tree.lacks parent .hooks then (address, .hooks) :: tree.losses else tree.losses
  pure (address, { tree with root, losses })

/-- Whether a parent lies below an entry is asked unless the name itself is one. -/
def requireAncestry (tree : SpecTree) (parent : Address) (node : ActionNode) : Action Unit :=
  match node.variant with
  | .leafCase => pure ()
  | _ => tree.require parent .ancestry (.notCallable nothingType)

/-- Name a member at an address, which adds a node. -/
def resolveMember (tree : SpecTree) (engine : AssertionEngine) (parent : Address) (name : Value) :
    Action (Address × SpecTree) := do
  let node := tree.memberNode engine parent name
  tree.requireAncestry parent node
  let message ← creationMessage node
  Action.log debugLevel handleLogger message
  tree.attach parent node

/-- Record the arguments of the call of a node, which are what a value holds. -/
def recordCall (tree : SpecTree) (address : Address) (attempted : Value) : Action SpecTree :=
  match tree.root.subtree? address with
  | none => pure tree
  | some found => do
      tree.require address .recording (.notCallable nothingType)
      let node ← found.here.record attempted
      pure { tree with root := tree.root.setNode address node }

/-- Call the handle of a node, which records the arguments. -/
def callNode (tree : SpecTree) (address : Address) (arguments : List Value) : Action SpecTree :=
  tree.recordCall address (.tuple arguments)

/-- The root of a tree over what a factory makes. -/
def subject (description : String) (factory : Action Value) : SpecTree where
  root := .single
    { description := .text description, step := fun _ _ => factory, variant := .group }

/-- The label of the node at an address. -/
def labelAt (tree : SpecTree) (address : Address) : Action Value :=
  match tree.root.subtree? address with
  | none => pure .null
  | some found => found.here.label

/-- The displayed text of a handle. -/
def handleText (tree : SpecTree) (address : Address) : Action String := do
  let label ← tree.labelAt address
  let shown ← Action.display label
  pure ("<ActionHandle " ++ shown ++ ">")

/-- The displayed text of a node. -/
def nodeText (tree : SpecTree) (address : Address) (found : ActionTree) : Action String := do
  tree.require address .variant (.noAttribute nothingType "value")
  let label ← found.here.label
  let shown ← Action.display label
  tree.require address .children (.noLength nothingType)
  pure ("ActionNode(" ++ found.here.variant.word ++ ", " ++ shown ++ ", children="
    ++ toString found.children.length ++ ")")

end SpecTree

end DeferredSpec
