/-
# Action trees

A node is one deferred step: a function of the previous result, described by a
word and, once it was called, by the arguments of that call. Nodes are addressed
by the positions of the children on the way from the root; children are only ever
added behind the others, so an address keeps its meaning as the tree grows.
-/

import DeferredSpec.World.SpecError

namespace DeferredSpec

/-- How a node is realized: as a group, as a case, or at once inside a case. -/
inductive Variant
  | group
  | leafCase
  | chainStep
  deriving DecidableEq, Repr

namespace Variant

/-- The word for a variant. -/
def word : Variant → String
  | .group => "group"
  | .leafCase => "leaf_case"
  | .chainStep => "chain_step"

end Variant

/-- What a step does: a function of the arguments recorded on its node, if any,
and of the previous result. -/
abbrev Step : Type := Option (List Value) → Value → Action Value

/-- A node of an action tree, without its place in the tree. What describes a node is a
word as a rule. -/
structure ActionNode where
  description : Value
  step : Step
  variant : Variant
  arguments : Option (List Value) := none

namespace ActionNode

/-- Whether the node was called, and not only named. -/
def isInvoked (node : ActionNode) : Bool := node.arguments.isSome

/-- Whether the node is described by one of several words. -/
def isDescribedBy (words : List String) (node : ActionNode) : Bool :=
  match node.description with
  | .text word => words.contains word
  | _ => false

/-- The description, with the recorded arguments if the node was called. -/
def label (node : ActionNode) : Action Value :=
  match node.arguments with
  | none => pure node.description
  | some arguments => do
      let description ← Action.plain node.description
      let rendered ← Action.renderAll arguments
      pure (.text (description ++ "(" ++ rendered ++ ")"))

/-- The label as it stands in running text. -/
def labelText (node : ActionNode) : Action String := do
  let label ← node.label
  Action.plain label

/-- Record the arguments of the call of a node, which are what a value holds. A node
takes one call. -/
def record (node : ActionNode) (attempted : Value) : Action ActionNode :=
  match node.arguments with
  | none => do
      let arguments ← attempted.iterate
      pure { node with arguments := some arguments }
  | some recorded => do
      let error ← SpecError.invocation node.description (.tuple recorded) attempted
      Effect.raise error

end ActionNode

/-- An action tree: a node with its children in the order of their attachment. -/
inductive ActionTree
  | node (here : ActionNode) (children : List ActionTree)

/-- The way from the root to a node: which child to take at each level. -/
abbrev Address : Type := List Nat

namespace ActionTree

/-- The node at the root of a tree. -/
def here : ActionTree → ActionNode
  | .node here _ => here

/-- The children of the root of a tree. -/
def children : ActionTree → List ActionTree
  | .node _ children => children

/-- A tree of one node. -/
def single (node : ActionNode) : ActionTree := .node node []

/-- The subtree at an address. -/
def subtree? (tree : ActionTree) : Address → Option ActionTree
  | [] => some tree
  | index :: rest =>
      match tree.children[index]? with
      | none => none
      | some child => child.subtree? rest

/-- The nodes from the root to an address, each with its own address. `walked` is
the address of the tree itself. -/
def trailFrom (tree : ActionTree) (walked : Address) : Address → List (Address × ActionNode)
  | [] => [(walked, tree.here)]
  | index :: rest =>
      (walked, tree.here) ::
        match tree.children[index]? with
        | none => []
        | some child => child.trailFrom (walked ++ [index]) rest

/-- The nodes from the root to an address, root first. -/
def trail (tree : ActionTree) (address : Address) : List (Address × ActionNode) :=
  tree.trailFrom [] address

/-- Change the subtree at an address. -/
def modifyAt (change : ActionTree → ActionTree) (tree : ActionTree) : Address → ActionTree
  | [] => change tree
  | index :: rest =>
      match tree.children[index]? with
      | none => tree
      | some child => .node tree.here (tree.children.set index (child.modifyAt change rest))

/-- Add a child behind the others. -/
def addChild (child : ActionNode) (tree : ActionTree) : ActionTree :=
  .node tree.here (tree.children ++ [single child])

/-- Attach a node below an address; returns the new address and the tree. -/
def attach (tree : ActionTree) (parent : Address) (child : ActionNode) : Address × ActionTree :=
  let index := ((tree.subtree? parent).map fun found => found.children.length).getD 0
  (parent ++ [index], tree.modifyAt (addChild child) parent)

/-- Replace the node at an address and keep its children. -/
def setNode (tree : ActionTree) (address : Address) (node : ActionNode) : ActionTree :=
  tree.modifyAt (fun found => .node node found.children) address

@[simp] theorem subtree?_nil (tree : ActionTree) : tree.subtree? [] = some tree := rfl

/-- An address is followed part by part. -/
theorem subtree?_append (tree : ActionTree) (first second : Address) :
    tree.subtree? (first ++ second) =
      (tree.subtree? first).bind fun found => found.subtree? second := by
  induction first generalizing tree with
  | nil => rfl
  | cons index rest ih =>
      rw [List.cons_append, subtree?, subtree?]
      cases tree.children[index]? with
      | none => rfl
      | some child => exact ih child

@[simp] theorem attach_snd_here (tree : ActionTree) (parent : Address) (child : ActionNode) :
    (tree.attach parent child).2.here = tree.here := by
  cases parent with
  | nil => rfl
  | cons index rest =>
      simp only [attach, modifyAt]
      split <;> rfl

end ActionTree

end DeferredSpec
