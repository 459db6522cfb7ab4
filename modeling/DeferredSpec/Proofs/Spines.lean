/-
# Trees that do not branch

Writing one chain of members and calls on a subject, with one entry on the way, grows a tree
that does not branch: the groups of the members before the entry, the case of the entry, and
a step of the chain for every member behind it.
-/

import DeferredSpec.Proofs.Growth

namespace DeferredSpec

/-- A link of a written chain: the name of a member, and the arguments of a call if the
member is called. A word that opens a case is no link. -/
structure Link where
  name : String
  arguments : Option (List Value) := none
  isMember : assertionEntries.contains name = false := by decide

namespace ActionTree

/-- What lies below a node of a tree that does not branch. -/
def beneath : List ActionNode → List ActionTree
  | [] => []
  | here :: rest => [.node here (beneath rest)]

/-- A tree that does not branch, from its top down. -/
def spine (top : ActionNode) (rest : List ActionNode) : ActionTree := .node top (beneath rest)

/-- The address of the node at a depth of a tree that does not branch. -/
def downTo (depth : Nat) : Address := List.replicate depth 0

section Ends

variable (top : ActionNode) (rest : List ActionNode)

end Ends

end ActionTree

namespace Link

variable [ObjectModel]

/-- The node that a link grows to. -/
def node (variant : Variant) (link : Link) : ActionNode where
  description := .text link.name
  step := fun arguments previous =>
    AssertionEngine.standard.invoke previous (.text link.name) arguments
  variant := variant
  arguments := link.arguments

end Link

namespace SpecTree

variable [ObjectModel]

/-- Write a link behind a handle: name the member, and call the new handle if the link says
so. -/
def addLink (tree : SpecTree) (address : Address) (link : Link) : Action (Address × SpecTree) := do
  let (child, grown) ← tree.resolveMember .standard address (.text link.name)
  match link.arguments with
  | none => pure (child, grown)
  | some arguments => do
      let called ← grown.callNode child arguments
      pure (child, called)

/-- Write links one behind the other. -/
def addLinks (tree : SpecTree) (address : Address) : List Link → Action (Address × SpecTree)
  | [] => pure (address, tree)
  | link :: links => do
      let (child, grown) ← tree.addLink address link
      grown.addLinks child links

/-- Write a path of members on a subject, an entry, and a chain of links behind it. -/
def write (description : String) (factory : Action Value) (path links : List Link) :
    Action SpecTree := do
  let (group, grouped) ← (subject description factory).addLinks [] path
  let (case, opened) ← grouped.resolveMember .standard group (.text should)
  let (_, written) ← opened.addLinks case links
  pure written

/-- A tree that does not branch, to which nobody listens. -/
def straight (top : ActionNode) (rest : List ActionNode) : SpecTree where
  root := .spine top rest

section Straight

variable (top : ActionNode) (rest : List ActionNode) (world : World)

end Straight

/-- The node of a subject, which makes it anew. -/
def subjectNode (description : String) (factory : Action Value) : ActionNode where
  description := .text description
  step := fun _ _ => factory
  variant := .group

end SpecTree

end DeferredSpec
