/-
# Titles

Groups are titled by what they do, cases by the words and arguments along the
chain below them, as far as the chain does not branch.
-/

import DeferredSpec.Tree.Execution

namespace DeferredSpec

/-- The title of the group of a node. -/
def groupTitle (node : ActionNode) : Action String := do
  let label ← node.labelText
  pure ("when doing " ++ label)

/-- What a node adds to a case title: its description and its arguments, if it has any. -/
def titleChunks (node : ActionNode) : Action (List Value) :=
  match node.arguments with
  | none => pure [node.description]
  | some [] => pure [node.description]
  | some arguments => do
      let rendered ← Action.renderAll arguments
      pure [node.description, .text rendered]

/-- The texts among several values, which must all be texts; the first of them has the
given place. -/
def textsFrom (next : Nat) : List Value → Action (List String)
  | [] => pure []
  | .text text :: rest => do
      let texts ← textsFrom (next + 1) rest
      pure (text :: texts)
  | other :: _ => do
      let kind ← Action.typeName other
      Action.fail (.notATextItem next kind)

namespace SpecTree

/-- The chunks of a case title along the unbranched chain from a node on. -/
def chainChunks (tree : SpecTree) (address : Address) : ActionTree → Action (List Value)
  | .node here children => do
      let own ← titleChunks here
      tree.require address .children (.noLength nothingType)
      match children with
      | [child] => do
          let rest ← tree.chainChunks (address ++ [0]) child
          pure (own ++ rest)
      | _ => pure own

/-- The title of the case of a node. -/
def caseTitle (tree : SpecTree) (address : Address) (found : ActionTree) : Action String := do
  let chunks ← tree.chainChunks address found
  let texts ← textsFrom 0 chunks
  pure (" ".intercalate texts)

end SpecTree

end DeferredSpec
