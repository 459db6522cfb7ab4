/-
# What operations of handles make of a tree

A handle is used in two ways: a member is named, which adds a node, or the handle is
called, which puts arguments down on its node. Operations follow one another, each in the
world that the one before has left, and one that fails leaves the tree as it is. What a
sequence of operations makes of a tree does not depend on the world.
-/

import DeferredSpec.Proofs.Growth

namespace DeferredSpec

/-- An operation of a handle: a member is named below a node, or a node is called. To take
a step by its name is to name a member and, if there are arguments, to call it. -/
inductive HandleOperation
  | member (engine : AssertionEngine) (parent : Address) (name : String)
  | call (address : Address) (arguments : List Value)

namespace SpecTree

variable [ObjectModel] {tree : SpecTree}

/-- Carry out an operation. -/
def apply (tree : SpecTree) : HandleOperation → Action SpecTree
  | .member engine parent name => do
      let (_, grown) ← tree.resolveMember engine parent (.text name)
      pure grown
  | .call address arguments => tree.callNode address arguments

/-- Carry out operations one after another. An operation that fails leaves the tree as it
is, and the next one is carried out all the same. -/
def grow (tree : SpecTree) : List HandleOperation → World → SpecTree × World
  | [], world => (tree, world)
  | operation :: rest, world =>
      match tree.apply operation world with
      | (.returned grown, later) => grown.grow rest later
      | (.raised _, later) => tree.grow rest later

/-- The tree that an operation leaves behind. -/
def next (tree : SpecTree) : HandleOperation → SpecTree
  | .member engine parent name =>
      { tree with
        root := (tree.root.attach parent (tree.memberNode engine parent (.text name))).2 }
  | .call address arguments =>
      match tree.root.subtree? address with
      | none => tree
      | some found =>
          if found.here.isInvoked then tree
          else
            { tree with
              root := tree.root.setNode address
                { found.here with arguments := some arguments } }

/-- Naming a member by a word adds its node, whatever the world is. -/
theorem resolveMember_text (complete : tree.losses = []) (engine : AssertionEngine)
    (parent : Address) (name : String) (world : World) :
    ∃ later, tree.resolveMember engine parent (.text name) world =
      (.returned ((tree.root.attach parent (tree.memberNode engine parent (.text name))).1,
        tree.next (.member engine parent name)), later) := by
  generalize grows : tree.memberNode engine parent (.text name) = node
  have described : node.description = .text name := by
    rw [← grows]
    exact tree.memberNode_description engine parent (.text name)
  have asked : tree.requireAncestry parent node = pure () := by
    rw [requireAncestry]
    split
    · rfl
    · exact require_of_losses_eq_nil complete _ _ _
  obtain ⟨message, told⟩ : ∃ message, creationMessage node world = (.returned message, world) := by
    rw [creationMessage, described]
    exact ⟨_, rfl⟩
  refine ⟨world.record ⟨debugLevel, handleLogger, message⟩, ?_⟩
  rw [resolveMember, grows, asked, pure_bind, Effect.bind_apply, told, next, grows]
  simp only [attach, require_of_losses_eq_nil complete, lacks_of_losses_eq_nil complete, pure_bind]
  rfl

omit [ObjectModel] in
/-- A second call of a node fails. -/
theorem record_of_isInvoked {node : ActionNode} (invoked : node.isInvoked) (attempted : Value)
    (world : World) : (node.record attempted world).1.isReturned = false := by
  obtain ⟨recorded, known⟩ := Option.isSome_iff_exists.mp invoked
  rw [ActionNode.record, known]
  simp only [Effect.bind_apply]
  rcases SpecError.invocation node.description (.tuple recorded) attempted world with
    ⟨outcome, later⟩
  cases outcome <;> rfl

/-- An operation that returns leaves the next tree behind, and one that fails is one that
changes nothing. -/
theorem apply_outcome (complete : tree.losses = []) (operation : HandleOperation) (world : World) :
    (tree.apply operation world).1 = .returned (tree.next operation) ∨
      (tree.apply operation world).1.isReturned = false ∧ tree.next operation = tree := by
  cases operation with
  | member engine parent name =>
      obtain ⟨later, named⟩ := resolveMember_text complete engine parent name world
      rw [apply, Effect.bind_apply, named]
      exact .inl rfl
  | call address arguments =>
      rw [apply, callNode, recordCall, next]
      cases located : tree.root.subtree? address with
      | none => exact .inl rfl
      | some found =>
          simp only
          rw [require_of_losses_eq_nil complete, pure_bind, Effect.bind_apply]
          cases invoked : found.here.isInvoked with
          | true =>
              have failed := record_of_isInvoked invoked (.tuple arguments) world
              rcases recorded : found.here.record (.tuple arguments) world with ⟨outcome, later⟩
              rw [recorded] at failed
              cases outcome with
              | returned node => cases failed
              | raised error => exact .inr ⟨rfl, rfl⟩
          | false =>
              have recorded : found.here.record (.tuple arguments) world =
                  (.returned { found.here with arguments := some arguments }, world) := by
                have uncalled : found.here.arguments = none := by
                  simpa [ActionNode.isInvoked] using invoked
                rw [ActionNode.record, uncalled]
                rfl
              rw [recorded]
              exact .inl rfl

theorem next_losses (operation : HandleOperation) : (tree.next operation).losses = tree.losses := by
  cases operation with
  | member => rfl
  | call =>
      rw [next]
      split
      · rfl
      · split <;> rfl

/-- What operations make of a tree does not depend on the world in which they begin. -/
theorem grow_eq_foldl (complete : tree.losses = []) (operations : List HandleOperation)
    (world : World) : (tree.grow operations world).1 = operations.foldl next tree := by
  induction operations generalizing tree world with
  | nil => rfl
  | cons operation rest ih =>
      rw [grow, List.foldl_cons]
      have still := (next_losses operation).trans complete
      have outcome := apply_outcome complete operation world
      rcases ended : tree.apply operation world with ⟨result, later⟩
      rw [ended] at outcome
      rcases outcome with returned | ⟨failed, unchanged⟩
      · obtain rfl : result = .returned (tree.next operation) := returned
        exact ih still later
      · cases result with
        | returned grown => cases failed
        | raised error =>
            rw [unchanged]
            exact ih complete later

/-- Trees that operations make of a tree that grew have grown. -/
theorem Grown.grow (grown : tree.Grown) (operations : List HandleOperation) (world : World) :
    (tree.grow operations world).1.Grown := by
  induction operations generalizing tree world with
  | nil => exact grown
  | cons operation rest ih =>
      rw [SpecTree.grow]
      rcases ended : tree.apply operation world with ⟨outcome, later⟩
      cases outcome with
      | raised error => exact ih grown later
      | returned further =>
          refine ih ?_ later
          cases operation with
          | member engine parent name =>
              obtain ⟨⟨address, _⟩, middle, named, same⟩ := Effect.bind_eq_returned_iff.mp ended
              cases same
              exact grown.member named
          | call address arguments => exact grown.call ended

end SpecTree

end DeferredSpec
