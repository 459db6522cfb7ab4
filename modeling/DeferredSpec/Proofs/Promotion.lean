/-
# Entries that ask for retries

An assertion is opened by one of two words, and only the second asks for retries itself. A
sequence of operations is promoted by taking the second word wherever it takes the first. What
grows from the promoted operations is the same tree but for that word: every node has its kind,
its step and its arguments as before. The subject keeps its description, which no operation
chooses. So wherever an entry lies on the way, the promoted tree asks for retries just where
the other one does with an engine that retries by default.
-/

import DeferredSpec.Proofs.Descriptions
import DeferredSpec.Proofs.Nodes
import DeferredSpec.Proofs.Retries

namespace DeferredSpec

namespace ActionTree

mutual

/-- The tree with each of its nodes changed. -/
def mapNodes (change : ActionNode → ActionNode) : ActionTree → ActionTree
  | .node here children => .node (change here) (mapAll change children)

/-- Several trees with each of their nodes changed. -/
def mapAll (change : ActionNode → ActionNode) : List ActionTree → List ActionTree
  | [] => []
  | tree :: trees => mapNodes change tree :: mapAll change trees

end

variable {change : ActionNode → ActionNode}

theorem mapAll_eq_map (trees : List ActionTree) :
    mapAll change trees = trees.map (mapNodes change) := by
  induction trees with
  | nil => rfl
  | cons tree trees ih => rw [mapAll, ih, List.map_cons]

theorem mapNodes_node (here : ActionNode) (children : List ActionTree) :
    (node here children).mapNodes change = node (change here) (children.map (mapNodes change)) := by
  rw [mapNodes, mapAll_eq_map]

@[simp] theorem here_mapNodes (tree : ActionTree) :
    (tree.mapNodes change).here = change tree.here := by
  cases tree
  rfl

theorem children_mapNodes (tree : ActionTree) :
    (tree.mapNodes change).children = tree.children.map (mapNodes change) := by
  cases tree
  rw [mapNodes_node, children, children]

theorem getElem?_children_mapNodes (tree : ActionTree) (index : Nat) :
    (tree.mapNodes change).children[index]? = tree.children[index]?.map (mapNodes change) := by
  rw [children_mapNodes, List.getElem?_map]

/-- Nodes stay where they are when they are changed. -/
theorem subtree?_mapNodes (tree : ActionTree) (address : Address) :
    (tree.mapNodes change).subtree? address = (tree.subtree? address).map (mapNodes change) := by
  induction address generalizing tree with
  | nil => rfl
  | cons index rest ih =>
      rw [subtree?_cons, subtree?_cons, getElem?_children_mapNodes]
      cases tree.children[index]? with
      | none => rfl
      | some child => exact ih child

/-- The way to a node meets the changed nodes. -/
theorem trailFrom_mapNodes (tree : ActionTree) (walked address : Address) :
    (tree.mapNodes change).trailFrom walked address =
      (tree.trailFrom walked address).map fun entry => (entry.1, change entry.2) := by
  induction address generalizing tree walked with
  | nil =>
      rw [trailFrom, here_mapNodes]
      rfl
  | cons index rest ih =>
      rw [trailFrom, trailFrom, here_mapNodes, getElem?_children_mapNodes]
      cases tree.children[index]? with
      | none => rfl
      | some child =>
          rw [List.map_cons, Option.map_some]
          exact congrArg _ (ih child (walked ++ [index]))

/-- Changing nodes and changing what lies at an address can be done in either order. -/
theorem mapNodes_modifyAt {first second : ActionTree → ActionTree}
    (commutes : ∀ found, (first found).mapNodes change = second (found.mapNodes change))
    (tree : ActionTree) (address : Address) :
    (tree.modifyAt first address).mapNodes change =
      (tree.mapNodes change).modifyAt second address := by
  induction address generalizing tree with
  | nil => exact commutes tree
  | cons index rest ih =>
      rw [modifyAt, modifyAt, getElem?_children_mapNodes]
      cases tree.children[index]? with
      | none => rfl
      | some child =>
          rw [Option.map_some, mapNodes_node, List.map_set, ih child, here_mapNodes,
            children_mapNodes]

end ActionTree

/-- The word that is taken for a word: the entry that asks for retries for the one that does
not. -/
def promotedWord (word : String) : String := if word = should then shouldEventually else word

theorem promotedWord_of_ne {word : String} (other : word ≠ should) : promotedWord word = word :=
  if_neg other

/-- What is taken for a description. -/
def promotedName : Value → Value
  | .text word => .text (promotedWord word)
  | other => other

namespace ActionNode

/-- The node under the description that is taken for its own. -/
def promoted (node : ActionNode) : ActionNode :=
  { node with description := promotedName node.description }

@[simp] theorem promoted_step (node : ActionNode) : node.promoted.step = node.step := rfl

@[simp] theorem promoted_arguments (node : ActionNode) :
    node.promoted.arguments = node.arguments := rfl

@[simp] theorem promoted_variant (node : ActionNode) : node.promoted.variant = node.variant := rfl

theorem isDescribedBy_should {node : ActionNode} :
    node.isDescribedBy [should] ↔ node.description = .text should := by
  rw [isDescribedBy]
  cases node.description with
  | text word => simp
  | _ => simp

theorem promoted_of_not_isDescribedBy {node : ActionNode}
    (other : node.isDescribedBy [should] = false) : node.promoted = node := by
  have free : node.description ≠ .text should := fun described => by
    rw [isDescribedBy_should.mpr described] at other
    cases other
  rcases node with ⟨description, step, variant, arguments⟩
  cases description with
  | text word =>
      have named : word ≠ should := fun same => free (by rw [same])
      rw [promoted, promotedName, promotedWord_of_ne named]
  | _ => rfl

theorem isDescribedBy_entries (node : ActionNode) :
    node.isDescribedBy assertionEntries =
      (node.isDescribedBy [shouldEventually] || node.isDescribedBy [should]) := by
  rw [isDescribedBy, isDescribedBy, isDescribedBy]
  cases node.description with
  | text word => simp [assertionEntries, Bool.or_comm]
  | _ => rfl

/-- No promoted node is described by the first word. -/
theorem not_isDescribedBy_promoted (node : ActionNode) :
    node.promoted.isDescribedBy [should] = false := by
  cases first : node.isDescribedBy [should] with
  | false => rw [promoted_of_not_isDescribedBy first, first]
  | true =>
      rw [promoted, isDescribedBy_should.mp first]
      rfl

/-- A promoted node asks for retries just if the node is an entry. -/
theorem isDescribedBy_promoted (node : ActionNode) :
    node.promoted.isDescribedBy [shouldEventually] = node.isDescribedBy assertionEntries := by
  rw [isDescribedBy_entries]
  cases first : node.isDescribedBy [should] with
  | false => rw [promoted_of_not_isDescribedBy first, Bool.or_false]
  | true =>
      rw [promoted, isDescribedBy_should.mp first, Bool.or_true]
      rfl

theorem isDescribedBy_entries_promoted (node : ActionNode) :
    node.promoted.isDescribedBy assertionEntries = node.isDescribedBy assertionEntries := by
  rw [isDescribedBy_entries, isDescribedBy_promoted, not_isDescribedBy_promoted, Bool.or_false]

end ActionNode

namespace ActionTree

/-- The tree with all its nodes promoted. -/
def promoted (tree : ActionTree) : ActionTree := tree.mapNodes ActionNode.promoted

theorem promoted_node (here : ActionNode) (children : List ActionTree) :
    (node here children).promoted = node here.promoted (children.map promoted) :=
  mapNodes_node here children

theorem here_promoted (tree : ActionTree) : tree.promoted.here = tree.here.promoted :=
  tree.here_mapNodes

theorem children_promoted (tree : ActionTree) :
    tree.promoted.children = tree.children.map promoted := tree.children_mapNodes

/-- The tree with all nodes below its root promoted. -/
def promotedBelow (tree : ActionTree) : ActionTree :=
  .node tree.here (tree.children.map promoted)

theorem subtree?_promotedBelow_cons (tree : ActionTree) (index : Nat) (rest : Address) :
    tree.promotedBelow.subtree? (index :: rest) =
      (tree.subtree? (index :: rest)).map promoted := by
  rw [subtree?_cons, subtree?_cons, promotedBelow, children, List.getElem?_map]
  cases tree.children[index]? with
  | none => rfl
  | some child => exact child.subtree?_mapNodes rest

theorem promotedBelow_eq_promoted {tree : ActionTree} (same : tree.here.promoted = tree.here) :
    tree.promotedBelow = tree.promoted := by
  cases tree with
  | node here children =>
      rw [promoted_node]
      exact congrArg (node · _) same.symm

theorem trail_eq_cons (tree : ActionTree) (address : Address) :
    tree.trail address = ([], tree.here) :: (tree.trail address).tail := by
  cases address <;> rfl

/-- The way to a node meets promoted nodes below the root. -/
theorem trail_promotedBelow (tree : ActionTree) (address : Address) :
    tree.promotedBelow.trail address =
      ([], tree.here) ::
        (tree.trail address).tail.map fun entry => (entry.1, entry.2.promoted) := by
  cases address with
  | nil => rfl
  | cons index rest =>
      rw [trail, trail, trailFrom, trailFrom, promotedBelow, children, List.getElem?_map]
      cases tree.children[index]? with
      | none => rfl
      | some child => exact congrArg _ (child.trailFrom_mapNodes [index] rest)

/-- Promotion and a change at an address below the root can be done in either order. -/
theorem promotedBelow_modifyAt_cons {first second : ActionTree → ActionTree}
    (commutes : ∀ found, (first found).promoted = second found.promoted)
    (tree : ActionTree) (index : Nat) (rest : Address) :
    (tree.modifyAt first (index :: rest)).promotedBelow =
      tree.promotedBelow.modifyAt second (index :: rest) := by
  rw [modifyAt, modifyAt, promotedBelow, promotedBelow, children, List.getElem?_map]
  cases tree.children[index]? with
  | none => rfl
  | some child =>
      rw [Option.map_some, here, children, List.map_set]
      exact congrArg _ (congrArg _ (mapNodes_modifyAt commutes child rest))

theorem promoted_addChild (child : ActionNode) (tree : ActionTree) :
    (tree.addChild child).promoted = tree.promoted.addChild child.promoted := by
  rw [addChild, addChild, promoted_node, here_promoted, children_promoted, List.map_append]
  rfl

/-- Attaching the promoted node to the promoted tree promotes what attaching the node makes. -/
theorem promotedBelow_attach (tree : ActionTree) (parent : Address) (child : ActionNode) :
    (tree.attach parent child).2.promotedBelow =
      (tree.promotedBelow.attach parent child.promoted).2 := by
  cases parent with
  | nil =>
      simp only [attach, modifyAt, addChild, promotedBelow, here, children, List.map_append]
      rfl
  | cons index rest =>
      exact promotedBelow_modifyAt_cons (promoted_addChild child) tree index rest

theorem promotedBelow_setNode_cons (tree : ActionTree) (index : Nat) (rest : Address)
    (node : ActionNode) :
    (tree.setNode (index :: rest) node).promotedBelow =
      tree.promotedBelow.setNode (index :: rest) node.promoted := by
  refine promotedBelow_modifyAt_cons (fun found => ?_) tree index rest
  rw [promoted_node, children_promoted]

end ActionTree

/-- The operation with the second entry in the place of the first. -/
def HandleOperation.promoted : HandleOperation → HandleOperation
  | .member engine parent name => .member engine parent (promotedWord name)
  | .call address arguments => .call address arguments

namespace SpecTree

/-- The tree with all nodes below its root promoted. -/
def promoted (tree : SpecTree) : SpecTree := { tree with root := tree.root.promotedBelow }

/-- Where there is a node there is one with the same step below which all is promoted, and
elsewhere there is none. -/
theorem subtree?_promoted (tree : SpecTree) (address : Address) :
    match tree.root.subtree? address with
    | none => tree.promoted.root.subtree? address = none
    | some found => ∃ twin, tree.promoted.root.subtree? address = some twin ∧
        twin.here.step = found.here.step ∧ twin.here.arguments = found.here.arguments ∧
        twin.children = found.children.map ActionTree.promoted := by
  cases address with
  | nil => exact ⟨tree.promoted.root, rfl, rfl, rfl, rfl⟩
  | cons index rest =>
      have there := tree.root.subtree?_promotedBelow_cons index rest
      rw [promoted, there]
      cases tree.root.subtree? (index :: rest) with
      | none => rfl
      | some found =>
          refine ⟨found.promoted, rfl, ?_, ?_, found.children_promoted⟩
          · rw [found.here_promoted, ActionNode.promoted_step]
          · rw [found.here_promoted, ActionNode.promoted_arguments]

variable {tree : SpecTree}

/-- An entry lies on the way to a node, the subject aside. -/
def IsAsserted (tree : SpecTree) (address : Address) : Prop :=
  (tree.root.trail address).tail.any fun entry => entry.2.isDescribedBy assertionEntries

theorem IsAsserted.append {address : Address} (asserted : tree.IsAsserted address)
    (rest : Address) : tree.IsAsserted (address ++ rest) := by
  have longer := tree.root.trailFrom_prefix [] address rest
  rw [← ActionTree.trail, ← ActionTree.trail, tree.root.trail_eq_cons address,
    tree.root.trail_eq_cons (address ++ rest), List.prefix_cons_inj] at longer
  rw [IsAsserted, List.any_eq_true] at asserted ⊢
  obtain ⟨entry, onWay, described⟩ := asserted
  exact ⟨entry, longer.subset onWay, described⟩

/-- An entry below the subject lies on the way to itself. -/
theorem isAsserted_of_isDescribedBy {address : Address} {found : ActionTree}
    (strict : address ≠ []) (located : tree.root.subtree? address = some found)
    (entry : found.here.isDescribedBy assertionEntries) : tree.IsAsserted address := by
  rcases List.eq_nil_or_concat address with rfl | ⟨parent, index, rfl⟩
  · exact absurd rfl strict
  · rw [List.concat_eq_append] at located ⊢
    obtain ⟨around, above, listed⟩ := ActionTree.exists_parent located
    rw [IsAsserted, ActionTree.trail_concat above listed, tree.root.trail_eq_cons parent]
    simp [entry]

/-- A promoted tree has the same entries in the same places. -/
theorem isBelow_promoted (complete : tree.losses = []) (address : Address) :
    tree.promoted.isBelow address assertionEntries = tree.isBelow address assertionEntries := by
  have still : tree.promoted.losses = [] := complete
  rw [isBelow, isBelow, trail_of_losses_eq_nil complete, trail_of_losses_eq_nil still,
    tree.root.trail_eq_cons address, promoted, ActionTree.trail_promotedBelow]
  generalize (tree.root.trail address).tail = below
  simp [List.any_map, Function.comp_def, ActionNode.isDescribedBy_entries_promoted]

/-- Below an entry, or below a subject that is not described by the first one, the promoted
tree asks for retries by itself just where the tree does with an engine that retries by
default. -/
theorem isEventual_promoted (complete : tree.losses = []) (budget : Nat) (delay : Delay)
    {address : Address}
    (asserted : tree.root.here.isDescribedBy [should] → tree.IsAsserted address) :
    (⟨budget, delay, false⟩ : RetryEngine).isEventual tree.promoted address =
      (⟨budget, delay, true⟩ : RetryEngine).isEventual tree address := by
  have still : tree.promoted.losses = [] := complete
  rw [RetryEngine.isEventual_eq_awaits still, RetryEngine.isEventual_eq_awaits complete,
    RetryEngine.awaits, RetryEngine.awaits, promoted, ActionTree.trail_promotedBelow]
  rw [IsAsserted] at asserted
  obtain ⟨below, way⟩ : ∃ below, tree.root.trail address = ([], tree.root.here) :: below :=
    ⟨_, tree.root.trail_eq_cons address⟩
  rw [way, List.tail_cons] at asserted ⊢
  simp only [List.any_cons, List.any_map, Function.comp_def, ActionNode.isDescribedBy_promoted,
    ← ActionNode.isDescribedBy_entries, Bool.false_and, Bool.or_false, Bool.true_and]
  cases first : tree.root.here.isDescribedBy [should] with
  | false => rw [tree.root.here.isDescribedBy_entries, first, Bool.or_false]
  | true => rw [asserted first, Bool.or_true, Bool.or_true]

variable [ObjectModel]

/-- Naming the word that is taken for a word adds the promoted node. -/
theorem memberNode_promoted (complete : tree.losses = []) (engine : AssertionEngine)
    (parent : Address) (name : String) :
    tree.promoted.memberNode engine parent (.text (promotedWord name)) =
      (tree.memberNode engine parent (.text name)).promoted := by
  by_cases first : name = should
  · subst first
    rw [memberNode_of_isEntry tree engine parent rfl,
      memberNode_of_isEntry tree.promoted engine parent rfl]
    rfl
  · have same := promotedWord_of_ne first
    have other : (tree.memberNode engine parent (.text name)).isDescribedBy [should] = false := by
      simp [ActionNode.isDescribedBy, memberNode_description, first]
    rw [same, ActionNode.promoted_of_not_isDescribedBy other, memberNode, memberNode,
      isBelow_promoted complete]

/-- The promoted operation makes the promoted tree. -/
theorem next_promoted (complete : tree.losses = []) (operation : HandleOperation) :
    tree.promoted.next operation.promoted = (tree.next operation).promoted := by
  cases operation with
  | member engine parent name =>
      simp only [HandleOperation.promoted, next, memberNode_promoted complete]
      simp only [promoted, ActionTree.promotedBelow_attach]
  | call address arguments =>
      rw [HandleOperation.promoted, next, next]
      cases address with
      | nil =>
          have invoked : tree.promoted.root.here.isInvoked = tree.root.here.isInvoked := rfl
          simp only [ActionTree.subtree?_nil, invoked]
          split <;> rfl
      | cons index rest =>
          simp only [promoted, ActionTree.subtree?_promotedBelow_cons]
          cases tree.root.subtree? (index :: rest) with
          | none => rfl
          | some found =>
              have invoked : found.promoted.here.isInvoked = found.here.isInvoked := by
                rw [found.here_promoted, ActionNode.isInvoked, ActionNode.promoted_arguments,
                  ActionNode.isInvoked]
              simp only [Option.map_some, invoked]
              cases found.here.isInvoked with
              | true => rfl
              | false =>
                  rw [if_neg Bool.false_ne_true, if_neg Bool.false_ne_true,
                    ActionTree.promotedBelow_setNode_cons, found.here_promoted]
                  rfl

theorem foldl_next_promoted (complete : tree.losses = []) (operations : List HandleOperation) :
    (operations.map HandleOperation.promoted).foldl next tree.promoted =
      (operations.foldl next tree).promoted := by
  induction operations generalizing tree with
  | nil => rfl
  | cons operation rest ih =>
      rw [List.map_cons, List.foldl_cons, List.foldl_cons, next_promoted complete]
      exact ih ((next_losses operation).trans complete)

/-- What grows from promoted operations is the promoted tree, in whatever worlds both grow. -/
theorem grownFrom_promoted (description : String) (factory : Action Value)
    (listeners : Listeners) (operations : List HandleOperation) (world other : World) :
    grownFrom description factory listeners (operations.map HandleOperation.promoted) other =
      (grownFrom description factory listeners operations world).promoted := by
  rw [grownFrom_eq, grownFrom_eq, ← foldl_next_promoted rfl]
  rfl

end SpecTree

end DeferredSpec
