/-
# Links between the nodes of a tree

A node can be reached from its parent, in whose list of children it stands, and leads back to
it. In a tree that has lost nothing both directions agree: a node stands once in one list, the
way up from it ends at the root, and the root is the one node without a parent. Two changes let
a tree grow, the attachment of a child and the recording of arguments, and neither touches what
was there before.
-/

import DeferredSpec.Proofs.Nodes
import DeferredSpec.Session.Chain
import Mathlib.Data.List.Chain

namespace DeferredSpec

namespace SpecTree

/-- Whether the nodes of the tree at a place are linked as a tree: parents, lists of children
and ways up agree with each other, and no node has lost its listeners. -/
structure IsLinked (tree : SpecTree) (place : Nat) : Prop where
  isGroup : tree.root.here.variant = .group
  orphan : ∀ address, (tree.root.nodeAt? address).isSome →
    (Session.parentOf tree ⟨place, address⟩ = .value .null ↔ address = [])
  child : ∀ address, (tree.root.nodeAt? address).isSome → address ≠ [] →
    ∃ parent, (tree.root.nodeAt? parent).isSome ∧
      Session.parentOf tree ⟨place, address⟩ = .node ⟨place, parent⟩ ∧
      ∀ owner, (tree.root.childrenAt owner).count address = if owner = parent then 1 else 0
  listed : ∀ owner, ∀ address ∈ tree.root.childrenAt owner, (tree.root.nodeAt? address).isSome
  ancestors : ∀ address, (tree.root.nodeAt? address).isSome →
    let line := (tree.trail address).reverse.map Prod.fst
    line.head? = some address ∧ line.getLast? = some [] ∧ line.Nodup ∧
      line.IsChain (fun node above =>
        Session.parentOf tree ⟨place, node⟩ = .node ⟨place, above⟩) ∧
      ∀ entry ∈ tree.trail address, tree.root.nodeAt? entry.1 = some entry.2
  hooks : ∀ address, tree.lacks address .hooks = false

/-- Whether a tree may have come of another one by growth: all nodes are still there, with the
arguments that were put down, and lists of children got longer at their ends only. -/
structure GrowsTo (earlier : SpecTree) (place : Nat) (later : SpecTree) : Prop where
  listeners : later.listeners = earlier.listeners
  nodes : ∀ address node, earlier.root.nodeAt? address = some node →
    ∃ arguments, later.root.nodeAt? address = some { node with arguments } ∧
      (node.isInvoked → arguments = node.arguments)
  parents : ∀ address, (earlier.root.nodeAt? address).isSome →
    Session.parentOf later ⟨place, address⟩ = Session.parentOf earlier ⟨place, address⟩
  children : ∀ address, earlier.root.childrenAt address <+: later.root.childrenAt address

/-- Whether one node was attached and nothing else changed: it is the last child of its
parent. -/
structure GainsChild (earlier : SpecTree) (parent : Address) (node : ActionNode)
    (later : SpecTree) : Prop where
  nodes : ∀ address, later.root.nodeAt? address =
    if address = parent ++ [earlier.root.childCount parent] then some node
    else earlier.root.nodeAt? address
  children : ∀ owner, later.root.childrenAt owner =
    if owner = parent then
      earlier.root.childrenAt parent ++ [parent ++ [earlier.root.childCount parent]]
    else earlier.root.childrenAt owner
  listeners : later.listeners = earlier.listeners
  losses : later.losses = earlier.losses

/-- Whether arguments were put down on a node and nothing else changed. -/
structure GainsArguments (earlier : SpecTree) (address : Address) (arguments : List Value)
    (later : SpecTree) : Prop where
  nodes : ∀ other, later.root.nodeAt? other =
    if other = address then
      (earlier.root.nodeAt? address).map fun node => { node with arguments := some arguments }
    else earlier.root.nodeAt? other
  children : ∀ owner, later.root.childrenAt owner = earlier.root.childrenAt owner
  listeners : later.listeners = earlier.listeners
  losses : later.losses = earlier.losses

/-- The arguments recorded on the node at an address. -/
def argumentsAt (tree : SpecTree) (address : Address) : Option (List Value) :=
  (tree.root.nodeAt? address).bind ActionNode.arguments

variable {tree earlier middle later : SpecTree} {place : Nat}

/-- In a tree that has lost nothing, every way up ends at the root. -/
theorem top_of_losses_eq_nil (complete : tree.losses = []) (address : Address) :
    tree.top address = [] := by
  rw [top, trail_of_losses_eq_nil complete, ActionTree.trail]
  cases address <;> rfl

theorem parentOf_nil (complete : tree.losses = []) :
    Session.parentOf tree ⟨place, []⟩ = .value .null := by
  rw [Session.parentOf, top_of_losses_eq_nil complete]
  rfl

theorem parentOf_concat (complete : tree.losses = []) (parent : Address) (index : Nat) :
    Session.parentOf tree ⟨place, parent ++ [index]⟩ = .node ⟨place, parent⟩ := by
  rw [Session.parentOf, top_of_losses_eq_nil complete, if_neg (by simp), List.dropLast_concat]

theorem parentOf_congr (complete : earlier.losses = []) (still : later.losses = [])
    (ref : NodeRef) : Session.parentOf later ref = Session.parentOf earlier ref := by
  rw [Session.parentOf, Session.parentOf, top_of_losses_eq_nil complete,
    top_of_losses_eq_nil still]

/-- The way up from a node begins with it, goes from each node to its parent and ends at the
root. -/
theorem ancestors_of_losses_eq_nil (complete : tree.losses = []) (place : Nat) {address : Address}
    (there : (tree.root.nodeAt? address).isSome) :
    let line := (tree.trail address).reverse.map Prod.fst
    line.head? = some address ∧ line.getLast? = some [] ∧
      line.IsChain fun node above =>
        Session.parentOf tree ⟨place, node⟩ = .node ⟨place, above⟩ := by
  rw [trail_of_losses_eq_nil complete]
  induction address using List.reverseRecOn with
  | nil => exact ⟨rfl, rfl, List.isChain_singleton _⟩
  | append_singleton parent index ih =>
      obtain ⟨node, known⟩ := Option.isSome_iff_exists.mp there
      obtain ⟨found, located, _⟩ := ActionTree.exists_subtree? known
      obtain ⟨around, above, child⟩ := ActionTree.exists_parent located
      have further := ih (ActionTree.isSome_nodeAt?_of_concat there)
      rw [ActionTree.trail_concat above child, List.reverse_concat, List.map_cons]
      obtain ⟨first, last, linked⟩ := further
      refine ⟨rfl, ?_, ?_⟩
      · rw [List.getLast?_cons, last]
        rfl
      · refine List.isChain_cons.mpr ⟨fun above found => ?_, linked⟩
        obtain rfl := Option.some.inj (first.symm.trans found)
        exact parentOf_concat complete parent index

/-- A tree that has lost nothing, with a group as its root, is linked as a tree. -/
theorem isLinked (complete : tree.losses = []) (isGroup : tree.root.here.variant = .group)
    (place : Nat) : tree.IsLinked place where
  isGroup := isGroup
  orphan address there := by
    cases address using List.reverseRecOn with
    | nil => exact iff_of_true (parentOf_nil complete) rfl
    | append_singleton parent index =>
        rw [parentOf_concat complete]
        exact iff_of_false Holding.noConfusion (by simp)
  child address there strict := by
    cases address using List.reverseRecOn with
    | nil => exact absurd rfl strict
    | append_singleton parent index =>
        exact ⟨parent, ActionTree.isSome_nodeAt?_of_concat there,
          parentOf_concat complete parent index, ActionTree.count_childrenAt there⟩
  listed _ _ member := (ActionTree.mem_childrenAt.mp member).elim fun _ found => found.2
  ancestors address there := by
    obtain ⟨first, last, linked⟩ := ancestors_of_losses_eq_nil complete place there
    refine ⟨first, last, ?_, linked, ?_⟩
    · rw [trail_of_losses_eq_nil complete, List.map_reverse, List.nodup_reverse]
      exact ActionTree.nodup_trailFrom tree.root [] address
    · rw [trail_of_losses_eq_nil complete]
      exact fun entry => ActionTree.nodeAt?_of_mem_trail there
  hooks _ := lacks_of_losses_eq_nil complete _ .hooks

theorem GrowsTo.refl (tree : SpecTree) (place : Nat) : tree.GrowsTo place tree where
  listeners := rfl
  nodes _ node known := ⟨node.arguments, known, fun _ => rfl⟩
  parents _ _ := rfl
  children _ := List.prefix_refl _

/-- Nodes that are kept by growth are kept. -/
theorem GrowsTo.isSome (grows : earlier.GrowsTo place later) {address : Address}
    (there : (earlier.root.nodeAt? address).isSome) : (later.root.nodeAt? address).isSome := by
  obtain ⟨node, known⟩ := Option.isSome_iff_exists.mp there
  obtain ⟨arguments, kept, _⟩ := grows.nodes address node known
  rw [kept]
  rfl

theorem GrowsTo.trans (first : earlier.GrowsTo place middle) (second : middle.GrowsTo place later) :
    earlier.GrowsTo place later where
  listeners := second.listeners.trans first.listeners
  nodes address node known := by
    obtain ⟨called, kept, same⟩ := first.nodes address node known
    obtain ⟨further, still, again⟩ := second.nodes address _ kept
    refine ⟨further, still, fun invoked => ?_⟩
    have unchanged := same invoked
    subst unchanged
    exact again invoked
  parents address there :=
    (second.parents address (first.isSome there)).trans (first.parents address there)
  children address := (first.children address).trans (second.children address)

/-- What attaching a node does to a tree. -/
theorem gainsChild_attach {parent : Address} (there : (tree.root.nodeAt? parent).isSome)
    (node : ActionNode) :
    tree.GainsChild parent node { tree with root := (tree.root.attach parent node).2 } where
  nodes := ActionTree.nodeAt?_attach there node
  children := ActionTree.childrenAt_attach there node
  listeners := rfl
  losses := rfl

/-- What putting arguments down does to a tree. -/
theorem gainsArguments_setNode {address : Address} {node : ActionNode}
    (known : tree.root.nodeAt? address = some node) (arguments : List Value) :
    tree.GainsArguments address arguments
      { tree with root := tree.root.setNode address { node with arguments := some arguments } } where
  nodes other := by
    have there : (tree.root.nodeAt? address).isSome := by rw [known]; rfl
    rw [known]
    exact ActionTree.nodeAt?_setNode there _ other
  children := ActionTree.childrenAt_setNode (by rw [known]; rfl) _
  listeners := rfl
  losses := rfl

/-- A child that is called once it is attached is a child with arguments. -/
theorem GainsChild.called {parent : Address} {node : ActionNode} {arguments : List Value}
    (gains : earlier.GainsChild parent node middle)
    (called : middle.GainsArguments (parent ++ [earlier.root.childCount parent]) arguments later) :
    earlier.GainsChild parent { node with arguments := some arguments } later where
  nodes address := by
    rw [called.nodes]
    by_cases new : address = parent ++ [earlier.root.childCount parent]
    · rw [if_pos new, if_pos new, gains.nodes, if_pos rfl, Option.map_some]
    · rw [if_neg new, if_neg new, gains.nodes, if_neg new]
  children owner := (called.children owner).trans (gains.children owner)
  listeners := called.listeners.trans gains.listeners
  losses := called.losses.trans gains.losses

/-- A tree that gains a child grows. -/
theorem GainsChild.growsTo {parent : Address} {node : ActionNode}
    (gains : earlier.GainsChild parent node later) (complete : earlier.losses = [])
    (place : Nat) : earlier.GrowsTo place later where
  listeners := gains.listeners
  nodes address found known := by
    refine ⟨found.arguments, ?_, fun _ => rfl⟩
    rw [gains.nodes, if_neg, known]
    rintro rfl
    have early := (ActionTree.isSome_nodeAt?_concat earlier.root parent _).mp (by rw [known]; rfl)
    exact Nat.lt_irrefl _ early
  parents _ _ := parentOf_congr complete (gains.losses.trans complete) _
  children owner := by
    rw [gains.children]
    split
    · next same =>
        rw [same]
        exact List.prefix_append _ _
    · exact List.prefix_refl _

/-- A tree that gains arguments where there were none grows. -/
theorem GainsArguments.growsTo {address : Address} {arguments : List Value}
    (gains : earlier.GainsArguments address arguments later)
    (uncalled : earlier.argumentsAt address = none) (complete : earlier.losses = [])
    (place : Nat) : earlier.GrowsTo place later where
  listeners := gains.listeners
  nodes other node known := by
    by_cases same : other = address
    · subst same
      refine ⟨some arguments, by rw [gains.nodes, if_pos rfl, known]; rfl, fun invoked => ?_⟩
      rw [argumentsAt, known, Option.bind_some] at uncalled
      rw [ActionNode.isInvoked, uncalled] at invoked
      cases invoked
    · exact ⟨node.arguments, by rw [gains.nodes, if_neg same, known], fun _ => rfl⟩
  parents _ _ := parentOf_congr complete (gains.losses.trans complete) _
  children owner := by rw [gains.children]

/-- What holds of a tree all along its use: it has lost nothing, its root is a group, and its
nodes are described by words. -/
structure IsWorded (tree : SpecTree) : Prop where
  complete : tree.losses = []
  isGroup : tree.root.here.variant = .group
  described : ∀ address node, tree.root.nodeAt? address = some node →
    ∃ word, node.description = .text word

/-- The tree of a subject is worded. -/
theorem isWorded_subject (description : String) (factory : Action Value)
    (listeners : Listeners) :
    IsWorded { SpecTree.subject description factory with listeners } where
  complete := rfl
  isGroup := rfl
  described address node known := by
    cases address with
    | nil =>
        cases known
        exact ⟨description, rfl⟩
    | cons index rest =>
        rw [ActionTree.nodeAt?_cons] at known
        cases known

/-- A worded tree that gains a worded child stays worded. -/
theorem IsWorded.gainsChild {parent : Address} {node : ActionNode} (worded : earlier.IsWorded)
    (gains : earlier.GainsChild parent node later) {word : String}
    (named : node.description = .text word) : later.IsWorded where
  complete := gains.losses.trans worded.complete
  isGroup := by
    have root := gains.nodes []
    rw [if_neg (by simp), ActionTree.nodeAt?_nil, ActionTree.nodeAt?_nil] at root
    rw [Option.some.inj root]
    exact worded.isGroup
  described address found known := by
    rw [gains.nodes] at known
    split at known
    · cases known
      exact ⟨word, named⟩
    · exact worded.described address found known

theorem IsWorded.gainsArguments {address : Address} {arguments : List Value}
    (worded : earlier.IsWorded) (gains : earlier.GainsArguments address arguments later) :
    later.IsWorded where
  complete := gains.losses.trans worded.complete
  isGroup := by
    have root := gains.nodes []
    simp only [ActionTree.nodeAt?_nil] at root
    by_cases same : [] = address
    · subst same
      rw [if_pos rfl, ActionTree.nodeAt?_nil] at root
      rw [Option.some.inj root]
      exact worded.isGroup
    · rw [if_neg same] at root
      rw [Option.some.inj root]
      exact worded.isGroup
  described other found known := by
    rw [gains.nodes] at known
    split at known
    · obtain ⟨former, there, rfl⟩ := Option.map_eq_some_iff.mp known
      exact worded.described address former there
    · exact worded.described other found known

end SpecTree

end DeferredSpec
