/-
# Trees that handles grow

A tree grows from a subject by naming members and calling handles. Every node gets its
kind from the words on the way to it: an entry opens a case, any other word below an
entry is a step of a chain, and elsewhere it is a group. So a case of a grown tree has
nothing below it but steps and further entries.
-/

import DeferredSpec.Proofs.Shape
import DeferredSpec.Tree.Handle

namespace DeferredSpec

namespace ActionTree

/-- The kind of a node, of which is known whether it lies below an entry. -/
def kindOf (under : Bool) (node : ActionNode) : Variant :=
  if node.isDescribedBy assertionEntries then .leafCase
  else if under then .chainStep
  else .group

mutual

/-- Whether a node and everything below it have their kinds from the words on the way.
`under` says whether the node lies below an entry. -/
def isKinded (under : Bool) : ActionTree → Bool
  | .node here children =>
      here.variant == kindOf under here &&
        areKinded (under || here.isDescribedBy assertionEntries) children

/-- Whether several nodes and everything below them have their kinds from the words. -/
def areKinded (under : Bool) : List ActionTree → Bool
  | [] => true
  | tree :: trees => isKinded under tree && areKinded under trees

end

/-- Whether everything below a node has its kind from the words on the way. -/
def isKindedBelow (under : Bool) (tree : ActionTree) : Bool :=
  areKinded (under || tree.here.isDescribedBy assertionEntries) tree.children

variable {under : Bool} {tree : ActionTree}

theorem areKinded_iff {trees : List ActionTree} :
    areKinded under trees ↔ ∀ tree ∈ trees, tree.isKinded under := by
  induction trees with
  | nil => simp [areKinded]
  | cons tree trees ih => simp [areKinded, ih]

theorem isKinded_iff :
    tree.isKinded under ↔ tree.here.variant = kindOf under tree.here ∧ tree.isKindedBelow under := by
  cases tree
  simp [isKinded, isKindedBelow, here, children]

/-- Whether an entry lies on the way to an address does not depend on where the way
starts. -/
theorem any_trailFrom (test : ActionNode → Bool) (tree : ActionTree) (walked other address : Address) :
    ((tree.trailFrom walked address).any fun entry => test entry.2) =
      (tree.trailFrom other address).any fun entry => test entry.2 := by
  induction address generalizing tree walked other with
  | nil => rfl
  | cons index rest ih =>
      rw [trailFrom, trailFrom, List.any_cons, List.any_cons]
      cases tree.children[index]? with
      | none => rfl
      | some child => rw [ih child (walked ++ [index]) (other ++ [index])]

theorem any_trail_cons (test : ActionNode → Bool) {child : ActionTree} {index : Nat}
    (found : tree.children[index]? = some child) (rest : Address) :
    ((tree.trail (index :: rest)).any fun entry => test entry.2) =
      (test tree.here || (child.trail rest).any fun entry => test entry.2) := by
  rw [trail, trailFrom, found, List.any_cons, trail]
  exact congrArg (test tree.here || ·) (any_trailFrom test child _ _ rest)

/-- What the kind of a node is told from, and the kind. -/
def looks (tree : ActionTree) : Variant × Value := (tree.here.variant, tree.here.description)

theorem isDescribedBy_of_looks_eq {first second : ActionTree} (same : first.looks = second.looks)
    (words : List String) : first.here.isDescribedBy words = second.here.isDescribedBy words := by
  have description : first.here.description = second.here.description := congrArg Prod.snd same
  rw [ActionNode.isDescribedBy, ActionNode.isDescribedBy, description]

theorem isKinded_of_looks_eq {first second : ActionTree} (same : first.looks = second.looks)
    (below : first.isKindedBelow under) (kinded : second.isKinded under) :
    first.isKinded under := by
  have variant : first.here.variant = second.here.variant := congrArg Prod.fst same
  refine isKinded_iff.mpr ⟨?_, below⟩
  rw [variant, (isKinded_iff.mp kinded).1, kindOf, kindOf, isDescribedBy_of_looks_eq same]

section Change

variable {change : ActionTree → ActionTree}

/-- A change that keeps the looks of a node keeps those of what lies around it. -/
theorem looks_modifyAt (address : Address)
    (keeps : ∀ found, tree.subtree? address = some found → (change found).looks = found.looks) :
    (tree.modifyAt change address).looks = tree.looks := by
  cases address with
  | nil => exact keeps tree rfl
  | cons index rest =>
      rw [ActionTree.modifyAt]
      cases tree.children[index]? with
      | none => rfl
      | some child => rfl

/-- A change that keeps the looks of a node and suits the words on the way to it leaves all
kinds right. -/
theorem isKindedBelow_modifyAt (address : Address)
    (keeps : ∀ found, tree.subtree? address = some found → (change found).looks = found.looks)
    (below : ∀ found flag, tree.subtree? address = some found →
      (flag || found.here.isDescribedBy assertionEntries) =
        (under || (tree.trail address).any fun entry => entry.2.isDescribedBy assertionEntries) →
      found.isKindedBelow flag → (change found).isKindedBelow flag)
    (kinded : tree.isKindedBelow under) : (tree.modifyAt change address).isKindedBelow under := by
  induction address generalizing tree under with
  | nil => exact below tree under rfl (by simp [trail, trailFrom]) kinded
  | cons index rest ih =>
      rw [ActionTree.modifyAt]
      cases found : tree.children[index]? with
      | none => exact kinded
      | some child =>
          have inner : ∀ target, child.subtree? rest = some target →
              tree.subtree? (index :: rest) = some target := by
            intro target located
            rw [subtree?, found]
            exact located
          have innerKeeps target located := keeps target (inner target located)
          show isKindedBelow under
            (node tree.here (tree.children.set index (child.modifyAt change rest)))
          rw [isKindedBelow, areKinded_iff] at kinded
          refine areKinded_iff.mpr fun other member => ?_
          rcases List.mem_or_eq_of_mem_set member with old | rfl
          · exact kinded other old
          · have here := kinded child (List.mem_of_getElem? found)
            refine isKinded_of_looks_eq (looks_modifyAt rest innerKeeps)
              (ih innerKeeps ?_ ?_) here
            · intro target flag located onWay
              refine below target flag (inner target located) ?_
              rw [onWay, any_trail_cons (ActionNode.isDescribedBy assertionEntries) found,
                Bool.or_assoc]
              rfl
            · exact (isKinded_iff.mp here).2

end Change

/-- Every node of a tree with right kinds has its kind from the words on the way. -/
theorem isKinded_of_subtree? {address : Address} {found : ActionTree}
    (kinded : tree.isKindedBelow under) (strict : address ≠ [])
    (located : tree.subtree? address = some found) :
    ∃ flag, (under = true → flag = true) ∧ found.isKinded flag := by
  induction address generalizing tree under with
  | nil => exact absurd rfl strict
  | cons index rest ih =>
      rw [subtree?] at located
      cases child : tree.children[index]? with
      | none =>
          rw [child] at located
          cases located
      | some below =>
          rw [child] at located
          rw [isKindedBelow, areKinded_iff] at kinded
          have here := kinded below (List.mem_of_getElem? child)
          have flagged : under = true →
              (under || tree.here.isDescribedBy assertionEntries) = true := by
            intro yes
            simp [yes]
          cases rest with
          | nil =>
              cases located
              exact ⟨_, flagged, here⟩
          | cons next further =>
              obtain ⟨flag, still, kinded⟩ :=
                ih (isKinded_iff.mp here).2 (List.cons_ne_nil next further) located
              exact ⟨flag, fun yes => still (flagged yes), kinded⟩

/-- What is described by an entry is a case. -/
theorem variant_of_isDescribedBy (kinded : tree.isKinded under)
    (entry : tree.here.isDescribedBy assertionEntries) : tree.here.variant = .leafCase := by
  rw [(isKinded_iff.mp kinded).1, kindOf, if_pos entry]

/-- What is a case is described by an entry. -/
theorem isDescribedBy_of_variant (kinded : tree.isKinded under)
    (leafCase : tree.here.variant = .leafCase) : tree.here.isDescribedBy assertionEntries := by
  by_cases entry : tree.here.isDescribedBy assertionEntries
  · exact entry
  · rw [(isKinded_iff.mp kinded).1, kindOf, if_neg entry] at leafCase
    cases under <;> cases leafCase

mutual

/-- Below an entry, where no further entry is, there are steps of chains alone. -/
theorem isChain_of_undescribed : ∀ tree : ActionTree, tree.isKinded true →
    (∀ rest found, tree.subtree? rest = some found →
      ¬ found.here.isDescribedBy assertionEntries) → tree.isChain
  | .node here children, kinded, undescribed => by
      obtain ⟨variant, below⟩ := isKinded_iff.mp kinded
      refine isChain_node.mpr ⟨?_, areChains_of_undescribed children below ?_⟩
      · rw [kindOf, if_neg (undescribed [] _ rfl)] at variant
        exact variant
      · intro position rest child found there located
        refine undescribed (position :: rest) found ?_
        rw [subtree?, show (node here children).children[position]? = some child from there]
        exact located

theorem areChains_of_undescribed : ∀ trees : List ActionTree, areKinded true trees →
    (∀ (position : Nat) (rest : Address) (child found : ActionTree),
      trees[position]? = some child → child.subtree? rest = some found →
      ¬ found.here.isDescribedBy assertionEntries) → areChains trees
  | [], _, _ => rfl
  | tree :: trees, kinded, undescribed => by
      rw [areKinded_iff] at kinded
      refine areChains_cons.mpr ⟨?_, ?_⟩
      · refine isChain_of_undescribed tree (kinded tree List.mem_cons_self) ?_
        exact fun rest found located => undescribed 0 rest tree found rfl located
      · refine areChains_of_undescribed trees (areKinded_iff.mpr ?_) ?_
        · exact fun other member => kinded other (List.mem_cons_of_mem tree member)
        · exact fun position rest child found there located =>
            undescribed (position + 1) rest child found there located

end

mutual

/-- Where no entry is above, groups hold groups and cases only. -/
theorem isOutline_of_isKinded : ∀ tree : ActionTree, tree.isKinded false → tree.isOutline
  | .node here children, kinded => by
      by_cases entry : here.isDescribedBy assertionEntries
      · exact isOutline_node.mpr (.inr (variant_of_isDescribedBy kinded entry))
      · obtain ⟨variant, below⟩ := isKinded_iff.mp kinded
        have isGroup : here.variant = kindOf false here := variant
        rw [kindOf, if_neg entry] at isGroup
        have below : areKinded (false || here.isDescribedBy assertionEntries) children := below
        rw [Bool.eq_false_iff.mpr entry] at below
        exact isOutline_node.mpr (.inl ⟨isGroup, areOutlines_of_areKinded children below⟩)

theorem areOutlines_of_areKinded :
    ∀ trees : List ActionTree, areKinded false trees → areOutlines trees
  | [], _ => rfl
  | tree :: trees, kinded => by
      rw [areKinded_iff] at kinded
      refine areOutlines_cons.mpr
        ⟨isOutline_of_isKinded tree (kinded tree List.mem_cons_self),
          areOutlines_of_areKinded trees (areKinded_iff.mpr ?_)⟩
      exact fun other member => kinded other (List.mem_cons_of_mem tree member)

end

end ActionTree

namespace SpecTree

/-- A tree that grew from a subject by operations of handles: members were named and
handles were called, with any engine, below any node, in any world. -/
inductive Grown [ObjectModel] : SpecTree → Prop
  | subject (description : String) (factory : Action Value) (listeners : Listeners) :
      Grown { SpecTree.subject description factory with listeners }
  | member {tree grown : SpecTree} {engine : AssertionEngine} {parent address : Address}
      {name : Value} {world later : World} (before : Grown tree)
      (named : tree.resolveMember engine parent name world = (.returned (address, grown), later)) :
      Grown grown
  | call {tree grown : SpecTree} {address : Address} {arguments : List Value}
      {world later : World} (before : Grown tree)
      (called : tree.callNode address arguments world = (.returned grown, later)) : Grown grown

variable [ObjectModel] {tree grown : SpecTree}

/-- What holds of a tree all along its growth. -/
structure IsRegular (tree : SpecTree) : Prop where
  complete : tree.losses = []
  root : tree.root.here.variant = .group
  kinded : tree.root.isKindedBelow false

omit [ObjectModel] in
theorem IsRegular.attach {parent address : Address} {node : ActionNode} {world later : World}
    (regular : tree.IsRegular)
    (kind : node.variant = ActionTree.kindOf (tree.isBelow parent assertionEntries) node)
    (attached : tree.attach parent node world = (.returned (address, grown), later)) :
    grown.IsRegular := by
  rw [SpecTree.attach, require_of_losses_eq_nil regular.complete, pure_bind] at attached
  simp only [lacks_of_losses_eq_nil regular.complete] at attached
  cases attached
  have keeps : ∀ found, tree.root.subtree? parent = some found →
      (ActionTree.addChild node found).looks = found.looks := fun _ _ => rfl
  have looks := ActionTree.looks_modifyAt parent keeps
  refine ⟨regular.complete, (congrArg Prod.fst looks).trans regular.root, ?_⟩
  refine ActionTree.isKindedBelow_modifyAt parent keeps ?_ regular.kinded
  intro found flag _ onWay kinded
  rw [ActionTree.isKindedBelow, ActionTree.areKinded_iff] at kinded
  refine ActionTree.areKinded_iff.mpr fun child member => ?_
  rcases List.mem_append.mp member with old | new
  · exact kinded child old
  · obtain rfl := List.mem_singleton.mp new
    refine ActionTree.isKinded_iff.mpr ⟨?_, rfl⟩
    rw [isBelow, trail_of_losses_eq_nil regular.complete, ← Bool.false_or (List.any _ _),
      ← onWay] at kind
    exact kind

/-- Whether a name is one of the words that open a case. -/
def isEntry (name : Value) : Bool :=
  match name with
  | .text word => assertionEntries.contains word
  | _ => false

/-- The entry to an assertion. -/
def entryNode : ActionNode where
  description := .text should
  step := fun _ previous => AssertionEngine.standard.expect previous
  variant := .leafCase

theorem memberNode_of_isEntry (tree : SpecTree) (engine : AssertionEngine) (parent : Address)
    {name : Value} (entry : isEntry name) :
    tree.memberNode engine parent name =
      { description := name, step := fun _ previous => engine.expect previous,
        variant := .leafCase } :=
  if_pos entry

theorem memberNode_of_not_isEntry (tree : SpecTree) (engine : AssertionEngine)
    (parent : Address) {name : Value} (word : isEntry name = false) :
    tree.memberNode engine parent name =
      { description := name
        step := fun arguments previous => engine.invoke previous name arguments
        variant := if tree.isBelow parent assertionEntries then .chainStep else .group } :=
  if_neg (ne_true_of_eq_false word)

/-- The node that naming a member adds is described by the name. -/
theorem memberNode_description (tree : SpecTree) (engine : AssertionEngine) (parent : Address)
    (name : Value) : (tree.memberNode engine parent name).description = name := by
  cases entry : isEntry name with
  | true => rw [memberNode_of_isEntry tree engine parent entry]
  | false => rw [memberNode_of_not_isEntry tree engine parent entry]

/-- The node that naming a member adds was not called yet. -/
theorem memberNode_arguments (tree : SpecTree) (engine : AssertionEngine) (parent : Address)
    (name : Value) : (tree.memberNode engine parent name).arguments = none := by
  cases entry : isEntry name with
  | true => rw [memberNode_of_isEntry tree engine parent entry]
  | false => rw [memberNode_of_not_isEntry tree engine parent entry]

/-- The node that naming a member adds has its kind from the words on the way. -/
theorem memberNode_variant (tree : SpecTree) (engine : AssertionEngine) (parent : Address)
    (name : Value) :
    (tree.memberNode engine parent name).variant =
      ActionTree.kindOf (tree.isBelow parent assertionEntries)
        (tree.memberNode engine parent name) := by
  cases entry : isEntry name with
  | true =>
      rw [memberNode_of_isEntry tree engine parent entry]
      exact (if_pos entry).symm
  | false =>
      rw [memberNode_of_not_isEntry tree engine parent entry]
      exact (if_neg (ne_true_of_eq_false entry)).symm

theorem IsRegular.member {engine : AssertionEngine} {parent address : Address} {name : Value}
    {world later : World} (regular : tree.IsRegular)
    (named : tree.resolveMember engine parent name world = (.returned (address, grown), later)) :
    grown.IsRegular := by
  rw [resolveMember] at named
  obtain ⟨_, first, _, rest⟩ := Effect.bind_eq_returned_iff.mp named
  obtain ⟨message, second, _, further⟩ := Effect.bind_eq_returned_iff.mp rest
  obtain ⟨_, third, _, attached⟩ := Effect.bind_eq_returned_iff.mp further
  exact regular.attach (tree.memberNode_variant engine parent name) attached

omit [ObjectModel] in
/-- Recording the arguments of a call leaves the looks of a node. -/
theorem looks_of_record {found : ActionTree} {attempted : Value} {node : ActionNode}
    {world later : World}
    (recorded : found.here.record attempted world = (.returned node, later)) :
    (ActionTree.node node found.children).looks = found.looks := by
  rw [ActionNode.record] at recorded
  cases earlier : found.here.arguments with
  | none =>
      rw [earlier] at recorded
      obtain ⟨arguments, middle, _, ended⟩ := Effect.bind_eq_returned_iff.mp recorded
      cases ended
      rfl
  | some known =>
      rw [earlier] at recorded
      obtain ⟨error, middle, _, ended⟩ := Effect.bind_eq_returned_iff.mp recorded
      cases ended

omit [ObjectModel] in
theorem IsRegular.call {address : Address} {arguments : List Value} {world later : World}
    (regular : tree.IsRegular)
    (called : tree.callNode address arguments world = (.returned grown, later)) :
    grown.IsRegular := by
  rw [callNode, recordCall] at called
  cases located : tree.root.subtree? address with
  | none =>
      rw [located] at called
      cases called
      exact regular
  | some found =>
      rw [located] at called
      obtain ⟨_, first, _, rest⟩ := Effect.bind_eq_returned_iff.mp called
      obtain ⟨node, second, recorded, ended⟩ := Effect.bind_eq_returned_iff.mp rest
      cases ended
      have keeps : ∀ target, tree.root.subtree? address = some target →
          (ActionTree.node node target.children).looks = target.looks := by
        intro target there
        obtain rfl := Option.some.inj (located.symm.trans there)
        exact looks_of_record recorded
      have looks := ActionTree.looks_modifyAt address keeps
      refine ⟨regular.complete, (congrArg Prod.fst looks).trans regular.root, ?_⟩
      refine ActionTree.isKindedBelow_modifyAt address keeps ?_ regular.kinded
      intro target flag there _ kinded
      rw [ActionTree.isKindedBelow, ActionTree.isDescribedBy_of_looks_eq (keeps target there)]
      exact kinded

/-- Growth keeps trees regular. -/
theorem Grown.isRegular (grown : tree.Grown) : tree.IsRegular := by
  induction grown with
  | subject description factory listeners => exact ⟨rfl, rfl, rfl⟩
  | member _ named ih => exact ih.member named
  | call _ called ih => exact ih.call called

end SpecTree

end DeferredSpec
