/-
# The nodes of a tree by address

A tree gives a node for each of its addresses. To attach a child adds one address to
these and changes no other, and to replace a node changes what one address gives. The
children of a node and the way up from it can both be told from addresses, so what an
operation does to the links between nodes follows from what it does to the addresses.
-/

import DeferredSpec.Tree.Basic
import Mathlib.Data.List.Infix
import Mathlib.Data.List.Nodup

namespace DeferredSpec

namespace ActionTree

variable {tree found : ActionTree} {address parent : Address} {node child : ActionNode}

/-- The node at an address. -/
def nodeAt? (tree : ActionTree) (address : Address) : Option ActionNode :=
  (tree.subtree? address).map here

/-- How many children the node at an address has. -/
def childCount (tree : ActionTree) (address : Address) : Nat :=
  ((tree.subtree? address).map fun found => found.children.length).getD 0

/-- The addresses of the children of a node, in the order of their attachment. -/
def childrenAt (tree : ActionTree) (address : Address) : List Address :=
  (List.range (tree.childCount address)).map fun index => address ++ [index]

@[simp] theorem nodeAt?_nil (tree : ActionTree) : tree.nodeAt? [] = some tree.here := rfl

theorem subtree?_cons (tree : ActionTree) (index : Nat) (rest : Address) :
    tree.subtree? (index :: rest) =
      tree.children[index]?.bind fun child => child.subtree? rest := by
  rw [subtree?]
  cases tree.children[index]? <;> rfl

theorem nodeAt?_cons (tree : ActionTree) (index : Nat) (rest : Address) :
    tree.nodeAt? (index :: rest) =
      tree.children[index]?.bind fun child => child.nodeAt? rest := by
  rw [nodeAt?, subtree?_cons]
  cases tree.children[index]? <;> rfl

theorem nodeAt?_of_subtree? (located : tree.subtree? address = some found) :
    tree.nodeAt? address = some found.here := by rw [nodeAt?, located, Option.map_some]

/-- Where there is a node there is a subtree. -/
theorem exists_subtree? (known : tree.nodeAt? address = some node) :
    ∃ found, tree.subtree? address = some found ∧ found.here = node :=
  Option.map_eq_some_iff.mp known

/-- Below a subtree, nodes are those of the subtree. -/
theorem nodeAt?_append (located : tree.subtree? address = some found) (rest : Address) :
    tree.nodeAt? (address ++ rest) = found.nodeAt? rest := by
  rw [nodeAt?, subtree?_append, located, Option.bind_some, nodeAt?]

theorem childCount_of_subtree? (located : tree.subtree? address = some found) :
    tree.childCount address = found.children.length := by
  rw [childCount, located, Option.map_some, Option.getD_some]

/-- There are nodes right below a node as far as it has children. -/
theorem isSome_nodeAt?_concat (tree : ActionTree) (address : Address) (index : Nat) :
    (tree.nodeAt? (address ++ [index])).isSome ↔ index < tree.childCount address := by
  cases located : tree.subtree? address with
  | none => simp [nodeAt?, subtree?_append, located, childCount]
  | some found =>
      rw [nodeAt?_append located, childCount_of_subtree? located, nodeAt?_cons]
      cases below : found.children[index]? with
      | none => simpa using below
      | some child => simpa using (List.getElem?_eq_some_iff.mp below).1

/-- Above a node there are nodes. -/
theorem isSome_nodeAt?_of_concat {index : Nat}
    (there : (tree.nodeAt? (address ++ [index])).isSome) :
    (tree.nodeAt? address).isSome := by
  rw [nodeAt?, subtree?_append] at there
  cases located : tree.subtree? address with
  | none =>
      rw [located] at there
      cases there
  | some found => simp [nodeAt?, located]

/-- The children of a node are the nodes whose addresses are longer by one step. -/
theorem mem_childrenAt {below : Address} :
    below ∈ tree.childrenAt address ↔
      ∃ index, below = address ++ [index] ∧ (tree.nodeAt? below).isSome := by
  rw [childrenAt, List.mem_map]
  constructor
  · rintro ⟨index, early, rfl⟩
    exact ⟨index, rfl, (isSome_nodeAt?_concat tree address index).mpr (List.mem_range.mp early)⟩
  · rintro ⟨index, rfl, there⟩
    exact ⟨index, List.mem_range.mpr ((isSome_nodeAt?_concat tree address index).mp there), rfl⟩

theorem nodup_childrenAt (tree : ActionTree) (address : Address) :
    (tree.childrenAt address).Nodup :=
  List.nodup_range.map fun first second same => by simpa using same

/-- A node is listed once, with the children of the node above it. -/
theorem count_childrenAt {index : Nat} (there : (tree.nodeAt? (parent ++ [index])).isSome)
    (owner : Address) :
    (tree.childrenAt owner).count (parent ++ [index]) = if owner = parent then 1 else 0 := by
  split
  · next same =>
      subst same
      exact List.count_eq_one_of_mem (tree.nodup_childrenAt owner)
        (mem_childrenAt.mpr ⟨index, rfl, there⟩)
  · next other =>
      refine List.count_eq_zero.mpr fun member => ?_
      obtain ⟨position, same, _⟩ := mem_childrenAt.mp member
      exact other (List.append_inj_left' same rfl).symm

/-- The trees are the children of the node at an address from a position on. -/
def HasBelow (tree : ActionTree) (parent : Address) (next : Nat) (children : List ActionTree) :
    Prop :=
  ∀ position child, children[position]? = some child →
    tree.subtree? (parent ++ [next + position]) = some child

theorem hasBelow_children (located : tree.subtree? address = some found) :
    tree.HasBelow address 0 found.children := by
  intro position child listed
  rw [Nat.zero_add, subtree?_append, located, Option.bind_some, subtree?_cons, listed]
  rfl

theorem HasBelow.head {next : Nat} {first : ActionTree} {children : List ActionTree}
    (below : tree.HasBelow parent next (first :: children)) :
    tree.subtree? (parent ++ [next]) = some first := below 0 first rfl

theorem HasBelow.tail {next : Nat} {first : ActionTree} {children : List ActionTree}
    (below : tree.HasBelow parent next (first :: children)) :
    tree.HasBelow parent (next + 1) children := by
  intro position child listed
  rw [Nat.add_assoc, Nat.add_comm 1]
  exact below (position + 1) child listed

/-- Change what lies at an address, and the nodes elsewhere stay what they are. -/
theorem nodeAt?_modifyAt (change : ActionTree → ActionTree)
    (located : tree.subtree? address = some found) (other : Address) :
    (tree.modifyAt change address).nodeAt? other =
      if address <+: other then (change found).nodeAt? (other.drop address.length)
      else tree.nodeAt? other := by
  induction address generalizing tree other with
  | nil =>
      cases located
      rfl
  | cons index rest ih =>
      rw [subtree?_cons] at located
      obtain ⟨child, listed, below⟩ := Option.bind_eq_some_iff.mp located
      rw [modifyAt, listed]
      cases other with
      | nil => rfl
      | cons position further =>
          rw [nodeAt?_cons, nodeAt?_cons, children, List.getElem?_set]
          by_cases same : index = position
          · subst same
            have early := (List.getElem?_eq_some_iff.mp listed).1
            rw [listed]
            simp [early, ih below]
          · simp [same]

/-- Where there is nothing, nothing is changed. -/
theorem modifyAt_of_absent {change : ActionTree → ActionTree}
    (absent : tree.subtree? address = none) : tree.modifyAt change address = tree := by
  induction address generalizing tree with
  | nil => cases absent
  | cons index rest ih =>
      rw [subtree?_cons] at absent
      rw [modifyAt]
      cases listed : tree.children[index]? with
      | none => rfl
      | some child =>
          rw [listed, Option.bind_some] at absent
          dsimp only
          rw [ih absent]
          obtain ⟨early, same⟩ := List.getElem?_eq_some_iff.mp listed
          rw [← same, List.set_getElem_self]
          cases tree
          rfl

/-- Replacing a node changes what its address gives, and nothing else. -/
theorem nodeAt?_setNode (there : (tree.nodeAt? address).isSome) (node : ActionNode)
    (other : Address) :
    (tree.setNode address node).nodeAt? other =
      if other = address then some node else tree.nodeAt? other := by
  obtain ⟨former, known⟩ := Option.isSome_iff_exists.mp there
  obtain ⟨found, located, _⟩ := exists_subtree? known
  rw [setNode, nodeAt?_modifyAt _ located]
  by_cases below : address <+: other
  · obtain ⟨rest, rfl⟩ := below
    rw [if_pos (List.prefix_append address rest), List.drop_left, nodeAt?_append located]
    cases rest with
    | nil => simp [here]
    | cons index further => simp [nodeAt?_cons, children]
  · rw [if_neg below, if_neg]
    rintro rfl
    exact below (List.prefix_refl other)

/-- Attaching a child adds the address behind the children of the parent, and nothing
else. -/
theorem nodeAt?_attach (there : (tree.nodeAt? parent).isSome) (child : ActionNode)
    (other : Address) :
    (tree.attach parent child).2.nodeAt? other =
      if other = parent ++ [tree.childCount parent] then some child else tree.nodeAt? other := by
  obtain ⟨former, known⟩ := Option.isSome_iff_exists.mp there
  obtain ⟨found, located, _⟩ := exists_subtree? known
  rw [attach, nodeAt?_modifyAt _ located, childCount_of_subtree? located]
  by_cases below : parent <+: other
  · obtain ⟨rest, rfl⟩ := below
    rw [if_pos (List.prefix_append parent rest), List.drop_left, nodeAt?_append located]
    cases rest with
    | nil => simp [addChild, here]
    | cons index further =>
        rw [nodeAt?_cons, nodeAt?_cons, addChild, children]
        rcases Nat.lt_trichotomy index found.children.length with early | last | late
        · simp [List.getElem?_append_left early, Nat.ne_of_lt early]
        · subst last
          cases further <;> simp [nodeAt?_cons, single, children, here]
        · simp [List.getElem?_append, Nat.not_lt_of_gt late, Nat.ne_of_gt late,
            Nat.sub_ne_zero_of_lt late]
  · rw [if_neg below, if_neg]
    rintro rfl
    exact below (List.prefix_append parent _)

/-- The number of children of a node can be told from the addresses right below it. -/
theorem childCount_eq_of_forall {count : Nat}
    (below : ∀ index, (tree.nodeAt? (address ++ [index])).isSome ↔ index < count) :
    tree.childCount address = count := by
  refine Nat.le_antisymm (Nat.le_of_not_lt fun more => ?_) (Nat.le_of_not_lt fun fewer => ?_)
  · exact Nat.lt_irrefl _ ((below count).mp ((isSome_nodeAt?_concat tree address count).mpr more))
  · exact Nat.lt_irrefl _ ((isSome_nodeAt?_concat tree address _).mp ((below _).mpr fewer))

/-- The child that is attached is the last one of its parent. -/
theorem childrenAt_attach (there : (tree.nodeAt? parent).isSome) (child : ActionNode)
    (owner : Address) :
    (tree.attach parent child).2.childrenAt owner =
      if owner = parent then tree.childrenAt parent ++ [parent ++ [tree.childCount parent]]
      else tree.childrenAt owner := by
  by_cases same : owner = parent
  · subst same
    have longer : (tree.attach owner child).2.childCount owner = tree.childCount owner + 1 := by
      refine childCount_eq_of_forall fun index => ?_
      rw [nodeAt?_attach there]
      by_cases last : index = tree.childCount owner
      · simp [last]
      · rw [if_neg (by simpa using last), isSome_nodeAt?_concat]
        omega
    rw [if_pos rfl, childrenAt, longer, List.range_succ, List.map_append, childrenAt,
      List.map_singleton]
  · have still : (tree.attach parent child).2.childCount owner = tree.childCount owner := by
      refine childCount_eq_of_forall fun index => ?_
      rw [nodeAt?_attach there, if_neg, isSome_nodeAt?_concat]
      exact fun new => same (List.append_inj_left' new rfl)
    rw [if_neg same, childrenAt, still, childrenAt]

/-- Replacing a node leaves all lists of children. -/
theorem childrenAt_setNode (there : (tree.nodeAt? address).isSome) (node : ActionNode)
    (owner : Address) : (tree.setNode address node).childrenAt owner = tree.childrenAt owner := by
  have still : (tree.setNode address node).childCount owner = tree.childCount owner := by
    refine childCount_eq_of_forall fun index => ?_
    rw [nodeAt?_setNode there, ← isSome_nodeAt?_concat]
    by_cases same : owner ++ [index] = address
    · simp [same, there]
    · rw [if_neg same]
  rw [childrenAt, still, childrenAt]

/-- The way to what lies below a child is the way to its parent, and then the way from the
child. -/
theorem trailFrom_append {tree found child : ActionTree} {address : Address} {index : Nat}
    (walked : Address) (located : tree.subtree? address = some found)
    (there : found.children[index]? = some child) (rest : Address) :
    tree.trailFrom walked (address ++ index :: rest) =
      tree.trailFrom walked address ++
        child.trailFrom (walked ++ (address ++ [index])) rest := by
  induction address generalizing tree walked with
  | nil =>
      cases located
      simp [trailFrom, there]
  | cons position onward ih =>
      rw [subtree?] at located
      cases onWay : tree.children[position]? with
      | none =>
          rw [onWay] at located
          cases located
      | some next =>
          rw [onWay] at located
          have further := ih (walked ++ [position]) located
          rw [List.cons_append, trailFrom, trailFrom, onWay]
          simp only [further, List.cons_append, List.append_assoc, List.nil_append]

theorem trail_append {tree found child : ActionTree} {address : Address} {index : Nat}
    (located : tree.subtree? address = some found)
    (there : found.children[index]? = some child) (rest : Address) :
    tree.trail (address ++ index :: rest) =
      tree.trail address ++ child.trailFrom (address ++ [index]) rest :=
  trailFrom_append [] located there rest

/-- The way to a child is the way to its parent, and the child. -/
theorem trail_concat {tree found child : ActionTree} {address : Address} {index : Nat}
    (located : tree.subtree? address = some found)
    (there : found.children[index]? = some child) :
    tree.trail (address ++ [index]) =
      tree.trail address ++ [(address ++ [index], child.here)] :=
  trail_append located there []

/-- The way to an address goes on to every address below. -/
theorem trailFrom_prefix (tree : ActionTree) (walked address rest : Address) :
    tree.trailFrom walked address <+: tree.trailFrom walked (address ++ rest) := by
  induction address generalizing tree walked with
  | nil =>
      cases rest with
      | nil => exact List.prefix_rfl
      | cons index rest =>
          rw [List.nil_append, trailFrom, trailFrom, List.cons_prefix_cons]
          exact ⟨rfl, List.nil_prefix⟩
  | cons index address ih =>
      rw [List.cons_append, trailFrom, trailFrom, List.cons_prefix_cons]
      refine ⟨rfl, ?_⟩
      cases tree.children[index]? with
      | none => exact List.prefix_rfl
      | some child => exact ih child (walked ++ [index])

/-- What is found at the address of a child is a child of what is found at the parent's. -/
theorem exists_parent {tree child : ActionTree} {address : Address} {index : Nat}
    (located : tree.subtree? (address ++ [index]) = some child) :
    ∃ found, tree.subtree? address = some found ∧ found.children[index]? = some child := by
  rw [subtree?_append] at located
  obtain ⟨found, there, here⟩ := Option.bind_eq_some_iff.mp located
  refine ⟨found, there, ?_⟩
  rw [subtree?] at here
  cases known : found.children[index]? with
  | none =>
      rw [known] at here
      cases here
  | some other =>
      rw [known] at here
      exact here

/-- What lies on the way from a node lies as deep as the node at least. -/
theorem length_of_mem_trailFrom (tree : ActionTree) (walked address : Address)
    {entry : Address × ActionNode} (member : entry ∈ tree.trailFrom walked address) :
    walked.length ≤ entry.1.length := by
  induction address generalizing tree walked with
  | nil =>
      obtain rfl := List.mem_singleton.mp member
      exact Nat.le_refl walked.length
  | cons index rest ih =>
      rw [trailFrom] at member
      rcases List.mem_cons.mp member with rfl | member
      · exact Nat.le_refl walked.length
      · cases found : tree.children[index]? with
        | none =>
            rw [found] at member
            cases member
        | some child =>
            rw [found] at member
            have deeper := ih child (walked ++ [index]) member
            rw [List.length_append] at deeper
            exact Nat.le_of_add_right_le deeper

/-- The way to an address leads over prefixes of it. -/
theorem prefix_of_mem_trailFrom (walked : Address) {entry : Address × ActionNode}
    (member : entry ∈ tree.trailFrom walked address) : entry.1 <+: walked ++ address := by
  induction address generalizing tree walked with
  | nil =>
      obtain rfl := List.mem_singleton.mp member
      exact List.prefix_append walked []
  | cons index rest ih =>
      rw [trailFrom] at member
      rcases List.mem_cons.mp member with rfl | later
      · exact List.prefix_append walked (index :: rest)
      · cases found : tree.children[index]? with
        | none =>
            rw [found] at later
            cases later
        | some child =>
            rw [found] at later
            have onward := ih (walked ++ [index]) later
            rwa [List.append_assoc] at onward

/-- No node is met twice on the way from another. -/
theorem nodup_trailFrom (tree : ActionTree) (walked address : Address) :
    ((tree.trailFrom walked address).map Prod.fst).Nodup := by
  induction address generalizing tree walked with
  | nil => exact List.nodup_singleton walked
  | cons index rest ih =>
      rw [trailFrom, List.map_cons, List.nodup_cons]
      cases found : tree.children[index]? with
      | none => exact ⟨List.not_mem_nil, List.nodup_nil⟩
      | some child =>
          refine ⟨fun member => ?_, ih child (walked ++ [index])⟩
          obtain ⟨entry, onTheWay, same⟩ := List.mem_map.mp member
          have deeper := length_of_mem_trailFrom child (walked ++ [index]) rest onTheWay
          rw [same, List.length_append, List.length_singleton] at deeper
          exact Nat.not_succ_le_self walked.length deeper

/-- The way to a node meets nodes of the tree, each at its address. -/
theorem nodeAt?_of_mem_trail (there : (tree.nodeAt? address).isSome) {entry : Address × ActionNode}
    (member : entry ∈ tree.trail address) : tree.nodeAt? entry.1 = some entry.2 := by
  induction address using List.reverseRecOn with
  | nil =>
      obtain rfl := List.mem_singleton.mp member
      rfl
  | append_singleton parent index ih =>
      obtain ⟨node, known⟩ := Option.isSome_iff_exists.mp there
      obtain ⟨found, located, rfl⟩ := exists_subtree? known
      obtain ⟨around, above, listed⟩ := exists_parent located
      rw [trail_concat above listed] at member
      rcases List.mem_append.mp member with earlier | last
      · exact ih (isSome_nodeAt?_of_concat there) earlier
      · obtain rfl := List.mem_singleton.mp last
        exact known

/-- The way to a node ends with the node. -/
theorem mem_trail (known : tree.nodeAt? address = some node) :
    (address, node) ∈ tree.trail address := by
  obtain ⟨found, located, rfl⟩ := exists_subtree? known
  rcases List.eq_nil_or_concat address with rfl | ⟨parent, index, rfl⟩
  · cases located
    exact List.mem_singleton_self _
  · rw [List.concat_eq_append] at located ⊢
    obtain ⟨around, above, listed⟩ := exists_parent located
    rw [trail_concat above listed]
    exact List.mem_append_right _ (List.mem_singleton_self _)

end ActionTree

end DeferredSpec
