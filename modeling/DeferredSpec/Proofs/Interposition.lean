/-
# Nodes put in between

A node can be put in between another node and one of its children: it takes the place of the
child, which goes on below it. What was at that place or below is then found one step deeper,
and all else is where it was. The way to a node is the same as before, but that it meets the new
node if it leads through the place. A step put in above steps of a chain leaves a conventional
tree conventional.
-/

import DeferredSpec.Proofs.Nodes
import DeferredSpec.Proofs.Shape

namespace DeferredSpec

namespace Address

/-- The address of a node after another one was put in at a place. -/
def moved (place address : Address) : Address :=
  if place <+: address then place ++ 0 :: address.drop place.length else address

variable {place address : Address}

theorem moved_append_self (place rest : Address) :
    moved place (place ++ rest) = place ++ 0 :: rest := by
  rw [moved, if_pos (List.prefix_append place rest), List.drop_left]

theorem moved_of_beside (beside : ¬ place <+: address) : moved place address = address :=
  if_neg beside

/-- Below what is moved, addresses are moved along. -/
theorem moved_append (below : place <+: address) (rest : Address) :
    moved place (address ++ rest) = moved place address ++ rest := by
  obtain ⟨further, rfl⟩ := below
  rw [List.append_assoc, moved_append_self, moved_append_self, List.append_assoc,
    List.cons_append]

end Address

namespace ActionTree

variable {tree found child : ActionTree} {address place parent rest : Address} {index : Nat}
  {link : ActionNode}

/-- Put a node in above the one at a place. -/
def interpose (link : ActionNode) (tree : ActionTree) (place : Address) : ActionTree :=
  tree.modifyAt (fun found => node link [found]) place

theorem modifyAt_cons (change : ActionTree → ActionTree)
    (listed : tree.children[index]? = some child) (rest : Address) :
    tree.modifyAt change (index :: rest) =
      node tree.here (tree.children.set index (child.modifyAt change rest)) := by
  rw [modifyAt, listed]

/-! ### Subtrees -/

/-- A change below a node leaves the node and the number of its children. -/
theorem node_modifyAt_cons (change : ActionTree → ActionTree) (tree : ActionTree) (index : Nat)
    (rest : Address) :
    (tree.modifyAt change (index :: rest)).here = tree.here ∧
      (tree.modifyAt change (index :: rest)).children.length = tree.children.length := by
  cases listed : tree.children[index]? with
  | none =>
      rw [modifyAt, listed]
      exact ⟨rfl, rfl⟩
  | some child =>
      rw [modifyAt_cons change listed]
      exact ⟨rfl, List.length_set⟩

/-- What is changed below an address is changed in the subtree there. -/
theorem subtree?_modifyAt (change : ActionTree → ActionTree)
    (located : tree.subtree? address = some found) (rest : Address) :
    (tree.modifyAt change (address ++ rest)).subtree? address =
      some (found.modifyAt change rest) := by
  induction address generalizing tree with
  | nil =>
      cases located
      rfl
  | cons index further ih =>
      rw [subtree?_cons] at located
      obtain ⟨child, listed, below⟩ := Option.bind_eq_some_iff.mp located
      have early := (List.getElem?_eq_some_iff.mp listed).1
      rw [List.cons_append, modifyAt_cons change listed, subtree?_cons, children,
        List.getElem?_set_self early]
      exact ih below

/-- Beside the place of a change, subtrees stay what they are. -/
theorem subtree?_modifyAt_of_beside (change : ActionTree → ActionTree)
    (below : ¬ place <+: address) (above : ¬ address <+: place) :
    (tree.modifyAt change place).subtree? address = tree.subtree? address := by
  induction place generalizing tree address with
  | nil => exact absurd List.nil_prefix below
  | cons index rest ih =>
      cases address with
      | nil => exact absurd List.nil_prefix above
      | cons position further =>
          cases listed : tree.children[index]? with
          | none => rw [modifyAt, listed]
          | some child =>
              rw [modifyAt_cons change listed, subtree?_cons, subtree?_cons, children]
              by_cases same : index = position
              · subst same
                have early := (List.getElem?_eq_some_iff.mp listed).1
                rw [List.getElem?_set_self early, listed]
                exact ih (by simpa [List.cons_prefix_cons] using below)
                  (by simpa [List.cons_prefix_cons] using above)
              · rw [List.getElem?_set_ne same]

/-- At its place, the new node has what was there for its only child. -/
theorem subtree?_interpose (located : tree.subtree? place = some child) :
    (tree.interpose link place).subtree? place = some (node link [child]) := by
  have changed := subtree?_modifyAt (fun found => node link [found]) located []
  rwa [List.append_nil] at changed

/-! ### Ways -/

/-- The way to what is neither at the place of a change nor below it stays the same. -/
theorem trailFrom_modifyAt (change : ActionTree → ActionTree) (walked : Address)
    (beside : ¬ place <+: address) :
    (tree.modifyAt change place).trailFrom walked address = tree.trailFrom walked address := by
  induction place generalizing tree walked address with
  | nil => exact absurd List.nil_prefix beside
  | cons index rest ih =>
      cases listed : tree.children[index]? with
      | none => rw [modifyAt, listed]
      | some child =>
          rw [modifyAt_cons change listed]
          cases address with
          | nil => rfl
          | cons position further =>
              rw [trailFrom, trailFrom, here, children]
              by_cases same : index = position
              · subst same
                have early := (List.getElem?_eq_some_iff.mp listed).1
                rw [List.getElem?_set_self early, listed]
                have deeper : ¬ rest <+: further := by
                  simpa [List.cons_prefix_cons] using beside
                dsimp only
                rw [ih (walked ++ [index]) deeper]
              · rw [List.getElem?_set_ne same]

/-- The way from a node depends on where it begins by the addresses only. -/
theorem trailFrom_eq_map (tree : ActionTree) (walked address : Address) :
    tree.trailFrom walked address =
      (tree.trail address).map fun entry => (walked ++ entry.1, entry.2) := by
  rw [trail]
  suffices general : ∀ further : Address, tree.trailFrom (walked ++ further) address =
      (tree.trailFrom further address).map fun entry => (walked ++ entry.1, entry.2) by
    simpa using general []
  induction address generalizing tree with
  | nil =>
      intro further
      rfl
  | cons index rest ih =>
      intro further
      rw [trailFrom, trailFrom, List.map_cons]
      cases tree.children[index]? with
      | none => rfl
      | some child =>
          dsimp only
          rw [List.append_assoc, ih child (further ++ [index])]

/-- Nothing is moved on the way to what lies neither at the place nor below. -/
theorem map_moved_trail (beside : ¬ place <+: address) :
    (tree.trail address).map (fun entry => (Address.moved place entry.1, entry.2)) =
      tree.trail address := by
  have same : ∀ entry ∈ tree.trail address, (Address.moved place entry.1, entry.2) = id entry := by
    intro entry member
    have above : entry.1 <+: address := prefix_of_mem_trailFrom [] member
    rw [Address.moved_of_beside fun below => beside (below.trans above)]
    rfl
  rw [List.map_congr_left same, List.map_id]

/-- All is moved on the way from the place down. -/
theorem map_moved_trailFrom (tree : ActionTree) (place address : Address) :
    (tree.trailFrom place address).map (fun entry => (Address.moved place entry.1, entry.2)) =
      tree.trailFrom (place ++ [0]) address := by
  rw [tree.trailFrom_eq_map place, tree.trailFrom_eq_map (place ++ [0]), List.map_map]
  refine List.map_congr_left fun entry _ => ?_
  rw [Function.comp_apply, Address.moved_append_self, List.append_assoc]
  rfl

/-- The way to what lies below the place meets the new node there, behind the way to its
parent. -/
theorem trail_interpose (above : tree.subtree? parent = some found)
    (listed : found.children[index]? = some child) (rest : Address) :
    (tree.interpose link (parent ++ [index])).trail (parent ++ [index] ++ 0 :: rest) =
      tree.trail parent ++ (parent ++ [index], link) ::
        child.trailFrom (parent ++ [index] ++ [0]) rest := by
  have early := (List.getElem?_eq_some_iff.mp listed).1
  have around : (tree.interpose link (parent ++ [index])).subtree? parent =
      some (node found.here (found.children.set index (node link [child]))) := by
    rw [interpose, subtree?_modifyAt _ above, modifyAt_cons _ listed, modifyAt]
  have onWay : (node found.here (found.children.set index (node link [child]))).children[index]? =
      some (node link [child]) := by rw [children, List.getElem?_set_self early]
  have beside := not_concat_prefix parent index
  have same : (tree.interpose link (parent ++ [index])).trail parent = tree.trail parent :=
    trailFrom_modifyAt _ [] beside
  rw [List.append_assoc, List.singleton_append, trail_append around onWay, same, trailFrom,
    children, List.getElem?_cons_zero]
  rfl

/-! ### Kinds -/

/-- What is found in a conventional tree is conventional or a chain. -/
theorem isConventional_or_isChain (conventional : tree.isConventional)
    (located : tree.subtree? address = some found) : found.isConventional ∨ found.isChain := by
  induction address using List.reverseRecOn generalizing found with
  | nil =>
      cases located
      exact .inl conventional
  | append_singleton parent index ih =>
      obtain ⟨around, above, listed⟩ := exists_parent located
      obtain ⟨here, children⟩ := around
      have member := List.mem_of_getElem? listed
      rcases ih above with lower | chain
      · rcases isConventional_node.mp lower with ⟨_, lower⟩ | ⟨_, chains⟩
        · exact .inl (areConventional_iff.mp lower found member)
        · exact .inr (areChains_iff.mp chains found member)
      · exact .inr (areChains_iff.mp (isChain_node.mp chain).2 found member)

/-- A step of a conventional tree is not the child of a group. -/
theorem parent_variant_ne_group (conventional : tree.isConventional)
    (above : tree.subtree? address = some found)
    (listed : found.children[index]? = some child) (isStep : child.here.variant = .chainStep) :
    found.here.variant ≠ .group := by
  intro isGroup
  obtain ⟨here, children⟩ := found
  have member := List.mem_of_getElem? listed
  rcases isConventional_or_isChain conventional above with lower | chain
  · rcases isConventional_node.mp lower with ⟨_, lower⟩ | ⟨isCase, _⟩
    · obtain ⟨step, further⟩ := child
      have inner := areConventional_iff.mp lower _ member
      rw [isConventional, show step.variant = .chainStep from isStep] at inner
      cases inner
    · rw [show here.variant = .group from isGroup] at isCase
      cases isCase
  · have isStep := (isChain_node.mp chain).1
    rw [show here.variant = .group from isGroup] at isStep
    cases isStep

end ActionTree

end DeferredSpec
