/-
# Conventional trees

A tree is conventional if its groups hold groups and cases, and its cases hold steps of
chains. Nothing enforces this; a chain that opens an assertion below an assertion is
not conventional.
-/

import DeferredSpec.Tree.Basic

namespace DeferredSpec

/-- Nothing lies below its own children. -/
theorem not_concat_prefix (address : Address) (index : Nat) :
    ¬ address ++ [index] <+: address := by
  intro below
  have longer := below.length_le
  rw [List.length_append, List.length_singleton] at longer
  exact Nat.not_succ_le_self _ longer

namespace ActionTree

mutual

/-- Whether a node and everything below it are steps of a chain. -/
def isChain : ActionTree → Bool
  | .node here children => here.variant == .chainStep && areChains children

/-- Whether several nodes and everything below them are steps of chains. -/
def areChains : List ActionTree → Bool
  | [] => true
  | tree :: trees => isChain tree && areChains trees

end

mutual

/-- Whether groups hold groups and cases only, and cases hold chains only. -/
def isConventional : ActionTree → Bool
  | .node here children =>
      match here.variant with
      | .group => areConventional children
      | .leafCase => areChains children
      | .chainStep => false

/-- Whether several trees are conventional. -/
def areConventional : List ActionTree → Bool
  | [] => true
  | tree :: trees => isConventional tree && areConventional trees

end

mutual

/-- Whether groups hold groups and cases only. Nothing is asked of what lies below a
case. -/
def isOutline : ActionTree → Bool
  | .node here children =>
      match here.variant with
      | .group => areOutlines children
      | .leafCase => true
      | .chainStep => false

/-- Whether the groups of several trees hold groups and cases only. -/
def areOutlines : List ActionTree → Bool
  | [] => true
  | tree :: trees => isOutline tree && areOutlines trees

end

mutual

/-- The number of groups of a conventional tree. -/
def groupCount : ActionTree → Nat
  | .node here children =>
      match here.variant with
      | .group => groupCounts children + 1
      | _ => 0

/-- The number of groups of several conventional trees. -/
def groupCounts : List ActionTree → Nat
  | [] => 0
  | tree :: trees => groupCount tree + groupCounts trees

end

theorem isChain_node {here : ActionNode} {children : List ActionTree} :
    (node here children).isChain ↔ here.variant = .chainStep ∧ areChains children := by
  simp [isChain]

theorem areChains_cons {tree : ActionTree} {trees : List ActionTree} :
    areChains (tree :: trees) ↔ tree.isChain ∧ areChains trees := by
  simp [areChains]

theorem areConventional_cons {tree : ActionTree} {trees : List ActionTree} :
    areConventional (tree :: trees) ↔ tree.isConventional ∧ areConventional trees := by
  simp [areConventional]

/-- A conventional tree is a group of conventional trees or a case of chains. -/
theorem isConventional_node {here : ActionNode} {children : List ActionTree} :
    (node here children).isConventional ↔
      here.variant = .group ∧ areConventional children ∨
        here.variant = .leafCase ∧ areChains children := by
  cases shape : here.variant <;> simp [isConventional, shape]

theorem areOutlines_cons {tree : ActionTree} {trees : List ActionTree} :
    areOutlines (tree :: trees) ↔ tree.isOutline ∧ areOutlines trees := by
  simp [areOutlines]

theorem isOutline_node {here : ActionNode} {children : List ActionTree} :
    (node here children).isOutline ↔
      here.variant = .group ∧ areOutlines children ∨ here.variant = .leafCase := by
  cases shape : here.variant <;> simp [isOutline, shape]

mutual

/-- What a conventional tree asks of cases is asked in addition. -/
theorem isOutline_of_isConventional :
    ∀ tree : ActionTree, tree.isConventional → tree.isOutline
  | .node _ children, conventional => by
      rcases isConventional_node.mp conventional with ⟨isGroup, lower⟩ | ⟨isCase, _⟩
      · exact isOutline_node.mpr (.inl ⟨isGroup, areOutlines_of_areConventional children lower⟩)
      · exact isOutline_node.mpr (.inr isCase)

theorem areOutlines_of_areConventional :
    ∀ trees : List ActionTree, areConventional trees → areOutlines trees
  | [], _ => rfl
  | tree :: trees, conventional => by
      obtain ⟨here, rest⟩ := areConventional_cons.mp conventional
      exact areOutlines_cons.mpr
        ⟨isOutline_of_isConventional tree here, areOutlines_of_areConventional trees rest⟩

end

theorem areChains_iff {trees : List ActionTree} : areChains trees ↔ ∀ tree ∈ trees, tree.isChain := by
  induction trees with
  | nil => simp [areChains]
  | cons tree trees ih => simp [areChains, ih]

theorem areConventional_iff {trees : List ActionTree} :
    areConventional trees ↔ ∀ tree ∈ trees, tree.isConventional := by
  induction trees with
  | nil => simp [areConventional]
  | cons tree trees ih => simp [areConventional, ih]

/-- All nodes of a chain are steps of a chain. -/
theorem variant_of_isChain {tree found : ActionTree} {address : Address} (chain : tree.isChain)
    (located : tree.subtree? address = some found) : found.here.variant = .chainStep := by
  induction address generalizing tree with
  | nil =>
      obtain rfl := Option.some.inj located
      rcases tree with ⟨here, children⟩
      exact (isChain_node.mp chain).1
  | cons index rest ih =>
      rcases tree with ⟨here, children⟩
      rw [subtree?, ActionTree.children] at located
      cases below : children[index]? with
      | none =>
          rw [below] at located
          cases located
      | some child =>
          rw [below] at located
          exact ih (areChains_iff.mp (isChain_node.mp chain).2 child (List.mem_of_getElem? below))
            located

/-- A child of a node is found behind the address of the node. -/
theorem subtree?_concat {tree child : ActionTree} {address : Address} {here : ActionNode}
    {children : List ActionTree} {position : Nat}
    (located : tree.subtree? address = some (node here children))
    (found : children[position]? = some child) :
    tree.subtree? (address ++ [position]) = some child := by
  rw [subtree?_append, located]
  simp [subtree?, ActionTree.children, found]

end ActionTree

end DeferredSpec
