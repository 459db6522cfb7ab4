/-
# What a subject is called

The description of a subject is free text, a label for its reader. Still it is looked at:
the kind of a node, and whether its failures are retried, are told from the words on the way
from the root, and the root is on that way. So a tree stays the same under another
description of its subject, but for the title of the outermost group, as long as neither
description is one of the words that open assertions. A subject that is described by such a
word is taken for an assertion.
-/

import DeferredSpec.Proofs.Operations
import DeferredSpec.Proofs.Preparation
import DeferredSpec.Proofs.Realizing
import DeferredSpec.Samples.Objects

namespace DeferredSpec

namespace ActionTree

/-- The tree with another description of its root. -/
def redescribed (tree : ActionTree) (description : String) : ActionTree :=
  .node { tree.here with description := .text description } tree.children

/-- The kinds of nodes and the places they stand in do not change with the description of
the root. -/
theorem variant_redescribed (tree : ActionTree) (description : String) (address : Address) :
    ((tree.redescribed description).subtree? address).map (fun found => found.here.variant) =
      (tree.subtree? address).map fun found => found.here.variant := by
  cases address <;> rfl

theorem subtree?_redescribed_cons (tree : ActionTree) (description : String) (index : Nat)
    (rest : Address) :
    (tree.redescribed description).subtree? (index :: rest) = tree.subtree? (index :: rest) := rfl

theorem attach_redescribed (tree : ActionTree) (description : String) (parent : Address)
    (child : ActionNode) :
    ((tree.redescribed description).attach parent child).2 =
      (tree.attach parent child).2.redescribed description := by
  cases parent with
  | nil => rfl
  | cons index rest =>
      simp only [attach, modifyAt, redescribed, children]
      split <;> rfl

theorem setNode_redescribed_cons (tree : ActionTree) (description : String) (index : Nat)
    (rest : Address) (node : ActionNode) :
    (tree.redescribed description).setNode (index :: rest) node =
      (tree.setNode (index :: rest) node).redescribed description := by
  simp only [setNode, modifyAt, redescribed, children]
  split <;> rfl

/-- What is on the way from the root is the same but for the root. -/
theorem any_trail_redescribed {test : ActionNode → Bool} (tree : ActionTree)
    (description : String) (address : Address)
    (same : test (tree.redescribed description).here = test tree.here) :
    (((tree.redescribed description).trail address).any fun entry => test entry.2) =
      (tree.trail address).any fun entry => test entry.2 := by
  cases address with
  | nil => simpa [trail, trailFrom] using same
  | cons index rest =>
      rw [trail, trail, trailFrom, trailFrom, List.any_cons, List.any_cons, same]
      rfl

end ActionTree

namespace ActionNode

/-- The description is none of the words that open assertions. -/
def IsPlain (node : ActionNode) : Prop := ¬ node.isDescribedBy assertionEntries

theorem IsPlain.isDescribedBy {node : ActionNode} (plain : node.IsPlain) {words : List String}
    (entries : words ⊆ assertionEntries) : node.isDescribedBy words = false := by
  rw [IsPlain, ActionNode.isDescribedBy] at plain
  rw [ActionNode.isDescribedBy]
  split at plain
  · rw [List.contains_eq_mem, decide_eq_true_eq] at plain
    rw [List.contains_eq_mem, decide_eq_false_iff_not]
    exact fun member => plain (entries member)
  · rfl

end ActionNode

/-- A text is none of the words that open assertions. -/
theorem ActionNode.isPlain_of_not_mem {node : ActionNode} {description : String}
    (described : node.description = .text description) (free : description ∉ assertionEntries) :
    node.IsPlain := by
  rw [IsPlain, isDescribedBy, described]
  simpa using free

namespace SpecTree

/-- The tree with another description of its subject. -/
def redescribed (tree : SpecTree) (description : String) : SpecTree :=
  { tree with root := tree.root.redescribed description }

variable {tree : SpecTree} {description : String}

/-- Whether a node lies below one of the words is told alike, unless the words or the
descriptions of the subject are among those that open assertions. -/
theorem isBelow_redescribed (complete : tree.losses = []) (plain : tree.root.here.IsPlain)
    (free : description ∉ assertionEntries) (address : Address) {words : List String}
    (entries : words ⊆ assertionEntries) :
    (tree.redescribed description).isBelow address words = tree.isBelow address words := by
  have other : (tree.redescribed description).root.here.IsPlain :=
    ActionNode.isPlain_of_not_mem rfl free
  have root : (tree.redescribed description).root.here.isDescribedBy words =
      tree.root.here.isDescribedBy words := by
    rw [other.isDescribedBy entries, plain.isDescribedBy entries]
  have whole : (tree.redescribed description).losses = [] := complete
  rw [isBelow, isBelow, trail_of_losses_eq_nil complete, trail_of_losses_eq_nil whole]
  exact ActionTree.any_trail_redescribed tree.root description address root

variable [ObjectModel]

theorem memberNode_redescribed (complete : tree.losses = []) (plain : tree.root.here.IsPlain)
    (free : description ∉ assertionEntries) (engine : AssertionEngine) (parent : Address)
    (name : Value) :
    (tree.redescribed description).memberNode engine parent name =
      tree.memberNode engine parent name := by
  rw [memberNode, memberNode,
    isBelow_redescribed complete plain free parent (List.Subset.refl assertionEntries)]

/-- An operation makes the same of a tree whatever its subject is called. -/
theorem next_redescribed (complete : tree.losses = []) (plain : tree.root.here.IsPlain)
    (free : description ∉ assertionEntries) (operation : HandleOperation) :
    (tree.redescribed description).next operation =
      (tree.next operation).redescribed description := by
  cases operation with
  | member engine parent name =>
      rw [next, next, memberNode_redescribed complete plain free]
      simp only [redescribed, ActionTree.attach_redescribed]
  | call address arguments =>
      cases address with
      | nil =>
          have invoked : (tree.redescribed description).root.here.isInvoked =
            tree.root.here.isInvoked := rfl
          simp only [next, ActionTree.subtree?_nil, invoked]
          split <;> rfl
      | cons index rest =>
          simp only [next, redescribed, ActionTree.subtree?_redescribed_cons]
          cases tree.root.subtree? (index :: rest) with
          | none => rfl
          | some found =>
              simp only
              split
              · rfl
              · rw [ActionTree.setNode_redescribed_cons]

omit [ObjectModel] in
theorem here_setNode (root : ActionTree) (address : Address) (node : ActionNode)
    (same : ∀ found, root.subtree? address = some found →
      found.here.description = node.description) :
    (root.setNode address node).here.description = root.here.description := by
  cases address with
  | nil => exact (same root rfl).symm
  | cons index rest =>
      simp only [ActionTree.setNode, ActionTree.modifyAt]
      split <;> rfl

/-- Operations leave the description of the subject as it is. -/
theorem next_description (operation : HandleOperation) :
    (tree.next operation).root.here.description = tree.root.here.description := by
  cases operation with
  | member engine parent name =>
      rw [next]
      simp only [ActionTree.attach_snd_here]
  | call address arguments =>
      rw [next]
      cases located : tree.root.subtree? address with
      | none => rfl
      | some found =>
          simp only
          split
          · rfl
          · refine here_setNode tree.root address _ fun other there => ?_
            rw [located] at there
            cases there
            rfl

theorem next_isPlain (plain : tree.root.here.IsPlain) (operation : HandleOperation) :
    (tree.next operation).root.here.IsPlain := by
  rw [ActionNode.IsPlain, ActionNode.isDescribedBy, next_description]
  exact plain

/-- Operations make the same of a tree whatever its subject is called. -/
theorem foldl_next_redescribed (complete : tree.losses = []) (plain : tree.root.here.IsPlain)
    (free : description ∉ assertionEntries) (operations : List HandleOperation) :
    operations.foldl next (tree.redescribed description) =
      (operations.foldl next tree).redescribed description := by
  induction operations generalizing tree with
  | nil => rfl
  | cons operation rest ih =>
      rw [List.foldl_cons, List.foldl_cons, next_redescribed complete plain free]
      exact ih ((next_losses operation).trans complete) (next_isPlain plain operation)

end SpecTree

namespace SpecTree

variable {tree : SpecTree} {description : String}

theorem chainChunks_redescribed (address : Address) (found : ActionTree) :
    (tree.redescribed description).chainChunks address found = tree.chainChunks address found := by
  obtain ⟨here, children⟩ := found
  rw [chainChunks_node, chainChunks_node]
  rcases children with _ | ⟨child, _ | ⟨other, rest⟩⟩
  · rfl
  · simp only [chainChunks_redescribed (address ++ [0]) child]
    rfl
  · rfl

theorem caseTitle_redescribed (address : Address) (found : ActionTree) :
    (tree.redescribed description).caseTitle address found = tree.caseTitle address found := by
  rw [caseTitle, caseTitle, chainChunks_redescribed]

mutual

theorem isTitled_redescribed (world : World) :
    ∀ (found : ActionTree) (address : Address),
      (tree.redescribed description).IsTitled world address found ↔
        tree.IsTitled world address found
  | .node here children, address => by
      rw [IsTitled, IsTitled, caseTitle_redescribed, areTitled_redescribed world children]

theorem areTitled_redescribed (world : World) :
    ∀ (children : List ActionTree) (parent : Address) (next : Nat),
      (tree.redescribed description).AreTitled world parent next children ↔
        tree.AreTitled world parent next children
  | [], _, _ => Iff.rfl
  | child :: children, parent, next => by
      rw [AreTitled, AreTitled, isTitled_redescribed world child,
        areTitled_redescribed world children]

end

end SpecTree

namespace Realizer

variable {realizer : Realizer} {tree : SpecTree} {description : String} {index : Nat}
  {world : World}

mutual

theorem entryOf_redescribed :
    ∀ (found : ActionTree) (address : Address) (source : Source) (cell : Nat),
      realizer.entryOf (tree.redescribed description) index world address source cell found =
        realizer.entryOf tree index world address source cell found
  | .node here children, address, source, cell => by
      rw [entryOf, entryOf, SpecTree.caseTitle_redescribed, entriesOf_redescribed children]

theorem entriesOf_redescribed :
    ∀ (children : List ActionTree) (parent : Address) (next : Nat) (source : Source) (cell : Nat),
      realizer.entriesOf (tree.redescribed description) index world parent next source cell
          children =
        realizer.entriesOf tree index world parent next source cell children
  | [], _, _, _, _ => rfl
  | child :: children, parent, next, source, cell => by
      rw [entriesOf, entriesOf, entryOf_redescribed child, entriesOf_redescribed children]

end

end Realizer

/-- The entry with another title, if it is a group. -/
def Entry.retitled (title : String) : Entry → Entry
  | .group _ hooks entries => .group title hooks entries
  | .case name body => .case name body

/-- The suite with another title of the group that has the given position among the entries
of the current group. -/
def Suite.retitled (position : Nat) (title : String) (suite : Suite) : Suite :=
  { suite with
    current :=
      { suite.current with
        entries := suite.current.entries.modify position (Entry.retitled title) } }

theorem Suite.retitled_addEntries (suite : Suite) (title other : String) (hooks : List Body)
    (entries : List Entry) :
    (suite.addEntries [.group title hooks entries]).retitled suite.current.entries.length other =
      suite.addEntries [.group other hooks entries] := by
  have last (earlier : List Entry) (entry : Entry) :
      (earlier ++ [entry]).modify earlier.length (Entry.retitled other) =
        earlier ++ [entry.retitled other] := by
    induction earlier with
    | nil => rfl
    | cons first rest ih => simp [ih]
  simp only [retitled, addEntries, last, Entry.retitled]

/-- Every entry has a title that it can be given without a change. -/
theorem Suite.exists_retitled_eq (suite : Suite) (position : Nat) :
    ∃ title, suite.retitled position title = suite := by
  have kept (entry : Option Entry) : ∃ title, entry.map (Entry.retitled title) = entry := by
    match entry with
    | none => exact ⟨"", rfl⟩
    | some (.case name body) => exact ⟨"", rfl⟩
    | some (.group name hooks entries) => exact ⟨name, rfl⟩
  obtain ⟨title, same⟩ := kept suite.current.entries[position]?
  refine ⟨title, ?_⟩
  have entries : suite.current.entries.modify position (Entry.retitled title) =
      suite.current.entries := by
    apply List.ext_getElem?
    intro other
    rw [List.getElem?_modify]
    by_cases there : position = other
    · subst there
      simpa using same
    · simp [there]
  rw [retitled, entries]

/-- The title of a group can be composed if the arguments of its node can be rendered. -/
theorem groupTitle_isReturned {node : ActionNode} {description : String}
    (described : node.description = .text description) (world : World) :
    (groupTitle node world).1.isReturned =
      (node.arguments.all fun arguments =>
        (Action.renderAll arguments world).1.isReturned) := by
  rw [groupTitle, ActionNode.labelText, ActionNode.label, described]
  cases node.arguments with
  | none => rfl
  | some arguments =>
      have plain : Action.plain (.text description) = pure description := rfl
      simp only [plain, pure_bind, bind_assoc, Effect.bind_apply, Option.all_some]
      rcases Action.renderAll arguments world with ⟨outcome, later⟩
      cases outcome <;> rfl

namespace Realizer

open Rig

variable {realizer : Realizer} {tree : SpecTree} {index : Nat} {suite : Suite}
  {start : Rig Runner}

/-- Realizing a tree of groups and cases returns just if all its titles can be composed. -/
theorem realizeRoot_isReturned (complete : tree.losses = []) (outline : tree.root.isOutline)
    (isSuite : start.IsSuite realizer.runner suite) :
    (realizer.realizeRoot tree index start).1.isReturned ↔
      tree.IsTitled start.bench.world [] tree.root := by
  have same : ∃ records, start.bench.world = start.bench.world.withRecords records :=
    ⟨start.bench.world.records, rfl⟩
  constructor
  · intro returned
    rcases ended : realizer.realizeRoot tree index start with ⟨outcome, later⟩
    rw [ended] at returned
    cases outcome with
    | raised error => cases returned
    | returned value =>
        exact (registered_realize _ complete tree.root [] .nothing suite start later outline isSuite
          same ended).2
  · intro titled
    obtain ⟨later, ended⟩ :=
      realize_returns complete tree.root [] .nothing suite start outline titled isSuite same
    rw [realizeRoot, ended]
    rfl

/-- What realizing a tree of groups and cases leaves in its suite. -/
theorem suiteOf_realizeRoot (complete : tree.losses = []) (outline : tree.root.isOutline)
    (isSuite : start.IsSuite realizer.runner suite)
    (returned : (realizer.realizeRoot tree index start).1.isReturned) :
    (realizer.realizeRoot tree index start).2.suiteOf realizer.runner =
      suite.addEntries [realizer.entryOf tree index start.bench.world [] .nothing start.cells.size
        tree.root] := by
  rcases ended : realizer.realizeRoot tree index start with ⟨outcome, later⟩
  rw [ended] at returned
  cases outcome with
  | raised error => cases returned
  | returned value =>
      have registered := (registered_realize _ complete tree.root [] .nothing suite start later
        outline isSuite ⟨start.bench.world.records, rfl⟩ ended).1
      exact suiteOf_of_isSuite (registered.isSuite isSuite)

end Realizer

namespace SpecTree

/-- Two trees behave alike: their nodes have the same kinds and ask alike for retries, and
they are realized alike, with the same groups, hooks and cases in the same order under the
same titles, but for the title of the outermost group. -/
structure BehavesAs (tree other : SpecTree) : Prop where
  variants (address : Address) :
    (other.root.subtree? address).map (fun found => found.here.variant) =
      (tree.root.subtree? address).map fun found => found.here.variant
  eventual (engine : RetryEngine) (address : Address) :
    engine.isEventual other address = engine.isEventual tree address
  realized (realizer : Realizer) (index : Nat) (suite : Suite) (start : Rig Runner)
    (isSuite : start.IsSuite realizer.runner suite) :
    (realizer.realizeRoot other index start).1.isReturned =
        (realizer.realizeRoot tree index start).1.isReturned ∧
      ((realizer.realizeRoot tree index start).1.isReturned →
        ∃ title, (realizer.realizeRoot other index start).2.suiteOf realizer.runner =
          ((realizer.realizeRoot tree index start).2.suiteOf realizer.runner).retitled
            suite.current.entries.length title)

theorem BehavesAs.refl (tree : SpecTree) : tree.BehavesAs tree where
  variants _ := rfl
  eventual _ _ := rfl
  realized realizer index suite start _ := by
    refine ⟨rfl, fun _ => ?_⟩
    obtain ⟨title, same⟩ := ((realizer.realizeRoot tree index start).2.suiteOf
      realizer.runner).exists_retitled_eq suite.current.entries.length
    exact ⟨title, same.symm⟩

variable {tree : SpecTree} {description : String}

theorem root_redescribed {here : ActionNode} {children : List ActionTree}
    (shape : tree.root = .node here children) :
    (tree.redescribed description).root =
      .node { here with description := .text description } children := by
  rw [redescribed, shape]
  rfl

theorem isOutline_redescribed (description : String) (outline : tree.root.isOutline) :
    (tree.redescribed description).root.isOutline := by
  rcases shape : tree.root with ⟨here, children⟩
  rw [shape] at outline
  rw [root_redescribed shape]
  exact ActionTree.isOutline_node.mpr (ActionTree.isOutline_node.mp outline)

/-- The titles of a tree can be composed whatever its subject is called. -/
theorem isTitled_root_redescribed {word : String} (isGroup : tree.root.here.variant = .group)
    (described : tree.root.here.description = .text word) (world : World) :
    (tree.redescribed description).IsTitled world [] (tree.redescribed description).root ↔
      tree.IsTitled world [] tree.root := by
  rw [isTitled_redescribed]
  rcases shape : tree.root with ⟨here, children⟩
  rw [shape] at isGroup described
  have isGroup : here.variant = .group := isGroup
  have described : here.description = .text word := described
  rw [root_redescribed shape, IsTitled, IsTitled]
  simp only [isGroup]
  rw [groupTitle_isReturned described, groupTitle_isReturned rfl]

/-- The entry of a tree under another description of its subject has another title. -/
theorem entryOf_root_redescribed (description : String) (isGroup : tree.root.here.variant = .group)
    (realizer : Realizer) (index : Nat) (world : World) (cell : Nat) :
    ∃ title other hooks entries,
      realizer.entryOf tree index world [] .nothing cell tree.root = .group title hooks entries ∧
        realizer.entryOf (tree.redescribed description) index world [] .nothing cell
          (tree.redescribed description).root = .group other hooks entries := by
  rw [Realizer.entryOf_redescribed]
  rcases shape : tree.root with ⟨here, children⟩
  rw [shape] at isGroup
  have isGroup : here.variant = .group := isGroup
  rw [root_redescribed shape, Realizer.entryOf, Realizer.entryOf]
  simp only [isGroup]
  exact ⟨_, _, _, _, rfl, rfl⟩

/-- A tree of groups and cases is realized alike under another description of its subject. -/
theorem realized_redescribed {word : String} (complete : tree.losses = [])
    (isGroup : tree.root.here.variant = .group)
    (described : tree.root.here.description = .text word) (outline : tree.root.isOutline)
    (realizer : Realizer) (index : Nat) {suite : Suite} {start : Rig Runner}
    (isSuite : start.IsSuite realizer.runner suite) :
    (realizer.realizeRoot (tree.redescribed description) index start).1.isReturned =
        (realizer.realizeRoot tree index start).1.isReturned ∧
      ((realizer.realizeRoot tree index start).1.isReturned →
        ∃ title, (realizer.realizeRoot (tree.redescribed description) index start).2.suiteOf
            realizer.runner =
          ((realizer.realizeRoot tree index start).2.suiteOf realizer.runner).retitled
            suite.current.entries.length title) := by
  have other : (tree.redescribed description).losses = [] := complete
  have outlined := isOutline_redescribed description outline
  have returned : (realizer.realizeRoot (tree.redescribed description) index start).1.isReturned =
      (realizer.realizeRoot tree index start).1.isReturned := by
    rw [Bool.eq_iff_iff, Realizer.realizeRoot_isReturned complete outline isSuite,
      Realizer.realizeRoot_isReturned other outlined isSuite]
    exact isTitled_root_redescribed isGroup described start.bench.world
  refine ⟨returned, fun ended => ?_⟩
  obtain ⟨title, newTitle, hooks, entries, entry, newEntry⟩ :=
    entryOf_root_redescribed description isGroup realizer index
      start.bench.world start.cells.size
  rw [Realizer.suiteOf_realizeRoot complete outline isSuite ended,
    Realizer.suiteOf_realizeRoot other outlined isSuite (returned.trans ended), entry, newEntry]
  exact ⟨newTitle, (suite.retitled_addEntries title newTitle hooks entries).symm⟩

variable [ObjectModel]

/-- A tree that grew over a subject whose description opens no assertion behaves alike under
any other description that opens none. -/
theorem behavesAs_redescribed {word : String} (grown : tree.Grown)
    (described : tree.root.here.description = .text word) (plain : tree.root.here.IsPlain)
    (free : description ∉ assertionEntries) :
    tree.BehavesAs (tree.redescribed description) := by
  have regular := grown.isRegular
  have group : tree.root.here.variant = ActionTree.kindOf false tree.root.here := by
    rw [regular.root, ActionTree.kindOf, if_neg plain]
    rfl
  have outline := ActionTree.isOutline_of_isKinded tree.root
    (ActionTree.isKinded_iff.mpr ⟨group, regular.kinded⟩)
  refine ⟨tree.root.variant_redescribed description, fun engine address => ?_, ?_⟩
  · have below {words : List String} (entries : words ⊆ assertionEntries) :=
      isBelow_redescribed regular.complete plain free address entries
    rw [RetryEngine.isEventual, RetryEngine.isEventual, below (by decide), below (by decide)]
  · intro realizer index suite start isSuite
    exact realized_redescribed regular.complete regular.root described outline realizer index
      isSuite

/-- The tree that operations make of a subject. -/
def grownFrom (description : String) (factory : Action Value) (listeners : Listeners)
    (operations : List HandleOperation) (world : World) : SpecTree :=
  ({ subject description factory with listeners }.grow operations world).1

theorem grownFrom_eq (description : String) (factory : Action Value) (listeners : Listeners)
    (operations : List HandleOperation) (world : World) :
    grownFrom description factory listeners operations world =
      operations.foldl next { subject description factory with listeners } :=
  grow_eq_foldl rfl operations world

theorem foldl_next_description (tree : SpecTree) (operations : List HandleOperation) :
    (operations.foldl next tree).root.here.description = tree.root.here.description := by
  induction operations generalizing tree with
  | nil => rfl
  | cons operation rest ih => rw [List.foldl_cons, ih, next_description]

/-- What is grown over a subject whose description opens no assertion behaves alike under any
other description that opens none. -/
theorem behavesAs_grownFrom {first second : String} (factory : Action Value)
    (listeners : Listeners) (operations : List HandleOperation) (world other : World)
    (free : first ∉ assertionEntries) (also : second ∉ assertionEntries) :
    (grownFrom first factory listeners operations world).BehavesAs
      (grownFrom second factory listeners operations other) := by
  let tree : SpecTree := { subject first factory with listeners }
  have plain : tree.root.here.IsPlain := ActionNode.isPlain_of_not_mem rfl free
  have grown : (grownFrom first factory listeners operations world).Grown :=
    (Grown.subject first factory listeners).grow operations world
  have described : (grownFrom first factory listeners operations world).root.here.description =
      .text first := by
    rw [grownFrom_eq, foldl_next_description]
    rfl
  have same : grownFrom second factory listeners operations other =
      (grownFrom first factory listeners operations world).redescribed second := by
    rw [grownFrom_eq, grownFrom_eq, ← foldl_next_redescribed rfl plain also]
    rfl
  rw [same]
  exact behavesAs_redescribed grown described (ActionNode.isPlain_of_not_mem described free) also

/-- The kind of a member of a subject is told from the description of the subject. -/
theorem variant_member (description : String) :
    ((grownFrom description (pure .null) {} [.member .standard [] "value"]
        {}).root.subtree? [0]).map (fun found => found.here.variant) =
      some (if description ∈ assertionEntries then .chainStep else .group) := by
  have below : ({ subject description (pure .null) with listeners := {} } : SpecTree).isBelow []
      assertionEntries = decide (description ∈ assertionEntries) := by
    simp [isBelow, trail_of_losses_eq_nil, subject, ActionTree.trail, ActionTree.trailFrom,
      ActionTree.single, ActionTree.here, ActionNode.isDescribedBy]
  rw [grownFrom_eq, List.foldl_cons, List.foldl_nil, next, memberNode_of_not_isEntry _ _ _ rfl,
    below]
  by_cases entry : description ∈ assertionEntries
  · simp only [entry, decide_true, if_true]
    rfl
  · simp only [entry, decide_false, if_false]
    rfl

/-- Whether a subject asks for retries is told from its description. -/
theorem isEventual_subject (description : String) :
    (⟨0, .immediate, false⟩ : RetryEngine).isEventual
        (grownFrom description (pure .null) {} [] {}) [] =
      decide (description = shouldEventually) := by
  simp [RetryEngine.isEventual, grownFrom, grow, isBelow, trail_of_losses_eq_nil, subject,
    ActionTree.trail, ActionTree.trailFrom, ActionTree.single, ActionTree.here,
    ActionNode.isDescribedBy]

/-- The description of a subject is without influence on what is grown over it, in whatever
worlds that happens, just if it stays the same or neither the old one nor the new one is a
word that opens assertions. -/
theorem behavesAs_iff (first second : String) :
    (∀ factory listeners operations world other,
        (grownFrom first factory listeners operations world).BehavesAs
          (grownFrom second factory listeners operations other)) ↔
      first = second ∨ first ∉ assertionEntries ∧ second ∉ assertionEntries := by
  constructor
  · intro alike
    have variants := (alike (pure .null) {} [.member .standard [] "value"] {} {}).variants [0]
    rw [variant_member, variant_member] at variants
    have eventual := (alike (pure .null) {} [] {} {}).eventual ⟨0, .immediate, false⟩ []
    rw [isEventual_subject, isEventual_subject] at eventual
    by_cases one : first ∈ assertionEntries
    · have two : second ∈ assertionEntries :=
        Decidable.byContradiction fun free => by simp [one, free] at variants
      -- Both open assertions, and of these just one asks for retries.
      left
      simp only [assertionEntries, List.mem_cons, List.not_mem_nil, or_false] at one two
      rcases one with rfl | rfl <;> rcases two with rfl | rfl <;>
        simp [should, shouldEventually] at eventual ⊢
    · refine .inr ⟨one, fun two => ?_⟩
      simp [one, two] at variants
  · rintro (rfl | ⟨free, also⟩) factory listeners operations world other
    · rw [grownFrom_eq, grownFrom_eq]
      exact BehavesAs.refl _
    · exact behavesAs_grownFrom factory listeners operations world other free also

end SpecTree

namespace SpecTree

/-- A value below a subject, which should equal five. -/
def valueShouldEqual : List HandleOperation :=
  [.member .standard [] "value", .member .standard [0] should, .member .standard [0, 0] "equal",
    .call [0, 0, 0] [.integer 5]]

/-- Under the description of an assertion the value of a subject is a step of a chain and no
group, and its tree cannot be realized. -/
theorem realize_fails_of_should :
    let counted := grownFrom "count" (pure (.integer 5)) {} valueShouldEqual {}
    let taken := grownFrom should (pure (.integer 5)) {} valueShouldEqual {}
    let realizer : Realizer := ⟨⟨0⟩, ⟨5, .immediate, false⟩⟩
    let start : Rig Runner := { runners := #[.suite (Suite.empty "")] }
    (counted.root.subtree? [0]).map (fun found => found.here.variant) = some .group ∧
      (taken.root.subtree? [0]).map (fun found => found.here.variant) = some .chainStep ∧
      (realizer.realizeRoot counted 0 start).1.isReturned = true ∧
      (realizer.realizeRoot taken 0 start).1.isReturned = false ∧ ¬ counted.BehavesAs taken := by
  intro counted taken realizer start
  have group : (counted.root.subtree? [0]).map (fun found => found.here.variant) = some .group :=
    rfl
  have step : (taken.root.subtree? [0]).map (fun found => found.here.variant) = some .chainStep :=
    rfl
  refine ⟨group, step, by decide +kernel, by decide +kernel, fun alike => ?_⟩
  have same := alike.variants [0]
  rw [group, step] at same
  cases same

end SpecTree

end DeferredSpec
