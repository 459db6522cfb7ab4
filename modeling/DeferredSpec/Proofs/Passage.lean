/-
# Steps that hand contexts on

A case opens a context, and the steps below it are executed against what the one above has left.
A node that is put in between, below a case, is given a context as long as the steps above keep
to contexts. If it hands contexts on as they are, the steps below it are given what they were
given without it, at first and at every retry. So a tree with such a node in it goes along with
the tree without: the same steps are executed with the same results, retries are wanted at the
same places, and the delay is called as often.
-/

import DeferredSpec.Proofs.Accompaniment
import DeferredSpec.Proofs.Promotion
import DeferredSpec.Proofs.Walk

namespace DeferredSpec

open Effect (Echoes)

/-- A node that is put in between a node of a tree and one of its children. -/
structure Passage where
  whole : SpecTree
  parent : Address
  position : Nat
  link : ActionNode

namespace Passage

variable (passage : Passage)

/-- Where the node is put in. -/
def place : Address := passage.parent ++ [passage.position]

/-- The tree with the node in it. -/
def linked : SpecTree :=
  { passage.whole with root := passage.whole.root.interpose passage.link passage.place }

/-- What a step yields is a context. -/
def YieldsContext (node : ActionNode) (previous : Value) : Prop :=
  (node.step node.arguments previous).Yields fun value => value.isAssertion

/-- The place is among the steps of a chain, to which contexts are handed down, and the node
that is put in hands them on. Nothing that runs looks at the log. -/
structure IsIdle : Prop where
  tree : passage.whole.IsBlind
  conventional : passage.whole.root.isConventional
  step : ∃ child, passage.whole.root.subtree? passage.place = some child ∧
    child.here.variant = .chainStep
  opens : ∀ address node, passage.whole.root.nodeAt? address = some node →
    node.variant = .leafCase → ∀ previous, YieldsContext node previous
  keeps : ∀ address node, address <+: passage.parent →
    passage.whole.root.nodeAt? address = some node → node.variant = .chainStep →
      ∀ context, context.isAssertion → YieldsContext node context
  hands : ∀ context, context.isAssertion →
    passage.link.step passage.link.arguments context = pure context
  variant : passage.link.variant = .chainStep
  asksNothing : passage.link.isDescribedBy assertionEntries = false

/-- What a node comes to in both trees: the same, and a context if it lies on the way to the
place. -/
def HandsOn (address : Address) (value other : Value) : Prop :=
  other = value ∧ (address <+: passage.place → value.isAssertion)

variable {passage} {address : Address} {found twin : ActionTree} {node : ActionNode}
  {before : Array Happening} {engine : RetryEngine}

variable (passage) in
theorem not_below_parent : ¬ passage.place <+: passage.parent := not_concat_prefix _ _

/-- The way to what lies neither at the place nor below stays the same. -/
theorem trail_of_beside (beside : ¬ passage.place <+: address) :
    passage.linked.root.trail (Address.moved passage.place address) =
      (passage.whole.root.trail address).map fun entry =>
        (Address.moved passage.place entry.1, entry.2) := by
  rw [Address.moved_of_beside beside, ActionTree.map_moved_trail beside]
  exact ActionTree.trailFrom_modifyAt _ [] beside

/-- What lies above the place lies above the parent, or is it. -/
theorem above_parent (beside : ¬ passage.place <+: address) (above : address <+: passage.place) :
    address <+: passage.parent := by
  rcases List.prefix_concat_iff.mp above with same | further
  · exact absurd (same ▸ List.prefix_rfl) beside
  · exact further

namespace IsIdle

/-- The tree with the node in it has lost nothing. -/
theorem still (idle : passage.IsIdle) : passage.linked.losses = [] := idle.tree.complete

theorem silent (idle : passage.IsIdle) : passage.linked.listeners = {} := idle.tree.unheard

/-- The place is that of a child of the node above. -/
theorem exists_parent (idle : passage.IsIdle) :
    ∃ around child, passage.whole.root.subtree? passage.parent = some around ∧
      around.children[passage.position]? = some child ∧
      passage.whole.root.subtree? passage.place = some child := by
  obtain ⟨child, located, _⟩ := idle.step
  obtain ⟨around, above, listed⟩ := ActionTree.exists_parent located
  exact ⟨around, child, above, listed, located⟩

/-- The node in between is executed by handing its context on. -/
theorem execute_link (idle : passage.IsIdle) {context : Value} (isContext : context.isAssertion)
    (bench : Bench) :
    passage.linked.execute passage.place passage.link context bench =
      (.returned context,
        bench.happened (.executed passage.place context (.returned context))) := by
  rw [SpecTree.execute_unheard idle.still idle.silent, idle.hands context isContext]
  rfl

/-! ### Ways from the root -/

/-- To execute a node yields a context if its step does. -/
theorem yields_execute (idle : passage.IsIdle) (address : Address) {previous : Value}
    (yields : YieldsContext node previous) :
    (passage.whole.execute address node previous).Yields fun value => value.isAssertion := by
  intro bench value later ended
  rw [SpecTree.execute_unheard idle.tree.complete idle.tree.unheard] at ended
  exact yields bench.world value _ (Effect.apply_of_outcome (congrArg Prod.fst ended))

/-- Below the case on the way to the place, whatever the way from the root comes to is a
context. -/
theorem yields_rerun (idle : passage.IsIdle) (above : address <+: passage.parent)
    (known : passage.whole.root.nodeAt? address = some node) (inside : node.variant ≠ .group) :
    (passage.whole.rerun address).Yields fun value => value.isAssertion := by
  have complete := idle.tree.complete
  induction address using List.reverseRecOn generalizing node with
  | nil =>
      obtain ⟨found, located, rfl⟩ := ActionTree.exists_subtree? known
      cases located
      rcases root : passage.whole.root with ⟨here, children⟩
      have conventional := idle.conventional
      rw [root] at conventional inside
      rcases ActionTree.isConventional_node.mp conventional with ⟨isGroup, _⟩ | ⟨isCase, _⟩
      · exact absurd isGroup inside
      · rw [SpecTree.rerun, SpecTree.trail_of_losses_eq_nil complete, ActionTree.trail,
          ActionTree.trailFrom, root]
        have yields := idle.opens [] here (by rw [root]; rfl) isCase .null
        exact (idle.yields_execute [] yields).bindOf fun value context => .pure context
  | append_singleton around index ih =>
      obtain ⟨found, located, rfl⟩ := ActionTree.exists_subtree? known
      obtain ⟨outer, onWay, listed⟩ := ActionTree.exists_parent located
      rw [SpecTree.rerun, SpecTree.trail_of_losses_eq_nil complete,
        ActionTree.trail_concat onWay listed, SpecTree.executeAlong_concat]
      cases kind : found.here.variant with
      | group => exact absurd kind inside
      | leafCase =>
          refine .bind fun previous => idle.yields_execute _ ?_
          exact idle.opens _ _ known kind previous
      | chainStep =>
          have inner := ActionTree.parent_variant_ne_group idle.conventional onWay listed kind
          have before := ih ((List.prefix_append around [index]).trans above)
            (ActionTree.nodeAt?_of_subtree? onWay) inner
          rw [SpecTree.rerun, SpecTree.trail_of_losses_eq_nil complete] at before
          refine before.bindOf fun context isContext => idle.yields_execute _ ?_
          exact idle.keeps _ _ above known kind context isContext

/-- The way to the place comes to a context. -/
theorem yields_rerun_parent (idle : passage.IsIdle) :
    (passage.whole.rerun passage.parent).Yields fun value => value.isAssertion := by
  obtain ⟨child, located, isStep⟩ := idle.step
  obtain ⟨around, above, listed⟩ := ActionTree.exists_parent located
  exact idle.yields_rerun List.prefix_rfl (ActionTree.nodeAt?_of_subtree? above)
    (ActionTree.parent_variant_ne_group idle.conventional above listed isStep)

/-- The ways to what lies at the place or below, in the tree and with the node in it. -/
theorem exists_trails (idle : passage.IsIdle) (rest : Address) :
    ∃ lower, passage.whole.root.trail (passage.place ++ rest) =
        passage.whole.root.trail passage.parent ++ lower ∧
      passage.linked.root.trail (Address.moved passage.place (passage.place ++ rest)) =
        passage.whole.root.trail passage.parent ++ (passage.place, passage.link) ::
          lower.map fun entry => (Address.moved passage.place entry.1, entry.2) := by
  obtain ⟨around, child, above, listed, _⟩ := idle.exists_parent
  refine ⟨child.trailFrom passage.place rest, ?_, ?_⟩
  · rw [place, List.append_assoc, List.singleton_append, ActionTree.trail_append above listed]
  · rw [Address.moved_append_self, ActionTree.map_moved_trailFrom]
    exact ActionTree.trail_interpose above listed rest

/-- The way from the root to a node comes to the same with the node in between. -/
theorem echoes_rerun (idle : passage.IsIdle)
    (there : (passage.whole.root.nodeAt? address).isSome) :
    Echoes (Bench.GoesAlong passage.place before) Eq (passage.whole.rerun address)
      (passage.linked.rerun (Address.moved passage.place address)) := by
  have complete := idle.tree.complete
  have blind : ∀ entry ∈ passage.whole.root.trail address, entry.2.IsBlind := fun entry onWay =>
    idle.tree.steps _ _ (ActionTree.nodeAt?_of_mem_trail there onWay)
  have along (trail : List (Address × ActionNode)) (blind : ∀ entry ∈ trail, entry.2.IsBlind)
      (previous : Value) : Echoes (Bench.GoesAlong passage.place before) Eq
        (passage.whole.executeAlong trail previous)
        (passage.linked.executeAlong
          (trail.map fun entry => (Address.moved passage.place entry.1, entry.2)) previous) :=
    SpecTree.echoes_executeAlong complete idle.tree.unheard idle.still idle.silent trail blind
      previous
  rw [SpecTree.rerun, SpecTree.rerun, SpecTree.trail_of_losses_eq_nil complete,
    SpecTree.trail_of_losses_eq_nil idle.still]
  by_cases below : passage.place <+: address
  · obtain ⟨rest, rfl⟩ := below
    obtain ⟨lower, split, met⟩ := idle.exists_trails rest
    have yields := idle.yields_rerun_parent
    rw [SpecTree.rerun, SpecTree.trail_of_losses_eq_nil complete] at yields
    rw [split, List.forall_mem_append] at blind
    rw [split, met, SpecTree.executeAlong_append, SpecTree.executeAlong_append]
    have upper := along (passage.whole.root.trail passage.parent) blind.1 .null
    rw [ActionTree.map_moved_trail passage.not_below_parent] at upper
    refine (upper.yielding yields).bind fun {context other} same => ?_
    obtain ⟨rfl, isContext⟩ := same
    rw [SpecTree.executeAlong]
    exact echoes_between (idle.execute_link isContext) (along lower blind.2 other)
  · rw [trail_of_beside below]
    exact along _ blind .null

/-- The node in between asks for nothing, so retries are wanted where they were. -/
theorem isEventual_moved (idle : passage.IsIdle) (engine : RetryEngine) (address : Address) :
    engine.isEventual passage.linked (Address.moved passage.place address) =
      engine.isEventual passage.whole address := by
  have asks := idle.asksNothing
  rw [ActionNode.isDescribedBy_entries, Bool.or_eq_false_iff] at asks
  have isBelow : ∀ words, passage.link.isDescribedBy words = false →
      passage.linked.isBelow (Address.moved passage.place address) words =
        passage.whole.isBelow address words := by
    intro words silent
    rw [SpecTree.isBelow, SpecTree.isBelow, SpecTree.trail_of_losses_eq_nil idle.tree.complete,
      SpecTree.trail_of_losses_eq_nil idle.still]
    by_cases below : passage.place <+: address
    · obtain ⟨rest, rfl⟩ := below
      obtain ⟨lower, split, met⟩ := idle.exists_trails rest
      rw [split, met, List.any_append, List.any_append, List.any_cons, silent, Bool.false_or,
        List.any_map]
      rfl
    · rw [trail_of_beside below, List.any_map]
      rfl
  rw [RetryEngine.isEventual, RetryEngine.isEventual, isBelow _ asks.1, isBelow _ asks.2]

/-! ### Steps -/

/-- A step is executed alike at its new address. -/
theorem echoes_execute (idle : passage.IsIdle)
    (known : passage.whole.root.nodeAt? address = some node) (previous : Value) :
    Echoes (Bench.GoesAlong passage.place before) Eq
      (passage.whole.execute address node previous)
      (passage.linked.execute (Address.moved passage.place address) node previous) :=
  SpecTree.echoes_execute idle.tree.complete idle.tree.unheard idle.still idle.silent address
    (idle.tree.steps address node known) previous

/-- What lies at the place or below is executed and retried alike at its new address. -/
theorem echoes_run_moved (idle : passage.IsIdle) (delay : engine.delay.IsBlind)
    (known : passage.whole.root.nodeAt? address = some node) (previous : Value) :
    Echoes (Bench.GoesAlong passage.place before) Eq
      (engine.run passage.whole address node previous)
      (engine.run passage.linked (Address.moved passage.place address) node previous) :=
  RetryEngine.echoes_run (Bench.GoesAlong.concord _ _) delay
    (idle.echoes_rerun (Option.isSome_of_eq_some known)) idle.tree.complete idle.still
    (idle.isEventual_moved engine address) (idle.echoes_execute known previous)

/-- A step elsewhere is executed and retried alike, and hands a context on if it lies on the way
to the place. -/
theorem echoes_run (idle : passage.IsIdle) (delay : engine.delay.IsBlind)
    (beside : ¬ passage.place <+: address)
    (known : passage.whole.root.nodeAt? address = some node)
    (isStep : node.variant = .chainStep) {previous : Value}
    (given : address <+: passage.place → previous.isAssertion) :
    Echoes (Bench.GoesAlong passage.place before) (passage.HandsOn address)
      (engine.run passage.whole address node previous)
      (engine.run passage.linked address node previous) := by
  have still := Address.moved_of_beside beside
  have executed : Echoes (Bench.GoesAlong passage.place before) Eq
      (passage.whole.execute address node previous) _ := idle.echoes_execute known previous
  have retraced : Echoes (Bench.GoesAlong passage.place before) Eq
      (passage.whole.rerun address) _ := idle.echoes_rerun (Option.isSome_of_eq_some known)
  have eventual := idle.isEventual_moved engine address
  rw [still] at executed retraced eventual
  refine RetryEngine.echoes_run (Bench.GoesAlong.concord _ _) delay (retraced.yielding ?_)
    idle.tree.complete idle.still eventual (executed.yielding ?_)
  · intro bench value later ended above
    have inside : node.variant ≠ .group := by
      rw [isStep]
      decide
    exact idle.yields_rerun (passage.above_parent beside above) known inside bench value later ended
  · intro bench value later ended above
    have keeps := idle.keeps address node (passage.above_parent beside above) known isStep
    exact idle.yields_execute address (keeps previous (given above)) bench value later ended

/-- The node in between is executed by handing its context on, and there is nothing to retry. -/
theorem run_link (idle : passage.IsIdle) (engine : RetryEngine) {context : Value}
    (isContext : context.isAssertion) (bench : Bench) :
    engine.run passage.linked passage.place passage.link context bench =
      (.returned context,
        bench.happened (.executed passage.place context (.returned context))) :=
  RetryEngine.run_of_returned idle.still (idle.execute_link isContext bench)

end IsIdle

/-! ### Chains -/

/-- What is found at an address, not below the place, in the tree and with the node in it. -/
structure Twins (passage : Passage) (address : Address) (found twin : ActionTree) : Prop where
  located : passage.whole.root.subtree? address = some found
  also : passage.linked.root.subtree? address = some twin
  outside : passage.place <+: address → address = passage.place

/-- Trees that are found below the same node, which is not at the place or below. -/
structure Children (passage : Passage) (parent : Address) (next : Nat)
    (children twins : List ActionTree) : Prop where
  located : passage.whole.root.HasBelow parent next children
  also : passage.linked.root.HasBelow parent next twins
  length : twins.length = children.length
  beside : ¬ passage.place <+: parent

theorem Children.head {parent : Address} {next : Nat} {child : ActionTree}
    {children twins : List ActionTree}
    (alike : passage.Children parent next (child :: children) (twin :: twins)) :
    passage.Twins (parent ++ [next]) child twin where
  located := alike.located.head
  also := alike.also.head
  outside := fun below =>
    ((List.prefix_concat_iff.mp below).resolve_right alike.beside).symm

theorem Children.tail {parent : Address} {next : Nat} {child : ActionTree}
    {children twins : List ActionTree}
    (alike : passage.Children parent next (child :: children) (twin :: twins)) :
    passage.Children parent (next + 1) children twins where
  located := alike.located.tail
  also := alike.also.tail
  length := Nat.succ.inj alike.length
  beside := alike.beside

/-- At the place the node in between is found, and elsewhere the same node, with as many
children. -/
theorem Twins.cases (twins : passage.Twins address found twin) :
    address = passage.place ∧ twin = .node passage.link [found] ∨
      twin.here = found.here ∧
        passage.Children address 0 found.children twin.children := by
  obtain ⟨located, also, outside⟩ := twins
  by_cases below : passage.place <+: address
  · obtain rfl := outside below
    rw [linked, ActionTree.subtree?_interpose located] at also
    exact .inl ⟨rfl, (Option.some.inj also).symm⟩
  · suffices same : twin.here = found.here ∧ twin.children.length = found.children.length from
      .inr ⟨same.1, ActionTree.hasBelow_children located, ActionTree.hasBelow_children also,
        same.2, below⟩
    by_cases above : address <+: passage.place
    · obtain ⟨rest, onward⟩ := above
      cases rest with
      | nil =>
          rw [List.append_nil] at onward
          exact absurd (onward ▸ List.prefix_rfl) below
      | cons index rest =>
          rw [linked, ActionTree.interpose, ← onward,
            ActionTree.subtree?_modifyAt _ located] at also
          obtain rfl := Option.some.inj also
          exact ActionTree.node_modifyAt_cons _ found index rest
    · rw [linked, ActionTree.interpose, ActionTree.subtree?_modifyAt_of_beside _ below above,
        located] at also
      obtain rfl := Option.some.inj also
      exact ⟨rfl, rfl⟩

/-- Below the node in between the child goes on that it was put above. -/
theorem follow_link (engine : RetryEngine) (child : ActionTree) (previous : Value) :
    passage.linked.follow engine passage.place previous (.node passage.link [child]) =
      engine.run passage.linked passage.place passage.link previous >>= fun result =>
        passage.linked.follow engine (Address.moved passage.place passage.place) result child := by
  have moved := Address.moved_append_self passage.place []
  rw [List.append_nil] at moved
  rw [SpecTree.follow, moved]
  refine congrArg _ (funext fun result => ?_)
  rw [SpecTree.followAll]
  exact bind_pure (passage.linked.follow engine (passage.place ++ [0]) result child)

namespace IsIdle

mutual

/-- Steps at the place or below are executed alike at their new addresses. -/
theorem echoes_follow_moved (idle : passage.IsIdle) (delay : engine.delay.IsBlind) :
    ∀ (found : ActionTree) (address : Address) (previous : Value),
      passage.whole.root.subtree? address = some found → passage.place <+: address →
      Echoes (Bench.GoesAlong passage.place before) Eq
        (passage.whole.follow engine address previous found)
        (passage.linked.follow engine (Address.moved passage.place address) previous found)
  | .node here children, address, previous, located, below => by
      rw [SpecTree.follow, SpecTree.follow]
      have known := ActionTree.nodeAt?_of_subtree? located
      exact (idle.echoes_run_moved delay known previous).bind_eq fun result =>
        echoes_followAll_moved idle delay children address 0 result
          (ActionTree.hasBelow_children located) below

theorem echoes_followAll_moved (idle : passage.IsIdle) (delay : engine.delay.IsBlind) :
    ∀ (children : List ActionTree) (parent : Address) (next : Nat) (previous : Value),
      passage.whole.root.HasBelow parent next children → passage.place <+: parent →
      Echoes (Bench.GoesAlong passage.place before) Eq
        (passage.whole.followAll engine parent next previous children)
        (passage.linked.followAll engine (Address.moved passage.place parent) next previous
          children)
  | [], _, _, _, _, _ => .pure rfl
  | child :: children, parent, next, previous, located, below => by
      have deeper := below.trans (List.prefix_append parent [next])
      rw [SpecTree.followAll, SpecTree.followAll, ← Address.moved_append below]
      exact (echoes_follow_moved idle delay child _ previous located.head deeper).bind_eq fun _ =>
        echoes_followAll_moved idle delay children parent (next + 1) previous located.tail below

end

mutual

/-- Steps are executed alike with the node in between, if they are given contexts on the way to
the place. -/
theorem echoes_follow (idle : passage.IsIdle) (delay : engine.delay.IsBlind) :
    ∀ (found twin : ActionTree) (address : Address) (previous : Value),
      passage.Twins address found twin → found.isChain →
      (address <+: passage.place → previous.isAssertion) →
      Echoes (Bench.GoesAlong passage.place before) Eq
        (passage.whole.follow engine address previous found)
        (passage.linked.follow engine address previous twin)
  | .node here children, twin, address, previous, twins, chain, given => by
      rcases twins.cases with ⟨rfl, rfl⟩ | ⟨same, lower⟩
      · rw [follow_link]
        exact echoes_between (idle.run_link engine (given List.prefix_rfl))
          (idle.echoes_follow_moved delay _ _ previous twins.located List.prefix_rfl)
      · obtain ⟨other, twins'⟩ := twin
        obtain rfl : other = here := same
        obtain ⟨isStep, chains⟩ := ActionTree.isChain_node.mp chain
        have known := ActionTree.nodeAt?_of_subtree? twins.located
        rw [SpecTree.follow, SpecTree.follow]
        refine (idle.echoes_run delay lower.beside known isStep given).bind
          fun {result value} handed => ?_
        obtain ⟨rfl, context⟩ := handed
        exact echoes_followAll idle delay children twins' address 0 value lower chains context

theorem echoes_followAll (idle : passage.IsIdle) (delay : engine.delay.IsBlind) :
    ∀ (children twins : List ActionTree) (parent : Address) (next : Nat) (previous : Value),
      passage.Children parent next children twins → ActionTree.areChains children →
      (parent <+: passage.place → previous.isAssertion) →
      Echoes (Bench.GoesAlong passage.place before) Eq
        (passage.whole.followAll engine parent next previous children)
        (passage.linked.followAll engine parent next previous twins)
  | [], [], _, _, _, _, _, _ => .pure rfl
  | child :: children, twin :: twins, parent, next, previous, alike, chains, given => by
      obtain ⟨chain, further⟩ := ActionTree.areChains_cons.mp chains
      rw [SpecTree.followAll, SpecTree.followAll]
      have first := echoes_follow idle delay child twin (parent ++ [next]) previous alike.head chain
        fun above => given ((List.prefix_append parent [next]).trans above)
      exact first.bind_eq fun _ =>
        echoes_followAll idle delay children twins parent (next + 1) previous alike.tail further
          given

end

end IsIdle

end Passage

end DeferredSpec
