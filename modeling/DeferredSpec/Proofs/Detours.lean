/-
# Cases with a step in between

A tree is walked case by case, and each case executes the groups around it and the chain below
it. With a node in between that hands contexts on, every case ends as it does without: it
passes, or fails with the same error. Groups are entered alike, since none of them lies below
the place. The titles can differ, and the records that are made of them.
-/

import DeferredSpec.Proofs.Passage

namespace DeferredSpec

open Effect (Echoes)

/-- Reports of a case that ended alike in the same groups, whatever its own title is. -/
structure CaseReport.IsRetitled (report other : CaseReport) : Prop where
  path : ∃ around title another, report.path = around ++ [title] ∧
    other.path = around ++ [another]
  error : other.error = report.error

namespace Tour

variable {α β : Type} {place : Address} {before : Array Happening} {values : α → β → Prop}

/-- Tours on benches that go along with each other, on which the groups have come as far. -/
structure GoesAlong (place : Address) (before : Array Happening) (tour other : Tour) : Prop where
  bench : tour.bench.GoesAlong place before other.bench
  standing : other.standing = tour.standing

theorem echoes_execute {first : Execution α} {second : Execution β}
    (echoes : Echoes (Bench.GoesAlong place before) values first second) :
    Echoes (GoesAlong place before) values (execute first) (execute second) := by
  intro tour other along
  obtain ⟨pairs, left⟩ := echoes tour.bench other.bench along.bench
  rw [execute_apply, execute_apply]
  exact ⟨pairs, left, along.standing⟩

theorem echoes_capture {first : Effect Tour α} {second : Effect Tour β}
    (echoes : Echoes (GoesAlong place before) values first second) :
    Echoes (GoesAlong place before) (Outcome.Pairs values) (capture first) (capture second) := by
  refine echoes.attempt.bind fun outcomes => ?_
  cases outcomes with
  | returned alike => exact .pure (.returned alike)
  | raised error =>
      have asked : Echoes (GoesAlong place before) Eq
          (Effect.read fun tour => tour.bench.world.isOrdinary error)
          (Effect.read fun tour => tour.bench.world.isOrdinary error) := by
        refine .read fun along => ?_
        obtain ⟨records, same⟩ := along.bench.world
        rw [same]
        rfl
      refine asked.bind_eq fun isCaught => ?_
      cases isCaught with
      | true => exact .pure (.raised error)
      | false => exact .raise error

/-- What is written to the log makes no other difference. -/
theorem echoes_logComposed (level : Nat) (source : String) (message other : World → Wording) :
    Echoes (GoesAlong place before) Eq
      (execute (Execution.ofAction (Action.logComposed level source message)))
      (execute (Execution.ofAction (Action.logComposed level source other))) :=
  echoes_execute ((Bench.GoesAlong.concord _ _).echoes_ofAction
    (Action.echoes_logComposed level source message other))

theorem echoes_setStanding (address : Address) (standing : Standing) :
    Echoes (GoesAlong place before) Eq (Effect.modify (setStanding address standing))
      (Effect.modify (setStanding address standing)) := by
  refine .modify fun along => ⟨along.bench, ?_⟩
  rw [setStanding, setStanding, along.standing]

/-- What is reported of effects that end alike is alike under any titles. -/
theorem echoes_report (path : List String) (title other : String) {first second : Effect Tour Unit}
    (echoes : Echoes (GoesAlong place before) Eq first second) :
    Echoes (GoesAlong place before) CaseReport.IsRetitled
      (SpecTree.report (path ++ [title]) first) (SpecTree.report (path ++ [other]) second) := by
  refine (echoes_capture echoes).bind fun outcomes => ?_
  cases outcomes with
  | returned _ => exact .pure ⟨⟨path, title, other, rfl, rfl⟩, rfl⟩
  | raised error =>
      exact (echoes_logComposed _ _ _ _).bind_eq fun _ =>
        .pure ⟨⟨path, title, other, rfl, rfl⟩, rfl⟩

end Tour

/-- A title that ignores the log is the same whatever the log is. -/
theorem Action.IgnoresLog.answer_eq {α : Type} [Inhabited α] {action : Action α}
    (ignores : action.IgnoresLog) {world later : World} (same : world.SameButLog later) :
    later.answer action = world.answer action := by
  obtain ⟨pairs, _⟩ := ignores.echoes world later same
  rw [World.answer, World.answer, pairs.eq]

namespace Passage

variable {passage : Passage} {address : Address} {found twin : ActionTree} {node : ActionNode}
  {before : Array Happening} {engine : RetryEngine} {trail : List (Address × ActionNode)}
  {world later : World}

/-- Groups around what is walked: nodes of the tree that do not lie below the place. -/
def Around (passage : Passage) (trail : List (Address × ActionNode)) : Prop :=
  ∀ entry ∈ trail, ¬ passage.place <+: entry.1 ∧
    passage.whole.root.nodeAt? entry.1 = some entry.2

/-- The whole trees are found at the root. -/
theorem twins_root : passage.Twins [] passage.whole.root passage.linked.root where
  located := rfl
  also := rfl
  outside below := (List.prefix_nil.mp below).symm

namespace IsIdle

/-- A group is entered alike. -/
theorem echoes_enter (idle : passage.IsIdle) (beside : ¬ passage.place <+: address)
    (known : passage.whole.root.nodeAt? address = some node) (title other : String)
    (previous : Value) :
    Echoes (Tour.GoesAlong passage.place before) Eq
      (passage.whole.enter address node title previous)
      (passage.linked.enter address node other previous) := by
  have executed : Echoes (Bench.GoesAlong passage.place before) Eq
      (passage.whole.execute address node previous) _ := idle.echoes_execute known previous
  rw [Address.moved_of_beside beside] at executed
  have stands : Echoes (Tour.GoesAlong passage.place before) Eq
      (Effect.read fun tour => tour.standing address)
      (Effect.read fun tour => tour.standing address) :=
    .read fun along => by rw [along.standing]
  refine stands.bind_eq fun standing => ?_
  cases standing with
  | stored result => exact .pure rfl
  | failed error => exact .raise error
  | pending =>
      refine (Tour.echoes_capture (Tour.echoes_execute executed)).bind fun outcomes => ?_
      cases outcomes with
      | @returned result _ same =>
          subst same
          exact (Tour.echoes_setStanding address (.stored result)).bind_eq fun _ => .pure rfl
      | raised error =>
          exact (Tour.echoes_logComposed _ _ _ _).bind_eq fun _ =>
            (Tour.echoes_setStanding address (.failed error)).bind_eq fun _ => .raise error

theorem echoes_enterAll (idle : passage.IsIdle) (around : passage.Around trail)
    (previous : Value) :
    Echoes (Tour.GoesAlong passage.place before) Eq
      (passage.whole.enterAll world trail previous)
      (passage.linked.enterAll later trail previous) := by
  induction trail generalizing previous with
  | nil => exact .pure rfl
  | cons entry inner ih =>
      rw [Around, List.forall_mem_cons] at around
      exact (idle.echoes_enter around.1.1 around.1.2 _ _ previous).bind_eq fun result =>
        ih around.2 result

/-- A case is visited alike: what opens the context for the place is among what is executed
for the case. -/
theorem echoes_visit (idle : passage.IsIdle) (delay : engine.delay.IsBlind)
    (around : passage.Around trail) {here : ActionNode} {children twins : List ActionTree}
    (known : passage.whole.root.nodeAt? address = some here) (isCase : here.variant = .leafCase)
    (alike : passage.Children address 0 children twins) (chains : ActionTree.areChains children) :
    Echoes (Tour.GoesAlong passage.place before) Eq
      (passage.whole.visit engine world trail address here children)
      (passage.linked.visit engine later trail address here twins) := by
  refine (idle.echoes_enterAll around .null).bind_eq fun previous => Tour.echoes_execute ?_
  have executed : Echoes (Bench.GoesAlong passage.place before) Eq
      (passage.whole.execute address here previous) _ := idle.echoes_execute known previous
  rw [Address.moved_of_beside alike.beside] at executed
  have opened := idle.yields_execute address (idle.opens address here known isCase previous)
  refine (executed.yielding opened).bind fun {context value} same => ?_
  obtain ⟨rfl, isContext⟩ := same
  exact idle.echoes_followAll delay children twins address 0 value alike chains fun _ => isContext

/-- The place is not the one of a conventional tree. -/
theorem ne_place_of_isConventional (idle : passage.IsIdle)
    (located : passage.whole.root.subtree? address = some found)
    (conventional : found.isConventional) : address ≠ passage.place := by
  rintro rfl
  obtain ⟨child, also, isStep⟩ := idle.step
  obtain rfl := Option.some.inj (located.symm.trans also)
  obtain ⟨here, children⟩ := found
  rw [ActionTree.isConventional, show here.variant = .chainStep from isStep] at conventional
  cases conventional

mutual

/-- The cases of a tree are visited alike with the node in between. -/
theorem echoes_walk (idle : passage.IsIdle) (delay : engine.delay.IsBlind)
    (same : world.SameButLog later) :
    ∀ (found twin : ActionTree) (trail : List (Address × ActionNode)) (address : Address)
      (path : List String), passage.Twins address found twin → found.isConventional →
      passage.Around trail →
      Echoes (Tour.GoesAlong passage.place before) (List.Forall₂ CaseReport.IsRetitled)
        (passage.whole.walk engine world trail address path found)
        (passage.linked.walk engine later trail address path twin)
  | .node here children, twin, trail, address, path, twins, conventional, around => by
      have elsewhere := idle.ne_place_of_isConventional twins.located conventional
      obtain ⟨sameNode, lower⟩ := twins.cases.resolve_left fun place => elsewhere place.1
      obtain ⟨other, others⟩ := twin
      obtain rfl : other = here := sameNode
      have known := ActionTree.nodeAt?_of_subtree? twins.located
      rcases ActionTree.isConventional_node.mp conventional with
        ⟨isGroup, inner⟩ | ⟨isCase, chains⟩
      · simp only [SpecTree.walk, isGroup, (ignoresLog_groupTitle other).answer_eq same]
        refine echoes_walkAll idle delay same children others _ address 0 _ lower inner ?_
        intro entry member
        rcases List.mem_append.mp member with outer | here
        · exact around entry outer
        · obtain rfl := List.mem_singleton.mp here
          exact ⟨lower.beside, known⟩
      · simp only [SpecTree.walk, isCase]
        have visited : Echoes (Tour.GoesAlong passage.place before) Eq
            (passage.whole.visit engine world trail address other children)
            (passage.linked.visit engine later trail address other others) :=
          idle.echoes_visit delay around known isCase lower chains
        exact (Tour.echoes_report path _ _ visited).bind fun report => .pure (.cons report .nil)

theorem echoes_walkAll (idle : passage.IsIdle) (delay : engine.delay.IsBlind)
    (same : world.SameButLog later) :
    ∀ (children twins : List ActionTree) (trail : List (Address × ActionNode))
      (parent : Address) (next : Nat) (path : List String),
      passage.Children parent next children twins → ActionTree.areConventional children →
      passage.Around trail →
      Echoes (Tour.GoesAlong passage.place before) (List.Forall₂ CaseReport.IsRetitled)
        (passage.whole.walkAll engine world trail parent next path children)
        (passage.linked.walkAll engine later trail parent next path twins)
  | [], [], _, _, _, _, _, _, _ => .pure .nil
  | child :: children, twin :: twins, trail, parent, next, path, alike, conventional, around => by
      obtain ⟨here, further⟩ := ActionTree.areConventional_cons.mp conventional
      rw [SpecTree.walkAll, SpecTree.walkAll]
      refine (echoes_walk idle delay same child twin trail _ path alike.head here around).bind
        fun first => ?_
      refine (echoes_walkAll idle delay same children twins trail parent (next + 1) path alike.tail
        further around).bind fun rest => ?_
      exact .pure (List.rel_append first rest)

end

/-- The walk through a tree goes along with the walk with the node in between. -/
theorem echoes_walkThrough (idle : passage.IsIdle) (delay : engine.delay.IsBlind)
    (same : world.SameButLog later) (name : String) :
    Echoes (Bench.GoesAlong passage.place before) (List.Forall₂ CaseReport.IsRetitled)
      (passage.whole.walkThrough engine world name)
      (passage.linked.walkThrough engine later name) := by
  intro bench other along
  have none : passage.Around [] := by
    intro entry member
    cases member
  have begun : Tour.GoesAlong passage.place before { bench := bench } { bench := other } :=
    ⟨along, rfl⟩
  obtain ⟨pairs, left⟩ := idle.echoes_walk delay same passage.whole.root passage.linked.root [] []
    (withName [] name) twins_root idle.conventional none _ _ begun
  exact ⟨pairs, left.bench⟩

end IsIdle

end Passage

end DeferredSpec
