/-
# Realizing and running with a step in between

A tree and the same tree with a node in between that hands contexts on are realized alike: both
realizations return, or both fail with the same error, since a title can be composed with the
word of that node in it just if it can be composed without. Once they are realized, every run of
the one suite goes along with a run of the other one, for both go as the walks through the trees
do.
-/

import DeferredSpec.Proofs.Detours
import DeferredSpec.Proofs.Eventually
import DeferredSpec.Proofs.Realizing
import DeferredSpec.Proofs.Refinement

namespace DeferredSpec

open Effect (Echoes)

/-- The parts of a title are texts. -/
def AreTexts (chunks : List Value) : Prop := ∃ texts : List String, chunks = texts.map .text

theorem AreTexts.append {first second : List Value} (one : AreTexts first)
    (other : AreTexts second) : AreTexts (first ++ second) := by
  obtain ⟨texts, rfl⟩ := one
  obtain ⟨further, rfl⟩ := other
  exact ⟨texts ++ further, List.map_append.symm⟩

/-- A node is described by a word. -/
def ActionNode.IsWorded (node : ActionNode) : Prop := ∃ word, node.description = .text word

theorem ActionNode.IsWorded.yields_titleChunks {node : ActionNode} (worded : node.IsWorded) :
    (titleChunks node).Yields AreTexts := by
  obtain ⟨word, described⟩ := worded
  rw [titleChunks, described]
  split
  · exact .pure ⟨[word], rfl⟩
  · exact .pure ⟨[word], rfl⟩
  · exact .bind fun rendered => .pure ⟨[word, rendered], rfl⟩

namespace SpecTree

/-- The chunks of a title depend on the tree below its case only. -/
theorem chainChunks_congr {tree other : SpecTree} (complete : tree.losses = [])
    (still : other.losses = []) : ∀ (found : ActionTree) (address place : Address),
    tree.chainChunks address found = other.chainChunks place found
  | .node here children, address, place => by
      rw [chainChunks_node, chainChunks_node, require_of_losses_eq_nil complete,
        require_of_losses_eq_nil still]
      match children with
      | [] => rfl
      | [child] =>
          simp only [chainChunks_congr complete still child (address ++ [0]) (place ++ [0])]
      | _ :: _ :: _ => rfl

end SpecTree

namespace Passage

variable {passage : Passage} {address : Address} {found twin : ActionTree}

/-- Titles are made of words: all nodes are described by words, and so is the one that is put
in, which was not called. -/
structure IsWorded (passage : Passage) : Prop where
  nodes : ∀ address node, passage.whole.root.nodeAt? address = some node → node.IsWorded
  link : passage.link.IsWorded
  uncalled : passage.link.arguments = none

/-- The chunks of a title are texts. -/
theorem IsWorded.yields_chainChunks (worded : passage.IsWorded) : ∀ (found : ActionTree)
    (address : Address), passage.whole.root.subtree? address = some found →
    (passage.whole.chainChunks address found).Yields AreTexts
  | .node here children, address, located => by
      have known := worded.nodes address here (ActionTree.nodeAt?_of_subtree? located)
      have below := ActionTree.hasBelow_children located
      rw [SpecTree.chainChunks_node]
      refine known.yields_titleChunks.bindOf fun own texts => .bind fun _ => ?_
      match children with
      | [] => exact .pure texts
      | [child] =>
          refine (worded.yields_chainChunks child (address ++ [0]) below.head).bindOf ?_
          exact fun rest further => .pure (texts.append further)
      | _ :: _ :: _ => exact .pure texts

/-- The chunks at the place are those of the tree with the word of the node in between before
them. -/
theorem IsIdle.echoes_chainChunks_link (idle : passage.IsIdle) (worded : passage.IsWorded)
    (located : passage.whole.root.subtree? passage.place = some found) :
    Echoes World.SameButLog (fun chunks others => AreTexts chunks ∧ AreTexts others)
      (passage.whole.chainChunks passage.place found)
      (passage.linked.chainChunks passage.place (.node passage.link [found])) := by
  obtain ⟨word, described⟩ := worded.link
  have own : titleChunks passage.link = pure [.text word] := by
    rw [titleChunks, worded.uncalled, described]
  have same := SpecTree.chainChunks_congr idle.tree.complete idle.still found passage.place
    (passage.place ++ [0])
  have told := (passage.whole.ignoresLog_chainChunks passage.place found).echoes.yielding
    (worded.yields_chainChunks found passage.place located)
  rw [SpecTree.chainChunks_node passage.linked, own,
    SpecTree.require_of_losses_eq_nil idle.still, pure_bind, pure_bind]
  dsimp only
  rw [← same]
  -- The chunks of the tree are gone on with as they are, to compare what follows.
  have longer : Echoes World.SameButLog (fun chunks others => AreTexts chunks ∧ AreTexts others)
      (passage.whole.chainChunks passage.place found >>= pure)
      (passage.whole.chainChunks passage.place found >>= fun rest =>
        pure ([.text word] ++ rest)) := by
    refine told.bind fun {chunks others} known => ?_
    obtain ⟨rfl, texts⟩ := known
    exact .pure ⟨texts, AreTexts.append ⟨[word], rfl⟩ texts⟩
  rwa [bind_pure] at longer

/-- The title of a case can be composed just if it can be with the word of the node in between
in it. -/
theorem IsIdle.echoes_chainChunks (idle : passage.IsIdle) (worded : passage.IsWorded) :
    ∀ (found twin : ActionTree) (address : Address), passage.Twins address found twin →
      Echoes World.SameButLog (fun chunks others => AreTexts chunks ∧ AreTexts others)
        (passage.whole.chainChunks address found) (passage.linked.chainChunks address twin)
  | .node here children, twin, address, twins => by
      rcases twins.cases with ⟨rfl, rfl⟩ | ⟨same, lower⟩
      · exact idle.echoes_chainChunks_link worded twins.located
      · obtain ⟨other, others⟩ := twin
        obtain rfl : other = here := same
        have known := worded.nodes address other (ActionTree.nodeAt?_of_subtree? twins.located)
        rw [SpecTree.chainChunks_node, SpecTree.chainChunks_node,
          SpecTree.require_of_losses_eq_nil idle.tree.complete,
          SpecTree.require_of_losses_eq_nil idle.still]
        refine ((ignoresLog_titleChunks other).echoes.yielding known.yields_titleChunks).bind
          fun {own chunks} same => ?_
        obtain ⟨rfl, texts⟩ := same
        rw [pure_bind, pure_bind]
        rcases children with _ | ⟨child, _ | ⟨second, further⟩⟩
        · obtain rfl := List.eq_nil_of_length_eq_zero lower.length
          exact .pure ⟨texts, texts⟩
        · obtain ⟨twin, rfl⟩ := List.length_eq_one_iff.mp lower.length
          exact (idle.echoes_chainChunks worded child twin (address ++ [0]) lower.head).bind
            fun further => .pure ⟨texts.append further.1, texts.append further.2⟩
        · rcases others with _ | ⟨first, _ | ⟨next, more⟩⟩
          · cases lower.length
          · cases lower.length
          · exact .pure ⟨texts, texts⟩

/-- A title that can be composed for a case can be composed for it with the node in between. -/
theorem IsIdle.echoes_caseTitle (idle : passage.IsIdle) (worded : passage.IsWorded)
    (twins : passage.Twins address found twin) :
    Echoes World.SameButLog (fun _ _ => True) (passage.whole.caseTitle address found)
      (passage.linked.caseTitle address twin) := by
  refine (idle.echoes_chainChunks worded found twin address twins).bind
    fun {chunks others} known => ?_
  obtain ⟨⟨texts, rfl⟩, further, rfl⟩ := known
  rintro world later same
  rw [Effect.bind_apply, Effect.bind_apply, textsFrom_map, textsFrom_map]
  exact ⟨.returned trivial, same⟩

end Passage

/-! ### Realizing -/

namespace Rig

variable {runner : RunnerRef} {place : Address} {earlier : Array Happening} {α β : Type}
  {values : α → β → Prop}

/-- Rigs with a suite for the runner, on benches that go along with each other. -/
structure AreFilling (runner : RunnerRef) (place : Address) (earlier : Array Happening)
    (rig other : Rig Runner) : Prop where
  bench : rig.bench.GoesAlong place earlier other.bench
  suite : ∃ suite, rig.IsSuite runner suite
  also : ∃ suite, other.IsSuite runner suite

/-- A registration call makes a suite of every suite and reports on it in the log alone. -/
def Registers (change : Runner → World → Runner × World) : Prop :=
  ∀ suite, ∃ changed, ∀ world, ∃ records,
    change (.suite suite) world = (.suite changed, world.withRecords records)

theorem echoes_act {first : Action α} {second : Action β}
    (echoes : Echoes World.SameButLog values first second) :
    Echoes (AreFilling runner place earlier) values (act first) (act second) := by
  intro rig other filling
  obtain ⟨pairs, left⟩ :=
    (Bench.GoesAlong.concord place earlier).echoes_ofAction echoes _ _ filling.bench
  exact ⟨pairs, left, filling.suite, filling.also⟩

theorem echoes_changeRunner {change alter : Runner → World → Runner × World}
    (registers : Registers change) (also : Registers alter) :
    Echoes (AreFilling runner place earlier) Eq (changeRunner runner change)
      (changeRunner runner alter) := by
  intro rig other filling
  obtain ⟨suite, isSuite⟩ := filling.suite
  obtain ⟨twin, isTwin⟩ := filling.also
  obtain ⟨changed, onSuite⟩ := registers suite
  obtain ⟨altered, onTwin⟩ := also twin
  have one := registered_changeRunner isSuite onSuite (changeRunner_returns change)
  have second := registered_changeRunner isTwin onTwin (changeRunner_returns alter)
  refine ⟨.returned rfl, ?_, ⟨changed, one.isSuite isSuite⟩, altered, second.isSuite isTwin⟩
  obtain ⟨written, first⟩ := one.bench
  obtain ⟨noted, later⟩ := second.bench
  obtain ⟨records, same⟩ := filling.bench.world
  rw [first, later, same]
  exact (Bench.GoesAlong.concord place earlier).withWorld filling.bench ⟨noted, rfl⟩

theorem echoes_newCell :
    Echoes (AreFilling runner place earlier) (fun _ _ => True)
      (newCell : Effect (Rig Runner) CellRef) newCell :=
  fun _ _ filling => ⟨.returned trivial, filling.bench, filling.suite, filling.also⟩

theorem echoes_before (hook other : Body) :
    Echoes (AreFilling runner place earlier) Eq (before runner hook) (before runner other) :=
  echoes_changeRunner (fun _ => ⟨_, fun _ => ⟨_, rfl⟩⟩) fun _ => ⟨_, fun _ => ⟨_, rfl⟩⟩

theorem echoes_case (title other : String) (body twin : Body) :
    Echoes (AreFilling runner place earlier) Eq (case runner title body) (case runner other twin) :=
  echoes_changeRunner (fun _ => ⟨_, fun _ => ⟨_, rfl⟩⟩) fun _ => ⟨_, fun _ => ⟨_, rfl⟩⟩

theorem echoes_group (name : String) {content filling : Effect (Rig Runner) Unit}
    (inside : Echoes (AreFilling runner place earlier) Eq content filling) :
    Echoes (AreFilling runner place earlier) Eq (group runner name content)
      (group runner name filling) := by
  have entered : Echoes (AreFilling runner place earlier) Eq
      (changeRunner runner (SpecRunner.enter name)) (changeRunner runner (SpecRunner.enter name)) :=
    echoes_changeRunner (fun _ => ⟨_, fun _ => ⟨_, rfl⟩⟩) fun _ => ⟨_, fun _ => ⟨_, rfl⟩⟩
  have left : Echoes (AreFilling runner place earlier) Eq
      (changeRunner runner fun found world => (SpecRunner.leave found, world))
      (changeRunner runner fun found world => (SpecRunner.leave found, world)) :=
    echoes_changeRunner (fun _ => ⟨_, fun world => ⟨world.records, rfl⟩⟩)
      fun _ => ⟨_, fun world => ⟨world.records, rfl⟩⟩
  exact entered.bind_eq fun _ => inside.attempt.bind fun outcomes =>
    left.bind_eq fun _ => .ofOutcome outcomes

end Rig

namespace Passage

variable {passage : Passage} {realizer : Realizer} {index : Nat} {earlier : Array Happening}

namespace IsIdle

mutual

/-- A tree is realized just if it is with the node in between. -/
theorem echoes_realize (idle : passage.IsIdle) (worded : passage.IsWorded) :
    ∀ (found twin : ActionTree) (address : Address) (source other : Source),
      passage.Twins address found twin → found.isConventional →
      Echoes (Rig.AreFilling realizer.runner passage.place earlier) Eq
        (realizer.realize passage.whole index address source found)
        (realizer.realize passage.linked index address other twin)
  | .node here children, twin, address, source, other, twins, conventional => by
      have complete := idle.tree.complete
      have elsewhere := idle.ne_place_of_isConventional twins.located conventional
      obtain ⟨sameNode, lower⟩ := twins.cases.resolve_left fun place => elsewhere place.1
      obtain ⟨same, others⟩ := twin
      obtain rfl : same = here := sameNode
      rcases ActionTree.isConventional_node.mp conventional with
        ⟨isGroup, inner⟩ | ⟨isCase, _⟩
      · simp only [Realizer.realize, isGroup, SpecTree.require_of_losses_eq_nil complete,
          SpecTree.require_of_losses_eq_nil idle.still,
          SpecTree.requireChildren_of_losses_eq_nil complete,
          SpecTree.requireChildren_of_losses_eq_nil idle.still, Rig.act_pure, pure_bind]
        refine (Rig.echoes_act (ignoresLog_groupTitle same).echoes).bind_eq fun title => ?_
        refine (Rig.echoes_act (Action.echoes_log _ _ _ _)).bind_eq fun _ => ?_
        refine Rig.echoes_group title (Rig.echoes_newCell.bind fun {cell room} _ => ?_)
        refine (Rig.echoes_before _ _).bind_eq fun _ => ?_
        exact echoes_realizeAll idle worded children others address 0 (.kept cell) (.kept room)
          lower inner
      · simp only [Realizer.realize, isCase, SpecTree.require_of_losses_eq_nil complete,
          SpecTree.require_of_losses_eq_nil idle.still, Rig.act_pure, pure_bind]
        refine (Rig.echoes_act (idle.echoes_caseTitle worded twins)).bind fun {title other} _ => ?_
        exact (Rig.echoes_act (Action.echoes_log _ _ _ _)).bind_eq fun _ =>
          Rig.echoes_case title other _ _

theorem echoes_realizeAll (idle : passage.IsIdle) (worded : passage.IsWorded) :
    ∀ (children twins : List ActionTree) (parent : Address) (next : Nat) (source other : Source),
      passage.Children parent next children twins → ActionTree.areConventional children →
      Echoes (Rig.AreFilling realizer.runner passage.place earlier) Eq
        (realizer.realizeAll passage.whole index parent next source children)
        (realizer.realizeAll passage.linked index parent next other twins)
  | [], [], _, _, _, _, _, _ => .pure rfl
  | child :: children, twin :: twins, parent, next, source, other, alike, conventional => by
      obtain ⟨here, further⟩ := ActionTree.areConventional_cons.mp conventional
      rw [Realizer.realizeAll, Realizer.realizeAll]
      exact (echoes_realize idle worded child twin (parent ++ [next]) source other alike.head
        here).bind_eq fun _ => echoes_realizeAll idle worded children twins parent (next + 1) source
          other alike.tail further

end

/-- The whole tree is realized just if it is with the node in between, and otherwise both fail
with one error. -/
theorem echoes_realizeRoot (idle : passage.IsIdle) (worded : passage.IsWorded)
    (realizer : Realizer) (index : Nat) :
    Echoes (Rig.AreFilling realizer.runner passage.place earlier) Eq
      (realizer.realizeRoot passage.whole index) (realizer.realizeRoot passage.linked index) :=
  idle.echoes_realize worded _ _ [] .nothing .nothing twins_root idle.conventional

end IsIdle

/-! ### Running -/

/-- The tree stands in one rig and the tree with the node in it in another one, on benches that
go along with each other. -/
structure Stand (passage : Passage) (staging other : Staging) (earlier : Array Happening)
    (rig twin : Rig Runner) : Prop where
  stands : staging.Stands rig
  also : other.Stands twin
  bench : rig.bench.GoesAlong passage.place earlier twin.bench

/-- The tree and the tree with the node in it are staged alike: by one realizer, under one name,
and in worlds that differ in the log at most. -/
structure AreStaged (passage : Passage) (staging other : Staging) : Prop where
  whole : staging.whole = passage.whole
  linked : other.whole = passage.linked
  realizer : other.realizer = staging.realizer
  name : other.name = staging.name
  world : staging.world.SameButLog other.world

/-- A run of the suite goes along with a run with the node in between. -/
theorem IsIdle.echoes_runSuite (idle : passage.IsIdle) {staging other : Staging}
    (staged : passage.AreStaged staging other) (delay : staging.realizer.engine.delay.IsBlind) :
    Echoes (passage.Stand staging other earlier) (List.Forall₂ CaseReport.IsRetitled)
      (Rig.runSuite staging.forest staging.runner) (Rig.runSuite other.forest other.runner) := by
  intro rig twin stand
  obtain ⟨outcome, bench, still⟩ := Staging.runSuite_eq_walkThrough stand.stands
  obtain ⟨conclusion, left, kept⟩ := Staging.runSuite_eq_walkThrough stand.also
  have walked := idle.echoes_walkThrough delay staged.world staging.name _ _ stand.bench
  rw [staged.whole] at outcome bench
  rw [staged.linked, staged.realizer, staged.name] at conclusion left
  obtain ⟨reports, along⟩ := walked
  refine ⟨?_, still, kept, ?_⟩
  · rw [outcome, conclusion]
    exact reports
  · rw [bench, left]
    exact along

end Passage

namespace Realizer

end Realizer

end DeferredSpec
