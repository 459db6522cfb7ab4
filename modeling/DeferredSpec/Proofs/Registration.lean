/-
# What realization registers

Realizing a tree whose groups hold groups and cases adds one entry to the current group of
the suite: nested groups with one hook each, and cases. The entry is a function of the tree
and of the world in which realization begins, where all titles are composed. Nothing is
executed; room is made for the result of every group, and records are logged.
-/

import DeferredSpec.Proofs.Shape
import DeferredSpec.Proofs.Titles
import DeferredSpec.Realization.Basic

namespace DeferredSpec

/-- What an action returns in a world, if it returns. -/
def World.answer {α : Type} [Inhabited α] (world : World) (action : Action α) : α :=
  match (action world).1 with
  | .returned value => value
  | .raised _ => default

/-- An action that ignores the log and only asks gives the same answer with any log. -/
theorem Action.IgnoresLog.answer {α : Type} [Inhabited α] {action : Action α}
    (ignores : action.IgnoresLog) (asks : action.OnlyAsks) {world later : World}
    {records : Array LogRecord} {value : α}
    (ended : action (world.withRecords records) = (.returned value, later)) :
    value = world.answer action ∧ later = world.withRecords records ∧
      (action world).1.isReturned := by
  have unchanged := asks _ _ _ ended
  obtain ⟨written, same⟩ := ignores records world
  rw [same] at ended
  have outcome : (action world).1 = .returned value := congrArg Prod.fst ended
  exact ⟨by simp [World.answer, outcome], unchanged, by rw [outcome]; rfl⟩

namespace Suite

/-- The suite with further entries behind those of the current group. -/
def addEntries (entries : List Entry) (suite : Suite) : Suite :=
  { suite with current := { suite.current with entries := suite.current.entries ++ entries } }

@[simp] theorem addEntries_nil (suite : Suite) : suite.addEntries [] = suite := by
  simp [addEntries]

@[simp] theorem addEntries_addEntries (first second : List Entry) (suite : Suite) :
    (suite.addEntries first).addEntries second = suite.addEntries (first ++ second) := by
  simp [addEntries]

/-- A group that is left is the next entry of the group around it. -/
theorem leave_addEntries (name : String) (hook : Body) (entries : List Entry) (suite : Suite) :
    (((suite.enter name).before hook).addEntries entries).leave =
      suite.addEntries [.group name [hook] entries] := rfl

end Suite

namespace Realizer

variable (realizer : Realizer) (whole : SpecTree) (index : Nat) (world : World)

mutual

/-- The entry that realizing a tree registers. `cell` is the number of cells that were
there before. -/
def entryOf (address : Address) (source : Source) (cell : Nat) : ActionTree → Entry
  | .node here children =>
      match here.variant with
      | .group =>
          .group (world.answer (groupTitle here)) [.groupHook ⟨index, address⟩ source ⟨cell⟩]
            (entriesOf address 0 (.kept ⟨cell⟩) (cell + 1) children)
      | _ =>
          .case (world.answer (whole.caseTitle address (.node here children)))
            (.realizedCase realizer ⟨index, address⟩ source)

/-- The entries that realizing children registers, the first of which has the given
position. -/
def entriesOf (parent : Address) (next : Nat) (source : Source) (cell : Nat) :
    List ActionTree → List Entry
  | [] => []
  | child :: children =>
      entryOf (parent ++ [next]) source cell child ::
        entriesOf parent (next + 1) source (cell + child.groupCount) children

end

end Realizer

namespace Realizer

variable (realizer : Realizer) (whole : SpecTree) (index : Nat) (world : World)

/-- The entry of each child. -/
theorem getElem?_entriesOf (parent : Address) (source : Source) (next cell : Nat)
    {children : List ActionTree} {position : Nat} {child : ActionTree} (found : children[position]? = some child) :
    (realizer.entriesOf whole index world parent next source cell children)[position]? =
      some (realizer.entryOf whole index world (parent ++ [next + position]) source
        (cell + ActionTree.groupCounts (children.take position)) child) := by
  induction children generalizing next cell position with
  | nil => simp at found
  | cons first rest ih =>
      cases position with
      | zero =>
          simp only [List.getElem?_cons_zero, Option.some.injEq] at found
          simp [entriesOf, found, ActionTree.groupCounts]
      | succ position =>
          rw [List.getElem?_cons_succ] at found
          rw [entriesOf, List.getElem?_cons_succ, ih _ _ found]
          simp [ActionTree.groupCounts, Nat.add_assoc, Nat.add_comm 1]

end Realizer

namespace SpecTree

mutual

/-- The titles of the groups and cases of a tree can be composed in a world. -/
def IsTitled (whole : SpecTree) (world : World) (address : Address) : ActionTree → Prop
  | .node here children =>
      match here.variant with
      | .group =>
          (groupTitle here world).1.isReturned ∧ AreTitled whole world address 0 children
      | _ => (whole.caseTitle address (.node here children) world).1.isReturned

/-- The titles of several trees, the first of which has the given position, can be
composed. -/
def AreTitled (whole : SpecTree) (world : World) (parent : Address) (next : Nat) :
    List ActionTree → Prop
  | [] => True
  | child :: children =>
      IsTitled whole world (parent ++ [next]) child ∧
        AreTitled whole world parent (next + 1) children

end

end SpecTree

namespace Rig

/-- The runner of the rig is the given suite. -/
def IsSuite (runner : RunnerRef) (suite : Suite) (rig : Rig Runner) : Prop :=
  rig.runners[runner.index]? = some (.suite suite)

/-- Putting a suite where it already is changes nothing. -/
theorem IsSuite.setIfInBounds_self {runner : RunnerRef} {suite : Suite} {rig : Rig Runner}
    (isSuite : rig.IsSuite runner suite) :
    rig.runners.setIfInBounds runner.index (.suite suite) = rig.runners := by
  apply Array.ext_getElem?
  intro position
  rw [Array.getElem?_setIfInBounds]
  split
  · next same =>
      rw [← same, isSuite]
      simp [(Array.getElem?_eq_some_iff.mp isSuite).1]
  · rfl

/-- Something was registered: the runner has become the given suite, there is room for
some more results, and all else is as before but for the log. -/
structure Registered (runner : RunnerRef) (count : Nat) (suite : Suite)
    (before after : Rig Runner) : Prop where
  runners : after.runners = before.runners.setIfInBounds runner.index (.suite suite)
  cells : after.cells = before.cells ++ Array.replicate count none
  bench : ∃ records,
    after.bench = { before.bench with world := before.bench.world.withRecords records }
  current : after.current = before.current

namespace Registered

variable {runner : RunnerRef} {before middle after : Rig Runner} {suite later : Suite}
  {count further : Nat}

theorem isSuite {start : Suite} (registered : Registered runner count suite before after)
    (isSuite : before.IsSuite runner start) : after.IsSuite runner suite := by
  have bound : runner.index < before.runners.size := by
    rw [IsSuite, Array.getElem?_eq_some_iff] at isSuite
    exact isSuite.1
  simp [IsSuite, registered.runners, bound]

theorem trans (first : Registered runner count suite before middle)
    (second : Registered runner further later middle after) :
    Registered runner (count + further) later before after where
  runners := by simp [second.runners, first.runners]
  cells := by simp [second.cells, first.cells, Array.append_assoc]
  bench := by
    obtain ⟨records, same⟩ := first.bench
    obtain ⟨more, equal⟩ := second.bench
    exact ⟨more, by simp [equal, same]⟩
  current := by rw [second.current, first.current]

/-- The world in which something was registered is any other but for the log. -/
theorem world {start : World} (registered : Registered runner count suite before after)
    (same : ∃ records, before.bench.world = start.withRecords records) :
    ∃ records, after.bench.world = start.withRecords records := by
  obtain ⟨records, equal⟩ := registered.bench
  obtain ⟨earlier, same⟩ := same
  exact ⟨records, by simp [equal, same]⟩

end Registered

/-- A group that was registered was entered, filled and left. -/
theorem steps_of_group {ρ : Type} [SpecRunner ρ] {runner : RunnerRef} {rig later : Rig ρ}
    {name : String} {content : Effect (Rig ρ) Unit}
    (ended : group runner name content rig = (.returned (), later)) :
    ∃ entered filled,
      changeRunner runner (SpecRunner.enter name) rig = (.returned (), entered) ∧
        content entered = (.returned (), filled) ∧
        changeRunner runner (fun found world => (SpecRunner.leave found, world)) filled =
          (.returned (), later) := by
  obtain ⟨_, entered, opened, rest⟩ := Effect.bind_eq_returned_iff.mp ended
  obtain ⟨outcome, filled, tried, rest⟩ := Effect.bind_eq_returned_iff.mp rest
  obtain ⟨_, left, closed, done⟩ := Effect.bind_eq_returned_iff.mp rest
  rcases content_ended : content entered with ⟨found, after⟩
  rw [Effect.attempt_apply, content_ended] at tried
  cases tried
  rw [Effect.ofOutcome_apply] at done
  cases done
  exact ⟨entered, after, opened, content_ended, closed⟩

section Steps

variable {runner : RunnerRef} {suite : Suite} {rig later : Rig Runner}

/-- What a registration call does to a suite it reports on in the log alone. -/
theorem registered_changeRunner {change : Runner → World → Runner × World} {changed : Suite}
    (isSuite : rig.IsSuite runner suite)
    (onSuite : ∀ world, ∃ records,
      change (.suite suite) world = (.suite changed, world.withRecords records))
    (ended : changeRunner runner change rig = (.returned (), later)) :
    Registered runner 0 changed rig later := by
  obtain ⟨records, same⟩ := onSuite rig.bench.world
  rw [IsSuite] at isSuite
  rw [changeRunner, Effect.modify_apply, isSuite] at ended
  simp only [same, Prod.mk.injEq, true_and] at ended
  subst ended
  exact ⟨rfl, by simp, ⟨records, rfl⟩, rfl⟩

theorem registered_enter {name : String} (isSuite : rig.IsSuite runner suite)
    (ended : changeRunner runner (SpecRunner.enter name) rig = (.returned (), later)) :
    Registered runner 0 (suite.enter name) rig later :=
  registered_changeRunner isSuite (fun _ => ⟨_, rfl⟩) ended

theorem registered_before {hook : Body} (isSuite : rig.IsSuite runner suite)
    (ended : before runner hook rig = (.returned (), later)) :
    Registered runner 0 (suite.before hook) rig later :=
  registered_changeRunner isSuite (fun _ => ⟨_, rfl⟩) ended

theorem registered_case {name : String} {body : Body} (isSuite : rig.IsSuite runner suite)
    (ended : case runner name body rig = (.returned (), later)) :
    Registered runner 0 (suite.addEntries [.case name body]) rig later :=
  registered_changeRunner isSuite (fun _ => ⟨_, rfl⟩) ended

theorem registered_leave (isSuite : rig.IsSuite runner suite)
    (ended : changeRunner runner (fun found world => (SpecRunner.leave found, world)) rig =
      (.returned (), later)) :
    Registered runner 0 suite.leave rig later :=
  registered_changeRunner isSuite (fun world => ⟨world.records, rfl⟩) ended

theorem registered_log {level : Nat} {source message : String}
    (isSuite : rig.IsSuite runner suite)
    (ended : act (Action.log level source message) rig = (.returned (), later)) :
    Registered runner 0 suite rig later := by
  cases ended
  exact ⟨isSuite.setIfInBounds_self.symm, by simp, ⟨_, rfl⟩, rfl⟩

theorem registered_newCell {cell : CellRef} (isSuite : rig.IsSuite runner suite)
    (ended : newCell rig = (.returned cell, later)) :
    cell = ⟨rig.cells.size⟩ ∧ Registered runner 1 suite rig later := by
  cases ended
  exact ⟨rfl, isSuite.setIfInBounds_self.symm, by simp, ⟨rig.bench.world.records, rfl⟩, rfl⟩

/-- Composing a title changes nothing, and gives what it gives in any world that differs
in the log alone. -/
theorem act_title {world : World} {title : Action String} {text : String}
    (ignores : title.IgnoresLog) (asks : title.OnlyAsks)
    (same : ∃ records, rig.bench.world = world.withRecords records)
    (ended : act title rig = (.returned text, later)) :
    text = world.answer title ∧ later = rig ∧ (title world).1.isReturned := by
  obtain ⟨records, same⟩ := same
  rw [act_apply, same] at ended
  rcases told : title (world.withRecords records) with ⟨outcome, after⟩
  rw [told] at ended
  cases outcome with
  | raised error => cases ended
  | returned value =>
      obtain ⟨answer, unchanged, composed⟩ := ignores.answer asks told
      cases ended
      refine ⟨answer, ?_, composed⟩
      rw [unchanged, ← same]

end Steps

end Rig

namespace Realizer

open Rig

variable {realizer : Realizer} {whole : SpecTree} {index : Nat} (world : World)

mutual

/-- Realizing a tree of groups and cases with a suite registers its entry, all its titles
having been composed. -/
theorem registered_realize (complete : whole.losses = []) :
    ∀ (found : ActionTree) (address : Address) (source : Source) (suite : Suite)
      (rig later : Rig Runner),
      found.isOutline → rig.IsSuite realizer.runner suite →
      (∃ records, rig.bench.world = world.withRecords records) →
      realizer.realize whole index address source found rig = (.returned (), later) →
      Registered realizer.runner found.groupCount
          (suite.addEntries
            [realizer.entryOf whole index world address source rig.cells.size found])
          rig later ∧
        whole.IsTitled world address found
  | .node here children, address, source, suite, rig, later, outline, isSuite, same, ended => by
      rcases ActionTree.isOutline_node.mp outline with ⟨isGroup, lower⟩ | isCase
      · simp only [realize, isGroup, SpecTree.require_of_losses_eq_nil complete,
          SpecTree.requireChildren_of_losses_eq_nil complete, act_pure, pure_bind,
          Effect.bind_eq_returned_iff] at ended
        obtain ⟨title, titled, composed, _, logged, told, ended⟩ := ended
        obtain ⟨rfl, rfl, shown⟩ :=
          act_title (ignoresLog_groupTitle here) (onlyAsks_groupTitle here) same composed
        have first := registered_log isSuite told
        obtain ⟨entered, filled, opened, content, closed⟩ := steps_of_group ended
        have second := first.trans (registered_enter (first.isSuite isSuite) opened)
        obtain ⟨cell, roomy, made, content⟩ := Effect.bind_eq_returned_iff.mp content
        obtain ⟨rfl, room⟩ := registered_newCell (second.isSuite isSuite) made
        have third := second.trans room
        obtain ⟨_, hooked, added, content⟩ := Effect.bind_eq_returned_iff.mp content
        have fourth := third.trans (registered_before (third.isSuite isSuite) added)
        obtain ⟨content, below⟩ :=
          registered_realizeAll complete children address 0 _ _ hooked filled lower
            (fourth.isSuite isSuite) (fourth.world same) content
        have fifth := fourth.trans content
        have sixth := fifth.trans (registered_leave (fifth.isSuite isSuite) closed)
        rw [Suite.leave_addEntries] at sixth
        rw [SpecTree.IsTitled, isGroup]
        refine ⟨?_, shown, below⟩
        simpa [ActionTree.groupCount, entryOf, isGroup, fourth.cells, second.cells,
          Nat.add_comm 1] using sixth
      · simp only [realize, isCase, SpecTree.require_of_losses_eq_nil complete, act_pure, pure_bind,
          Effect.bind_eq_returned_iff] at ended
        obtain ⟨title, titled, composed, _, logged, told, ended⟩ := ended
        obtain ⟨rfl, rfl, shown⟩ :=
          act_title (whole.ignoresLog_caseTitle address _) (whole.onlyAsks_caseTitle address _)
            same composed
        have first := registered_log isSuite told
        have second := registered_case (first.isSuite isSuite) ended
        rw [SpecTree.IsTitled, isCase]
        refine ⟨?_, shown⟩
        simpa [ActionTree.groupCount, entryOf, isCase] using first.trans second

/-- Realizing such trees one after another registers their entries in order. -/
theorem registered_realizeAll (complete : whole.losses = []) :
    ∀ (children : List ActionTree) (parent : Address) (next : Nat) (source : Source)
      (suite : Suite) (rig later : Rig Runner),
      ActionTree.areOutlines children → rig.IsSuite realizer.runner suite →
      (∃ records, rig.bench.world = world.withRecords records) →
      realizer.realizeAll whole index parent next source children rig = (.returned (), later) →
      Registered realizer.runner (ActionTree.groupCounts children)
          (suite.addEntries
            (realizer.entriesOf whole index world parent next source rig.cells.size children))
          rig later ∧
        whole.AreTitled world parent next children
  | [], parent, next, source, suite, rig, later, _, isSuite, _, ended => by
      rw [realizeAll] at ended
      cases ended
      rw [entriesOf, Suite.addEntries_nil]
      exact ⟨⟨isSuite.setIfInBounds_self.symm, by simp [ActionTree.groupCounts],
        ⟨rig.bench.world.records, rfl⟩, rfl⟩, trivial⟩
  | child :: children, parent, next, source, suite, rig, later, outline, isSuite, same, ended => by
      obtain ⟨here, rest⟩ := ActionTree.areOutlines_cons.mp outline
      rw [realizeAll] at ended
      obtain ⟨_, middle, realized, ended⟩ := Effect.bind_eq_returned_iff.mp ended
      obtain ⟨first, shown⟩ :=
        registered_realize complete child _ _ _ _ _ here isSuite same realized
      obtain ⟨second, others⟩ := registered_realizeAll complete children _ _ _ _ _ _ rest
        (first.isSuite isSuite) (first.world same) ended
      refine ⟨?_, shown, others⟩
      simpa [ActionTree.groupCounts, entriesOf, first.cells] using first.trans second

end

end Realizer

end DeferredSpec
