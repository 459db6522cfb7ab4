/-
# Plans of registration

What is registered for a tree of groups and cases can be written down before anything is
registered: a group with one hook for every group of the tree, a case for every case, nested as
in the tree. Titles are left to be composed when their turn comes, since a runner may change the
world in between. Realizing the tree from any of its nodes makes these registrations with
whatever runner there is, and does nothing else. All of them are made just if the titles can be
composed.
-/

import DeferredSpec.Proofs.Descriptions
import DeferredSpec.Proofs.Nodes

namespace DeferredSpec

/-- Two sequences that begin alike come to the same if they go on alike from where they are. -/
theorem Effect.bind_congr {σ α β : Type} {first : Effect σ α} {next other : α → Effect σ β}
    {state : σ} (alike : ∀ value later, first state = (.returned value, later) →
      next value later = other value later) :
    (first >>= next) state = (first >>= other) state := by
  rw [bind_apply, bind_apply]
  rcases ended : first state with ⟨outcome, later⟩
  cases outcome with
  | returned value => exact alike value later ended
  | raised error => rfl

/-- What is to be registered with a runner: a group with its hook and its content, or a case. -/
inductive Registration
  | group (title : Action String) (hook : Body) (content : List Registration)
  | case (title : Action String) (body : Body)

namespace Registration

section Make

variable {ρ : Type} [SpecRunner ρ]

mutual

/-- Make a registration with a runner. The hook of a group comes before its content. -/
def make (runner : RunnerRef) : Registration → Effect (Rig ρ) Unit
  | .group title hook content => do
      let title ← Rig.act title
      Rig.act (Action.log debugLevel realizationLogger ("registering group: " ++ title))
      Rig.group runner title do
        let _ ← Rig.newCell
        Rig.before runner hook
        makeAll runner content
  | .case title body => do
      let title ← Rig.act title
      Rig.act (Action.log debugLevel realizationLogger ("registering case: " ++ title))
      Rig.case runner title body

/-- Make registrations in order. -/
def makeAll (runner : RunnerRef) : List Registration → Effect (Rig ρ) Unit
  | [] => pure ()
  | plan :: plans => do
      make runner plan
      makeAll runner plans

end

end Make

/-- The registration at a place inside another one. -/
def at? : Registration → Address → Option Registration
  | plan, [] => some plan
  | .group _ _ content, index :: rest =>
      match content[index]? with
      | none => none
      | some inner => inner.at? rest
  | .case _ _, _ :: _ => none

mutual

/-- The entry that a registration leaves in a suite if titles come to what they come to in the
given world. -/
def entryIn (world : World) : Registration → Entry
  | .group title hook content => .group (world.answer title) [hook] (entriesIn world content)
  | .case title body => .case (world.answer title) body

/-- The entries that registrations leave in a suite. -/
def entriesIn (world : World) : List Registration → List Entry
  | [] => []
  | plan :: plans => entryIn world plan :: entriesIn world plans

end

mutual

/-- The number of groups of a registration. -/
def groupCount : Registration → Nat
  | .group _ _ content => groupCounts content + 1
  | .case _ _ => 0

/-- The number of groups of registrations. -/
def groupCounts : List Registration → Nat
  | [] => 0
  | plan :: plans => groupCount plan + groupCounts plans

end

end Registration

namespace Realizer

variable (realizer : Realizer) (whole : SpecTree) (index : Nat)

mutual

/-- The registration of a tree of groups and cases. `cell` is the number of cells that were
there before. -/
def planOf (address : Address) (source : Source) (cell : Nat) : ActionTree → Registration
  | .node here children =>
      match here.variant with
      | .group =>
          .group (groupTitle here) (.groupHook ⟨index, address⟩ source ⟨cell⟩)
            (plansOf address 0 (.kept ⟨cell⟩) (cell + 1) children)
      | _ =>
          .case (whole.caseTitle address (.node here children))
            (.realizedCase realizer ⟨index, address⟩ source)

/-- The registrations of children, the first of which has the given position. -/
def plansOf (parent : Address) (next : Nat) (source : Source) (cell : Nat) :
    List ActionTree → List Registration
  | [] => []
  | child :: children =>
      planOf (parent ++ [next]) source cell child ::
        plansOf parent (next + 1) source (cell + child.groupCount) children

end

/-- The registration of a whole tree. -/
def plan (cell : Nat) : Registration := realizer.planOf whole index [] .nothing cell whole.root

variable {realizer whole index}

mutual

/-- The entry of a tree is that of its registration. -/
theorem entryIn_planOf (world : World) (address : Address) (source : Source) (cell : Nat) :
    ∀ found : ActionTree, (realizer.planOf whole index address source cell found).entryIn world =
      realizer.entryOf whole index world address source cell found
  | .node here children => by
      rw [planOf, entryOf]
      cases here.variant with
      | group =>
          simp only [Registration.entryIn]
          rw [entriesIn_plansOf]
      | leafCase => rfl
      | chainStep => rfl

theorem entriesIn_plansOf (world : World) (parent : Address) (next : Nat) (source : Source)
    (cell : Nat) : ∀ children : List ActionTree,
      Registration.entriesIn world (realizer.plansOf whole index parent next source cell children) =
        realizer.entriesOf whole index world parent next source cell children
  | [] => rfl
  | child :: children => by
      rw [plansOf, entriesOf, Registration.entriesIn, entryIn_planOf, entriesIn_plansOf]

end

mutual

theorem groupCount_planOf (address : Address) (source : Source) (cell : Nat) :
    ∀ found : ActionTree,
      (realizer.planOf whole index address source cell found).groupCount = found.groupCount
  | .node here children => by
      rw [planOf, ActionTree.groupCount]
      cases here.variant with
      | group =>
          simp only [Registration.groupCount]
          rw [groupCounts_plansOf]
      | leafCase => rfl
      | chainStep => rfl

theorem groupCounts_plansOf (parent : Address) (next : Nat) (source : Source) (cell : Nat) :
    ∀ children : List ActionTree,
      Registration.groupCounts (realizer.plansOf whole index parent next source cell children) =
        ActionTree.groupCounts children
  | [] => rfl
  | child :: children => by
      rw [plansOf, ActionTree.groupCounts, Registration.groupCounts, groupCount_planOf,
        groupCounts_plansOf]

end

end Realizer

namespace Rig

variable {ρ α β : Type} {runner : RunnerRef}

/-- An effect executes nothing: the history and the stopwatches stay as they are. -/
def IsIdle (effect : Effect (Rig ρ) α) : Prop :=
  ∀ rig, (effect rig).2.bench.history = rig.bench.history ∧
    (effect rig).2.bench.watches = rig.bench.watches

namespace IsIdle

protected theorem pure (value : α) : IsIdle (pure value : Effect (Rig ρ) α) := fun _ => ⟨rfl, rfl⟩

protected theorem act (action : Action α) : IsIdle (act action : Effect (Rig ρ) α) :=
  fun _ => ⟨rfl, rfl⟩

protected theorem newCell : IsIdle (newCell : Effect (Rig ρ) CellRef) := fun _ => ⟨rfl, rfl⟩

protected theorem bind {effect : Effect (Rig ρ) α} {next : α → Effect (Rig ρ) β}
    (first : IsIdle effect) (second : ∀ value, IsIdle (next value)) : IsIdle (effect >>= next) := by
  intro rig
  have before := first rig
  rw [Effect.bind_apply]
  rcases ended : effect rig with ⟨outcome, later⟩
  rw [ended] at before
  cases outcome with
  | raised error => exact before
  | returned value =>
      have after := second value later
      exact ⟨after.1.trans before.1, after.2.trans before.2⟩

protected theorem changeRunner (change : ρ → World → ρ × World) :
    IsIdle (changeRunner runner change) := by
  intro rig
  rw [changeRunner, Effect.modify_apply]
  dsimp only
  split <;> exact ⟨rfl, rfl⟩

protected theorem group [SpecRunner ρ] (name : String) {content : Effect (Rig ρ) Unit}
    (idle : IsIdle content) : IsIdle (group runner name content) :=
  .bind (.changeRunner _) fun _ => .bind (fun rig => idle rig) fun _ =>
    .bind (.changeRunner _) fun _ _ => ⟨rfl, rfl⟩

end IsIdle

/-- Registration calls make no room for results. -/
theorem cells_changeRunner (runner : RunnerRef) (change : ρ → World → ρ × World) (rig : Rig ρ) :
    (changeRunner runner change rig).2.cells = rig.cells := by
  rw [changeRunner, Effect.modify_apply]
  dsimp only
  split <;> rfl

/-- An effect makes room for a number of results if it returns. -/
def MakesRoom (count : Nat) (effect : Effect (Rig ρ) α) : Prop :=
  ∀ rig value later, effect rig = (.returned value, later) →
    later.cells.size = rig.cells.size + count

namespace MakesRoom

protected theorem pure (value : α) : MakesRoom 0 (pure value : Effect (Rig ρ) α) := by
  rintro rig _ _ ⟨⟩
  rfl

protected theorem act (action : Action α) : MakesRoom 0 (act action : Effect (Rig ρ) α) := by
  intro rig value later ended
  cases (Prod.mk.inj ended).2
  rfl

protected theorem changeRunner (change : ρ → World → ρ × World) :
    MakesRoom 0 (changeRunner runner change) := by
  intro rig value later ended
  have cells := cells_changeRunner runner change rig
  rw [ended] at cells
  rw [cells, Nat.add_zero]

protected theorem newCell : MakesRoom 1 (newCell : Effect (Rig ρ) CellRef) := by
  rintro rig _ _ ⟨⟩
  simp

protected theorem bind {count further : Nat} {effect : Effect (Rig ρ) α}
    {next : α → Effect (Rig ρ) β} (first : MakesRoom count effect)
    (second : ∀ value, MakesRoom further (next value)) :
    MakesRoom (count + further) (effect >>= next) := by
  intro rig value later ended
  obtain ⟨found, middle, before, after⟩ := Effect.bind_eq_returned_iff.mp ended
  rw [second found middle value later after, first rig found middle before, Nat.add_assoc]

/-- A group makes the room that its content makes. -/
protected theorem group [SpecRunner ρ] {count : Nat} (name : String)
    {content : Effect (Rig ρ) Unit} (room : MakesRoom count content) :
    MakesRoom count (group runner name content) := by
  intro rig value later ended
  obtain ⟨entered, filled, opened, within, closed⟩ := steps_of_group ended
  have first := MakesRoom.changeRunner _ rig _ entered opened
  have last := MakesRoom.changeRunner _ filled _ later closed
  rw [last, room entered () filled within, first, Nat.add_zero, Nat.add_zero]

end MakesRoom

/-- A registration call that makes a suite of a suite. -/
theorem IsSuite.changeRunner {rig : Rig Runner} {suite changed : Suite}
    {change : Runner → World → Runner × World} (isSuite : rig.IsSuite runner suite)
    (onSuite : ∀ world, (change (.suite suite) world).1 = .suite changed) :
    (changeRunner runner change rig).2.IsSuite runner changed := by
  have bound := (Array.getElem?_eq_some_iff.mp isSuite).1
  rw [IsSuite] at isSuite
  rw [Rig.changeRunner, Effect.modify_apply, isSuite]
  simp [IsSuite, onSuite, bound]

/-- An effect adds at most a number of entries to the current group of a suite, however it ends,
and leaves what was registered before. -/
def Adds (runner : RunnerRef) (most : Nat) (effect : Effect (Rig Runner) α) : Prop :=
  ∀ suite rig, rig.IsSuite runner suite →
    ∃ entries : List Entry, entries.length ≤ most ∧
      (effect rig).2.IsSuite runner (suite.addEntries entries)

namespace Adds

protected theorem pure (value : α) : Adds runner 0 (pure value : Effect (Rig Runner) α) :=
  fun suite _ isSuite => ⟨[], Nat.le_refl 0, by rw [Suite.addEntries_nil]; exact isSuite⟩

protected theorem act (action : Action α) : Adds runner 0 (act action : Effect (Rig Runner) α) :=
  fun suite _ isSuite => ⟨[], Nat.le_refl 0, by rw [Suite.addEntries_nil]; exact isSuite⟩

protected theorem case (name : String) (body : Body) : Adds runner 1 (case runner name body) :=
  fun _ _ isSuite => ⟨[.case name body], Nat.le_refl 1, isSuite.changeRunner fun _ => rfl⟩

protected theorem bind {most further : Nat} {effect : Effect (Rig Runner) α}
    {next : α → Effect (Rig Runner) β} (first : Adds runner most effect)
    (second : ∀ value, Adds runner further (next value)) :
    Adds runner (most + further) (effect >>= next) := by
  intro suite rig isSuite
  obtain ⟨entries, few, after⟩ := first suite rig isSuite
  rw [Effect.bind_apply]
  rcases ended : effect rig with ⟨outcome, later⟩
  rw [ended] at after
  cases outcome with
  | raised error => exact ⟨entries, Nat.le_add_right_of_le few, after⟩
  | returned value =>
      obtain ⟨others, fewer, finished⟩ := second value _ later after
      rw [Suite.addEntries_addEntries] at finished
      refine ⟨entries ++ others, ?_, finished⟩
      rw [List.length_append]
      exact Nat.add_le_add few fewer

/-- A group with a hook and more content is one entry, however much of the content there is. -/
protected theorem group {most : Nat} (name : String) (hook : Body)
    {content : Effect (Rig Runner) Unit} (adds : Adds runner most content) :
    Adds runner 1 (group runner name do
      let _ ← newCell
      before runner hook
      content) := by
  intro suite rig isSuite
  have entered : (changeRunner runner (SpecRunner.enter name) rig).2.IsSuite runner
      (suite.enter name) := isSuite.changeRunner fun _ => rfl
  generalize inside : (changeRunner runner (SpecRunner.enter name) rig).2 = opened at entered
  have roomy : (newCell opened).2.IsSuite runner (suite.enter name) := entered
  have hooked : (before runner hook (newCell opened).2).2.IsSuite runner
      ((suite.enter name).before hook) := roomy.changeRunner fun _ => rfl
  obtain ⟨entries, _, filled⟩ := adds _ _ hooked
  refine ⟨[.group name [hook] entries], Nat.le_refl 1, ?_⟩
  rw [← Suite.leave_addEntries]
  have left : (group runner name (do
      let _ ← newCell
      before runner hook
      content) rig).2 = (changeRunner runner (fun found world => (SpecRunner.leave found, world))
        (content (before runner hook (newCell opened).2).2).2).2 := by
    rw [← inside]
    rfl
  rw [left]
  exact filled.changeRunner fun _ => rfl

end Adds

/-- A group depends on its content only as it is registered once the group was entered. -/
theorem group_congr [SpecRunner ρ] {name : String} {content other : Effect (Rig ρ) Unit}
    {rig : Rig ρ}
    (same : ∀ entered : Rig ρ, entered.cells = rig.cells → content entered = other entered) :
    group runner name content rig = group runner name other rig := by
  have cells := cells_changeRunner runner (SpecRunner.enter name) rig
  rw [group, group, Effect.bind_apply, Effect.bind_apply]
  rcases entered : changeRunner runner (SpecRunner.enter name) rig with ⟨outcome, inside⟩
  rw [entered] at cells
  cases outcome with
  | raised error => rfl
  | returned value =>
      simp only [Effect.bind_apply, Effect.attempt_apply, same inside cells]

end Rig

namespace Registration

open Rig

variable {ρ : Type} [SpecRunner ρ] {runner : RunnerRef}

mutual

/-- Registrations execute nothing. -/
theorem isIdle_make : ∀ plan : Registration, IsIdle (plan.make runner : Effect (Rig ρ) Unit)
  | .group _ _ content =>
      .bind (.act _) fun _ => .bind (.act _) fun _ => .group _ <|
        .bind .newCell fun _ => .bind (.changeRunner _) fun _ => isIdle_makeAll content
  | .case _ _ => .bind (.act _) fun _ => .bind (.act _) fun _ => .changeRunner _

theorem isIdle_makeAll :
    ∀ plans : List Registration, IsIdle (makeAll runner plans : Effect (Rig ρ) Unit)
  | [] => .pure ()
  | plan :: plans => .bind (isIdle_make plan) fun _ => isIdle_makeAll plans

end

mutual

/-- Registrations make room for the result of each of their groups. -/
theorem makesRoom_make : ∀ plan : Registration,
    MakesRoom plan.groupCount (plan.make runner : Effect (Rig ρ) Unit)
  | .group title hook content => by
      have filled : MakesRoom (1 + (0 + groupCounts content)) (do
          let _ ← newCell
          before runner hook
          makeAll runner content : Effect (Rig ρ) Unit) :=
        .bind .newCell fun _ => .bind (.changeRunner _) fun _ => makesRoom_makeAll content
      have whole : MakesRoom (0 + (0 + (1 + (0 + groupCounts content))))
          ((Registration.group title hook content).make runner : Effect (Rig ρ) Unit) :=
        .bind (.act title) fun _ => .bind (.act _) fun _ => .group _ filled
      simpa only [groupCount, Nat.zero_add, Nat.add_comm 1] using whole
  | .case title body => .bind (.act title) fun _ => .bind (.act _) fun _ => .changeRunner _

theorem makesRoom_makeAll : ∀ plans : List Registration,
    MakesRoom (groupCounts plans) (makeAll runner plans : Effect (Rig ρ) Unit)
  | [] => .pure ()
  | plan :: plans => .bind (makesRoom_make plan) fun _ => makesRoom_makeAll plans

end

mutual

/-- However registration ends, a suite has at most one entry more for each registration, and
what was registered before is left alone. -/
theorem adds_make : ∀ plan : Registration, Adds runner 1 (plan.make runner)
  | .group title hook content => by
      have whole : Adds runner (0 + (0 + 1)) ((Registration.group title hook content).make runner) :=
        .bind (.act title) fun name => .bind (.act _) fun _ =>
          .group name hook (adds_makeAll content)
      exact whole
  | .case title body => by
      have whole : Adds runner (0 + (0 + 1)) ((Registration.case title body).make runner) :=
        .bind (.act title) fun name => .bind (.act _) fun _ => .case name body
      exact whole

theorem adds_makeAll :
    ∀ plans : List Registration, Adds runner plans.length (makeAll runner plans)
  | [] => .pure ()
  | plan :: plans => by
      rw [List.length_cons, Nat.add_comm]
      exact .bind (adds_make plan) fun _ => adds_makeAll plans

end

end Registration

namespace Realizer

open Rig

variable {ρ : Type} [SpecRunner ρ] {realizer : Realizer} {whole : SpecTree} {index : Nat}

mutual

/-- Realizing a tree of groups and cases is making its registration. -/
theorem realize_eq_make (complete : whole.losses = []) :
    ∀ (found : ActionTree) (address : Address) (source : Source) (rig : Rig ρ), found.isOutline →
      realizer.realize whole index address source found rig =
        (realizer.planOf whole index address source rig.cells.size found).make realizer.runner rig
  | .node here children, address, source, rig, outline => by
      rcases ActionTree.isOutline_node.mp outline with ⟨isGroup, lower⟩ | isCase
      · simp only [realize, planOf, isGroup, Registration.make,
          SpecTree.require_of_losses_eq_nil complete,
          SpecTree.requireChildren_of_losses_eq_nil complete, act_pure, pure_bind]
        refine Effect.bind_congr fun title titled ended => ?_
        have first : titled.cells = rig.cells := by rw [← (Prod.mk.inj ended).2]
        refine Effect.bind_congr fun _ logged ended => ?_
        have second : logged.cells = rig.cells := by rw [← (Prod.mk.inj ended).2, first]
        refine group_congr fun entered third => ?_
        refine Effect.bind_congr fun cell roomy made => ?_
        have fourth : cell = ⟨rig.cells.size⟩ ∧ roomy.cells.size = rig.cells.size + 1 := by
          cases made
          simp [third, second]
        obtain ⟨rfl, room⟩ := fourth
        refine Effect.bind_congr fun _ hooked added => ?_
        have fifth := cells_changeRunner realizer.runner
          (SpecRunner.before (.groupHook ⟨index, address⟩ source ⟨rig.cells.size⟩)) roomy
        rw [show (changeRunner realizer.runner _ roomy) = _ from added] at fifth
        rw [← room, ← fifth]
        exact realizeAll_eq_makeAll complete children address 0 _ hooked lower
      · simp only [realize, planOf, isCase, Registration.make,
          SpecTree.require_of_losses_eq_nil complete, act_pure, pure_bind]

theorem realizeAll_eq_makeAll (complete : whole.losses = []) :
    ∀ (children : List ActionTree) (parent : Address) (next : Nat) (source : Source)
      (rig : Rig ρ), ActionTree.areOutlines children →
      realizer.realizeAll whole index parent next source children rig =
        Registration.makeAll realizer.runner
          (realizer.plansOf whole index parent next source rig.cells.size children) rig
  | [], _, _, _, _, _ => by rw [realizeAll, plansOf, Registration.makeAll]
  | child :: children, parent, next, source, rig, outline => by
      obtain ⟨here, rest⟩ := ActionTree.areOutlines_cons.mp outline
      rw [realizeAll, plansOf, Registration.makeAll, Effect.bind_apply, Effect.bind_apply,
        realize_eq_make complete child (parent ++ [next]) source rig here]
      rcases made : (realizer.planOf whole index (parent ++ [next]) source rig.cells.size
        child).make realizer.runner rig with ⟨outcome, later⟩
      cases outcome with
      | raised error => rfl
      | returned value =>
          have room := Registration.makesRoom_make _ rig value later made
          rw [groupCount_planOf] at room
          rw [← room]
          exact realizeAll_eq_makeAll complete children parent (next + 1) source later rest

end

/-- What there is in a plan for the node at an address: a group under its title, with its hook
and with as much content as the node has children; a case under its title; and nothing for the
step of a chain, or where there is no node. -/
def Lists (realizer : Realizer) (whole : SpecTree) (index : Nat) (address : Address)
    (found : Option ActionTree) (planned : Option Registration) : Prop :=
  match found with
  | none => planned = none
  | some found =>
      match found.here.variant with
      | .group => ∃ source cell content,
          planned = some (.group (groupTitle found.here) (.groupHook ⟨index, address⟩ source cell)
            content) ∧ content.length = found.children.length
      | .leafCase => ∃ source,
          planned = some (.case (whole.caseTitle address found)
            (.realizedCase realizer ⟨index, address⟩ source))
      | .chainStep => planned = none

theorem length_plansOf (parent : Address) (next : Nat) (source : Source) (cell : Nat)
    (children : List ActionTree) :
    (realizer.plansOf whole index parent next source cell children).length = children.length := by
  induction children generalizing next cell with
  | nil => rfl
  | cons child children ih => rw [plansOf, List.length_cons, List.length_cons, ih]

/-- The registration of each child. -/
theorem getElem?_plansOf (parent : Address) (source : Source) (next cell position : Nat)
    (children : List ActionTree) :
    (realizer.plansOf whole index parent next source cell children)[position]? =
      children[position]?.map fun child =>
        realizer.planOf whole index (parent ++ [next + position]) source
          (cell + ActionTree.groupCounts (children.take position)) child := by
  induction children generalizing next cell position with
  | nil => rfl
  | cons child children ih =>
      cases position with
      | zero => simp [plansOf, ActionTree.groupCounts]
      | succ position =>
          rw [plansOf, List.getElem?_cons_succ, List.getElem?_cons_succ, ih]
          simp [ActionTree.groupCounts, Nat.add_assoc, Nat.add_comm 1]

/-- The plan of a conventional tree lists its groups and its cases, each in its place. -/
theorem lists_planOf (rest : Address) (address : Address) (source : Source) (cell : Nat)
    {found : ActionTree} (conventional : found.isConventional) :
    realizer.Lists whole index (address ++ rest) (found.subtree? rest)
      ((realizer.planOf whole index address source cell found).at? rest) := by
  induction rest generalizing address source cell found with
  | nil =>
      rcases found with ⟨here, children⟩
      rw [List.append_nil, ActionTree.subtree?_nil, Registration.at?]
      rcases ActionTree.isConventional_node.mp conventional with ⟨isGroup, _⟩ | ⟨isCase, _⟩
      · simp only [Lists, ActionTree.here, isGroup, planOf]
        exact ⟨source, ⟨cell⟩, _, rfl, length_plansOf _ _ _ _ children⟩
      · simp only [Lists, ActionTree.here, isCase, planOf]
        exact ⟨source, rfl⟩
  | cons position further ih =>
      rcases found with ⟨here, children⟩
      rw [ActionTree.subtree?_cons, ActionTree.children]
      rcases ActionTree.isConventional_node.mp conventional with ⟨isGroup, lower⟩ | ⟨isCase, lower⟩
      · simp only [planOf, isGroup, Registration.at?, getElem?_plansOf]
        cases below : children[position]? with
        | none => rfl
        | some child =>
            have inner := ih (address ++ [position]) (.kept ⟨cell⟩)
              (cell + 1 + ActionTree.groupCounts (children.take position))
              (ActionTree.areConventional_iff.mp lower child (List.mem_of_getElem? below))
            rw [List.append_assoc] at inner
            simpa using inner
      · simp only [planOf, isCase, Registration.at?]
        cases below : children[position]? with
        | none => rfl
        | some child =>
            simp only [Option.bind_some]
            cases located : child.subtree? further with
            | none => rfl
            | some step =>
                have isStep := ActionTree.variant_of_isChain
                  (ActionTree.areChains_iff.mp lower child (List.mem_of_getElem? below)) located
                simp only [Lists, isStep]

/-- Realizing a tree from one of its nodes makes the registrations of the whole tree with any
runner and does nothing else. A suite gets at most one entry, and the entry of the whole tree if
realization returns; what was registered before is left alone. -/
structure Registers (realizer : Realizer) (whole : SpecTree) (index : Nat) (target : Address) :
    Prop where
  calls : ∀ {ρ : Type} [SpecRunner ρ] (rig : Rig ρ),
    realizer.realizeFrom whole index target rig =
      (realizer.plan whole index rig.cells.size).make realizer.runner rig
  idle : ∀ {ρ : Type} [SpecRunner ρ],
    IsIdle (realizer.realizeFrom whole index target : Effect (Rig ρ) Unit)
  nodes : ∀ (cell : Nat) (address : Address),
    realizer.Lists whole index address (whole.root.subtree? address)
      ((realizer.plan whole index cell).at? address)
  earlier : Adds realizer.runner 1 (realizer.realizeFrom whole index target)
  suite : ∀ (rig : Rig Runner) (suite : Suite), rig.IsSuite realizer.runner suite →
    (realizer.realizeFrom whole index target rig).1.isReturned →
      (realizer.realizeFrom whole index target rig).2.IsSuite realizer.runner
        (suite.addEntries
          [(realizer.plan whole index rig.cells.size).entryIn rig.bench.world])

/-- Realization starts at the root, whichever node is given. -/
theorem realizeFrom_eq_realizeRoot (complete : whole.losses = []) (target : Address) :
    (realizer.realizeFrom whole index target : Effect (Rig ρ) Unit) =
      realizer.realizeRoot whole index := by
  have top : whole.top target = [] := by
    rw [SpecTree.top, SpecTree.trail_of_losses_eq_nil complete, ActionTree.trail]
    cases target <;> rfl
  rw [realizeFrom, top]
  rfl

/-- Realizing a conventional tree from any of its nodes makes the registrations of the tree. With
a suite it goes through with that just if all titles can be composed. -/
theorem realizeFrom_registers (complete : whole.losses = [])
    (conventional : whole.root.isConventional) (target : Address) :
    realizer.Registers whole index target ∧
      ∀ (rig : Rig Runner) (suite : Suite), rig.IsSuite realizer.runner suite →
        ((realizer.realizeFrom whole index target rig).1.isReturned ↔
          whole.IsTitled rig.bench.world [] whole.root) := by
  have outline := ActionTree.isOutline_of_isConventional whole.root conventional
  have calls {ρ : Type} [SpecRunner ρ] (rig : Rig ρ) :
      realizer.realizeFrom whole index target rig =
        (realizer.plan whole index rig.cells.size).make realizer.runner rig := by
    rw [realizeFrom_eq_realizeRoot complete]
    exact realize_eq_make complete whole.root [] .nothing rig outline
  refine ⟨⟨calls, fun rig => ?_, fun cell address => ?_, fun suite rig isSuite => ?_,
    fun rig suite isSuite returned => ?_⟩, fun rig suite isSuite => ?_⟩
  · rw [calls]
    exact Registration.isIdle_make _ rig
  · exact lists_planOf address [] .nothing cell conventional
  · rw [calls]
    exact Registration.adds_make _ suite rig isSuite
  · rw [realizeFrom_eq_realizeRoot complete] at returned ⊢
    rcases ended : realizer.realizeRoot whole index rig with ⟨outcome, later⟩
    rw [ended] at returned
    cases outcome with
    | raised error => cases returned
    | returned value =>
        have registered := (registered_realize rig.bench.world complete whole.root [] .nothing suite
          rig later outline isSuite ⟨rig.bench.world.records, rfl⟩ ended).1
        rw [plan, entryIn_planOf]
        exact registered.isSuite isSuite
  · rw [realizeFrom_eq_realizeRoot complete]
    exact realizeRoot_isReturned complete outline isSuite

end Realizer

namespace SpecTree

/-- A subject that makes three, which should equal something. -/
def counted (expected : Value) : SpecTree where
  root :=
    .node
      { description := .text "count", step := fun _ _ => pure (.integer 3), variant := .group }
      [.node
        { description := .text should, step := fun _ previous => pure previous,
          variant := .leafCase }
        [.single
          { description := .text "equal", step := fun _ previous => pure previous,
            variant := .chainStep, arguments := some [expected] }]]

end SpecTree

/-- Whether a runner is a suite whose one entry is a group with nothing in it. -/
def Runner.holdsEmptyGroup : Runner → Bool
  | .suite ⟨⟨_, _, [.group _ _ []]⟩, _, _⟩ => true
  | _ => false

namespace Realizer

/-- The subject should equal three, realized from the end of the chain. -/
theorem registers_of_counted :
    let realizer : Realizer := ⟨⟨0⟩, ⟨5, .immediate, false⟩⟩
    let whole := SpecTree.counted (.integer 3)
    whole.losses = [] ∧ whole.root.isConventional ∧ realizer.Registers whole 0 [0, 0] ∧
      ∀ (rig : Rig Runner) (suite : Suite), rig.IsSuite realizer.runner suite →
        ((realizer.realizeFrom whole 0 [0, 0] rig).1.isReturned ↔
          whole.IsTitled rig.bench.world [] whole.root) :=
  ⟨rfl, rfl, realizeFrom_registers rfl rfl [0, 0]⟩

/-- A rig with an empty suite, in a world with an object that displays no text. -/
def unwrittenRig : Rig Runner where
  bench.world.objects :=
    #[{ className := "Tricky", fields := [], texts := [], shown := [], misfit := some "int" }]
  runners := #[.suite (Suite.empty "")]

/-- A case that should equal an object without a text is lost: realization fails, and the group
around the case is left empty. -/
theorem not_registers_of_unwritten :
    let realizer : Realizer := ⟨⟨0⟩, ⟨5, .immediate, false⟩⟩
    let whole := SpecTree.counted (.object ⟨0⟩)
    let ended := realizer.realizeFrom whole 0 [] unwrittenRig
    whole.losses = [] ∧ whole.root.isConventional ∧
      unwrittenRig.IsSuite ⟨0⟩ (Suite.empty "") ∧ ended.1.isReturned = false ∧
      ¬ ended.2.IsSuite ⟨0⟩ ((Suite.empty "").addEntries
        [(realizer.plan whole 0 0).entryIn unwrittenRig.bench.world]) := by
  intro realizer whole ended
  have emptied : ended.2.runners[0]?.map Runner.holdsEmptyGroup = some true := by decide +kernel
  refine ⟨rfl, rfl, rfl, by decide +kernel, fun filled => ?_⟩
  rw [Rig.IsSuite] at filled
  rw [filled] at emptied
  cases emptied

end Realizer

end DeferredSpec
