/-
# What runs may add to suites

Code that runs on a rig may register with any runner, but what it registers only ever comes
behind what was there: the open groups stay open, no hook and no entry is lost, and how far
the groups are prepared is left alone. This holds of every body, however it ends.
-/

import DeferredSpec.Proofs.Composition

namespace DeferredSpec

namespace Suite

/-- A suite has come out of another one by adding to its current group. -/
structure Extends (before after : Suite) : Prop where
  progress : after.progress = before.progress
  enclosing : after.enclosing = before.enclosing
  hooks : before.current.hooks <+: after.current.hooks
  entries : before.current.entries <+: after.current.entries

namespace Extends

variable {first second third : Suite}

protected theorem refl (suite : Suite) : suite.Extends suite :=
  ⟨rfl, rfl, List.prefix_rfl, List.prefix_rfl⟩

protected theorem trans (early : first.Extends second) (late : second.Extends third) :
    first.Extends third where
  progress := late.progress.trans early.progress
  enclosing := late.enclosing.trans early.enclosing
  hooks := early.hooks.trans late.hooks
  entries := early.entries.trans late.entries

theorem before (hook : Body) (suite : Suite) : suite.Extends (suite.before hook) :=
  ⟨rfl, rfl, List.prefix_append _ _, List.prefix_rfl⟩

theorem case (name : String) (body : Body) (suite : Suite) :
    suite.Extends (suite.case name body) :=
  ⟨rfl, rfl, List.prefix_rfl, List.prefix_append _ _⟩

/-- A group that was entered, added to and left is one more entry. -/
theorem leave {name : String} {suite filled : Suite} (content : (suite.enter name).Extends filled) :
    suite.Extends filled.leave := by
  have around : filled.enclosing = suite.current :: suite.enclosing := content.enclosing
  have left : filled.leave = { filled with
      current := suite.current.addEntry filled.current.close, enclosing := suite.enclosing } := by
    rw [Suite.leave, around]
  rw [left]
  exact ⟨content.progress, rfl, List.prefix_rfl, List.prefix_append _ _⟩

end Extends

/-- The hooks of the group at a path. -/
def hooksAt (suite : Suite) (path : GroupPath) : List Body := (suite.groupAt path).2

end Suite

namespace OpenGroup

/-- The hooks of the group at a path inside an open group. -/
def hooksAt (group : OpenGroup) (path : GroupPath) : List Body :=
  (Entry.groupAt group.name group.hooks group.entries path).2

/-- What is added to a group leaves the hooks of all groups in it where they are. -/
theorem hooksAt_prefix {first second : OpenGroup} (hooks : first.hooks <+: second.hooks)
    (entries : first.entries <+: second.entries) (path : GroupPath) :
    first.hooksAt path <+: second.hooksAt path := by
  cases path with
  | nil => exact hooks
  | cons index rest =>
      obtain ⟨added, whole⟩ := entries
      cases found : first.entries[index]? with
      | none =>
          simp only [hooksAt, Entry.groupAt, found]
          exact List.nil_prefix
      | some entry =>
          have bound : index < first.entries.length := (List.getElem?_eq_some_iff.mp found).1
          have same : second.entries[index]? = some entry := by
            rw [← whole, List.getElem?_append_left bound, found]
          simp only [hooksAt, Entry.groupAt, found, same]
          cases entry <;> exact List.prefix_rfl

/-- What is added to a group is added to it as an entry of the group around it. -/
theorem hooksAt_addEntry_close {first second : OpenGroup}
    (inner : ∀ path, first.hooksAt path <+: second.hooksAt path) (around : OpenGroup)
    (path : GroupPath) :
    (around.addEntry first.close).hooksAt path <+: (around.addEntry second.close).hooksAt path := by
  cases path with
  | nil => exact List.prefix_rfl
  | cons index rest =>
      simp only [hooksAt, addEntry, Entry.groupAt]
      rcases Nat.lt_trichotomy index around.entries.length with before | last | behind
      · simp only [List.getElem?_append_left before, List.prefix_rfl]
      · subst last
        simp only [List.getElem?_concat_length, close]
        exact inner rest
      · have beyond : ∀ entry : Entry, (around.entries ++ [entry])[index]? = none := fun entry =>
          List.getElem?_eq_none (by simp; omega)
        simp only [beyond]
        exact List.prefix_rfl

end OpenGroup

namespace Suite

theorem hooksAt_rootOf {first second : OpenGroup}
    (inner : ∀ path, first.hooksAt path <+: second.hooksAt path) (enclosing : List OpenGroup)
    (path : GroupPath) :
    (rootOf first enclosing).hooksAt path <+: (rootOf second enclosing).hooksAt path := by
  induction enclosing generalizing first second with
  | nil => exact inner path
  | cons around further ih => exact ih (OpenGroup.hooksAt_addEntry_close inner around)

/-- No hook that a group has is lost or moved. -/
theorem Extends.hooksAt {before after : Suite} (added : before.Extends after) (path : GroupPath) :
    before.hooksAt path <+: after.hooksAt path := by
  have kept := hooksAt_rootOf (OpenGroup.hooksAt_prefix added.hooks added.entries)
    before.enclosing path
  rw [Suite.hooksAt, Suite.hooksAt, groupAt, groupAt, root, root, added.enclosing]
  exact kept

end Suite

/-- A runner has come out of another one by registration. A suite stays a suite. -/
def Runner.Extends : Runner → Runner → Prop
  | .suite before, .suite after => before.Extends after
  | .recorder _, .recorder _ => True
  | _, _ => False

namespace Runner.Extends

protected theorem refl : ∀ runner : Runner, runner.Extends runner
  | .suite kept => Suite.Extends.refl kept
  | .recorder _ => trivial

protected theorem trans {first second third : Runner} (early : first.Extends second)
    (late : second.Extends third) : first.Extends third := by
  cases first <;> cases second <;> cases third <;>
    first
      | exact Suite.Extends.trans early late
      | exact trivial
      | exact early.elim
      | exact late.elim

theorem before (hook : Body) (runner : Runner) (world : World) :
    runner.Extends (SpecRunner.before hook runner world).1 := by
  cases runner with
  | suite kept => exact Suite.Extends.before hook kept
  | recorder _ => exact trivial

theorem case (name : String) (body : Body) (runner : Runner) (world : World) :
    runner.Extends (SpecRunner.case name body runner world).1 := by
  cases runner with
  | suite kept => exact Suite.Extends.case name body kept
  | recorder _ => exact trivial

theorem leave {name : String} {runner filled : Runner} {world : World}
    (content : (SpecRunner.enter name runner world).1.Extends filled) :
    runner.Extends (SpecRunner.leave filled) := by
  cases runner <;> cases filled <;>
    first
      | exact Suite.Extends.leave content
      | exact trivial
      | exact content.elim

end Runner.Extends

namespace Rig

/-- A rig has come out of another one by registrations with its runners. -/
def Extends (before after : Rig Runner) : Prop :=
  ∀ position : Nat, Option.Rel Runner.Extends before.runners[position]? after.runners[position]?

namespace Extends

variable {first second third : Rig Runner}

theorem of_runners_eq (same : second.runners = first.runners) : first.Extends second := by
  intro position
  rw [same]
  cases first.runners[position]? with
  | none => exact .none
  | some runner => exact .some (.refl runner)

protected theorem trans (early : first.Extends second) (late : second.Extends third) :
    first.Extends third := by
  intro position
  have start := early position
  have onward := late position
  revert start onward
  generalize first.runners[position]? = one
  generalize second.runners[position]? = two
  generalize third.runners[position]? = three
  intro start onward
  cases start with
  | none =>
      cases onward
      exact .none
  | some early =>
      cases onward with
      | some late => exact .some (early.trans late)

end Extends

/-- An effect only adds to the runners, however it ends. -/
def OnlyAdds {α : Type} (effect : Effect (Rig Runner) α) : Prop :=
  ∀ rig : Rig Runner, rig.Extends (effect rig).2

theorem getElem?_changeRunner (runner : RunnerRef) (change : Runner → World → Runner × World)
    (rig : Rig Runner) (position : Nat) :
    (changeRunner runner change rig).2.runners[position]? =
      if position = runner.index then
        rig.runners[position]?.map fun found => (change found rig.bench.world).1
      else rig.runners[position]? := by
  rw [changeRunner, Effect.modify_apply]
  by_cases here : position = runner.index
  · subst here
    cases found : rig.runners[runner.index]? with
    | none => simp [found]
    | some kept =>
        have bound := (Array.getElem?_eq_some_iff.mp found).1
        simp [bound]
  · rw [if_neg here]
    cases found : rig.runners[runner.index]? with
    | none => rfl
    | some kept => simp [Ne.symm here]

namespace OnlyAdds

variable {α β : Type}

theorem of_runners_eq {effect : Effect (Rig Runner) α}
    (same : ∀ rig, (effect rig).2.runners = rig.runners) : OnlyAdds effect :=
  fun rig => .of_runners_eq (same rig)

protected theorem pure (value : α) : OnlyAdds (pure value) := .of_runners_eq fun _ => rfl

protected theorem act (action : Action α) : OnlyAdds (act action) := .of_runners_eq fun _ => rfl

protected theorem bind {first : Effect (Rig Runner) α} {next : α → Effect (Rig Runner) β}
    (adds : OnlyAdds first) (further : ∀ value, OnlyAdds (next value)) :
    OnlyAdds (first >>= next) := by
  intro rig
  have start := adds rig
  rw [Effect.bind_apply]
  rcases ended : first rig with ⟨outcome, later⟩
  rw [ended] at start
  cases outcome with
  | returned value => exact start.trans (further value later)
  | raised error => exact start

protected theorem attempt {effect : Effect (Rig Runner) α} (adds : OnlyAdds effect) :
    OnlyAdds effect.attempt := adds

protected theorem changeRunner (runner : RunnerRef) {change : Runner → World → Runner × World}
    (adds : ∀ (found : Runner) (world : World), found.Extends (change found world).1) :
    OnlyAdds (changeRunner runner change) := by
  intro rig position
  rw [getElem?_changeRunner]
  cases rig.runners[position]? with
  | none => split <;> exact .none
  | some found =>
      split
      · exact .some (adds found _)
      · exact .some (.refl found)

protected theorem before (runner : RunnerRef) (hook : Body) : OnlyAdds (before runner hook) :=
  .changeRunner runner (Runner.Extends.before hook)

protected theorem case (runner : RunnerRef) (name : String) (body : Body) :
    OnlyAdds (case runner name body) :=
  .changeRunner runner (Runner.Extends.case name body)

/-- A group is entered and left around its content, however that ends. -/
protected theorem group (runner : RunnerRef) (name : String)
    {content : Effect (Rig Runner) Unit} (adds : OnlyAdds content) :
    OnlyAdds (group runner name content) := by
  intro rig position
  have filled := adds (changeRunner runner (SpecRunner.enter name) rig).2 position
  rw [getElem?_changeRunner] at filled
  have left : (group runner name content rig).2.runners[position]? =
      (changeRunner runner (fun found world => (SpecRunner.leave found, world))
        (content (changeRunner runner (SpecRunner.enter name) rig).2).2).2.runners[position]? := rfl
  rw [left, getElem?_changeRunner]
  by_cases here : position = runner.index
  · rw [if_pos here] at filled ⊢
    revert filled
    generalize (content _).2.runners[position]? = inside
    cases rig.runners[position]? with
    | none =>
        rintro ⟨⟩
        exact .none
    | some found =>
        rintro ⟨⟩
        next grown => exact .some (.leave grown)
  · rwa [if_neg here] at filled ⊢

protected theorem cellValue (cell : CellRef) : OnlyAdds (cellValue cell : Effect (Rig Runner) Value) := by
  refine .bind (.of_runners_eq fun _ => rfl) fun value => ?_
  cases value with
  | none => exact .act _
  | some value => exact .pure value

theorem closed : Closed (fun _ => True) @OnlyAdds where
  pure := .pure
  raise _ := .of_runners_eq fun _ => rfl
  bind := .bind
  attempt := .attempt
  act := .act
  execute _ _ _ _ := .of_runners_eq fun _ => rfl
  run _ _ _ _ _ := .of_runners_eq fun _ => rfl
  group := .group
  before := .before
  case := .case
  current := .of_runners_eq fun _ => rfl
  newCell := .of_runners_eq fun _ => rfl
  setCell _ _ := .of_runners_eq fun _ => rfl
  cellValue := .cellValue

end OnlyAdds

end Rig

/-- Whatever a body does, it only adds to the runners. -/
theorem Body.onlyAdds_run (forest : Array SpecTree) (body : Body) :
    Rig.OnlyAdds (body.run forest) :=
  Rig.OnlyAdds.closed.runBody (fun _ _ _ => trivial) body

end DeferredSpec
