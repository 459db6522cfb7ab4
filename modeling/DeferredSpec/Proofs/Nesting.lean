/-
# Registration by nesting

A suite keeps the group that takes the next registration, and the open groups around it. A
program of registration calls may raise errors anywhere and catch what a group has raised. It
can also be read with no suite at all: each call stands in the body it is written in, and what
it lays down belongs there. Both readings agree, so a registration lands in the innermost group
around it whatever has failed before, and a group that is left puts everything back.
-/

import DeferredSpec.Proofs.Additions
import DeferredSpec.Proofs.Preparation

namespace DeferredSpec

/-- A program of nested registration calls. It goes on by the outcome of other code that it
runs, and by the error that the body of a group has raised, if there is one. -/
inductive Program : Type 1
  | done
  | raise (error : ErrorRef)
  | act {α : Type} (action : Action α) (next : Outcome α → Program)
  | before (hook : Body) (next : Program)
  | case (name : String) (body : Body) (next : Program)
  | group (name : String) (body : Program) (next : Option ErrorRef → Program)

/-- What a registration call has laid down, a group with all that its body has. -/
inductive Laid
  | hook (body : Body)
  | case (name : String) (body : Body)
  | group (name : String) (content : List Laid)

namespace Laid

/-- The hooks among what was laid down, those of groups left out. -/
def hooks : List Laid → List Body
  | [] => []
  | .hook body :: rest => body :: hooks rest
  | .case _ _ :: rest => hooks rest
  | .group _ _ :: rest => hooks rest

/-- The cases and groups among what was laid down. -/
def entries : List Laid → List Entry
  | [] => []
  | .hook _ :: rest => entries rest
  | .case name body :: rest => .case name body :: entries rest
  | .group name content :: rest => .group name (hooks content) (entries content) :: entries rest

end Laid

/-- The suite with what was laid down behind what the current group has. -/
def Suite.extend (laid : List Laid) (suite : Suite) : Suite :=
  { suite with
    current :=
      { suite.current with
        hooks := suite.current.hooks ++ Laid.hooks laid
        entries := suite.current.entries ++ Laid.entries laid } }

namespace Suite

variable {suite : Suite} {laid : List Laid} {name : String}

@[simp] theorem extend_nil (suite : Suite) : suite.extend [] = suite := by
  simp [extend, Laid.hooks, Laid.entries]

theorem extend_before (hook : Body) (suite : Suite) (laid : List Laid) :
    (suite.before hook).extend laid = suite.extend (.hook hook :: laid) := by
  simp [extend, before, OpenGroup.addHook, Laid.hooks, Laid.entries]

theorem extend_case (name : String) (body : Body) (suite : Suite) (laid : List Laid) :
    (suite.case name body).extend laid = suite.extend (.case name body :: laid) := by
  simp [extend, case, OpenGroup.addEntry, Laid.hooks, Laid.entries]

/-- A group that was entered, filled and left stands behind the other entries. -/
theorem leave_extend_enter (name : String) (suite : Suite) (content : List Laid) :
    ((suite.enter name).extend content).leave = suite.extend [.group name content] := by
  simp [extend, enter, leave, OpenGroup.addEntry, OpenGroup.close, Laid.hooks, Laid.entries]

theorem extend_extend_group (name : String) (content : List Laid) (suite : Suite)
    (laid : List Laid) :
    (suite.extend [.group name content]).extend laid =
      suite.extend (.group name content :: laid) := by
  simp [extend, Laid.hooks, Laid.entries]

/-- What is laid down comes behind all that was registered before. -/
theorem extends_extend (suite : Suite) (laid : List Laid) : suite.Extends (suite.extend laid) :=
  ⟨rfl, rfl, List.prefix_append _ _, List.prefix_append _ _⟩

end Suite

/-- How a program ends when read by itself: its outcome, what it has laid down, and the world it
leaves. -/
structure Layout where
  outcome : Outcome Unit
  laid : List Laid
  world : World

/-- The layout with something laid down in front. -/
def Layout.behind (first : Laid) (layout : Layout) : Layout :=
  { layout with laid := first :: layout.laid }

namespace Program

/-- Read a program that stands in a group of the given name. No suite is kept: the body of a
group is read by itself, and what it lays down is the group. -/
def lay (around : String) : Program → World → Layout
  | .done, world => ⟨.returned (), [], world⟩
  | .raise error, world => ⟨.raised error, [], world⟩
  | .act action next, world => (next (action world).1).lay around (action world).2
  | .before hook next, world =>
      (next.lay around (world.debug suiteLogger ("before: " ++ around))).behind (.hook hook)
  | .case name body next, world =>
      (next.lay around (world.debug suiteLogger ("it: " ++ name))).behind (.case name body)
  | .group name body next, world =>
      let inner := body.lay name (world.debug suiteLogger ("describe: " ++ name))
      ((next inner.outcome.error?).lay around inner.world).behind (.group name inner.laid)

/-- Perform a program on a runner. -/
def perform (runner : RunnerRef) : Program → Effect (Rig Runner) Unit
  | .done => pure ()
  | .raise error => Effect.raise error
  | .act action next => do
      let outcome ← (Rig.act action).attempt
      perform runner (next outcome)
  | .before hook next => do
      Rig.before runner hook
      perform runner next
  | .case name body next => do
      Rig.case runner name body
      perform runner next
  | .group name body next => do
      let outcome ← (Rig.group runner name (perform runner body)).attempt
      perform runner (next outcome.error?)

/-- End, with an error if there is one. -/
def finish : Option ErrorRef → Program
  | none => .done
  | some error => .raise error

end Program

namespace Rig

/-- The rig with a suite in the place of a runner, and with another world. -/
def put (runner : RunnerRef) (suite : Suite) (world : World) (rig : Rig Runner) : Rig Runner :=
  { rig.withSuite runner suite with bench := { rig.bench with world } }

variable {runner : RunnerRef} {suite : Suite} {rig : Rig Runner}

@[simp] theorem put_world (world : World) :
    (rig.put runner suite world).bench.world = world := rfl

@[simp] theorem put_put (other : Suite) (world later : World) :
    (rig.put runner suite world).put runner other later = rig.put runner other later := by
  simp [put, withSuite]

theorem IsSuite.put (isSuite : rig.IsSuite runner suite) (other : Suite) (world : World) :
    (rig.put runner other world).IsSuite runner other :=
  isSuite.withSuite other

theorem IsSuite.put_self (isSuite : rig.IsSuite runner suite) (world : World) :
    rig.put runner suite world = { rig with bench := { rig.bench with world } } := by
  have kept : rig.withSuite runner suite = rig := by
    rw [Rig.withSuite, isSuite.setIfInBounds_self]
  rw [Rig.put, kept]

/-- A registration call changes the suite and the world. -/
theorem changeRunner_of_isSuite (isSuite : rig.IsSuite runner suite)
    {change : Runner → World → Runner × World} {changed : Suite} {world : World}
    (onSuite : change (.suite suite) rig.bench.world = (.suite changed, world)) :
    changeRunner runner change rig = (.returned (), rig.put runner changed world) := by
  rw [IsSuite] at isSuite
  simp only [changeRunner, Effect.modify_apply, isSuite, onSuite, put, withSuite]

/-- A group is left as it was entered, however its content ends. -/
theorem group_of_isSuite (isSuite : rig.IsSuite runner suite) (name : String)
    {content : Effect (Rig Runner) Unit} {outcome : Outcome Unit} {filled : Suite} {world : World}
    (ended : content (rig.put runner (suite.enter name)
        (rig.bench.world.debug suiteLogger ("describe: " ++ name))) =
      (outcome, rig.put runner filled world)) :
    group runner name content rig = (outcome, rig.put runner filled.leave world) := by
  have entered : changeRunner runner (SpecRunner.enter name) rig =
      (.returned (), rig.put runner (suite.enter name)
        (rig.bench.world.debug suiteLogger ("describe: " ++ name))) :=
    changeRunner_of_isSuite isSuite rfl
  have left : changeRunner runner (fun found world => (SpecRunner.leave found, world))
      (rig.put runner filled world) = (.returned (), rig.put runner filled.leave world) := by
    rw [changeRunner_of_isSuite (isSuite.put filled world), put_put]
    rfl
  simp only [group, Effect.bind_apply, entered, Effect.attempt_apply, ended, left,
    Effect.ofOutcome_apply]

end Rig

namespace Program

open Rig

variable {runner : RunnerRef} {suite : Suite} {rig : Rig Runner}

/-- A program lays down in the current group what it lays down when read by itself. -/
theorem perform_apply (program : Program) (isSuite : rig.IsSuite runner suite) :
    program.perform runner rig =
      ((program.lay suite.current.name rig.bench.world).outcome,
        rig.put runner (suite.extend (program.lay suite.current.name rig.bench.world).laid)
          (program.lay suite.current.name rig.bench.world).world) := by
  induction program generalizing suite rig with
  | done =>
      rw [perform, lay, Suite.extend_nil, isSuite.put_self]
      rfl
  | raise error =>
      rw [perform, lay, Suite.extend_nil, isSuite.put_self]
      rfl
  | act action next ih =>
      rw [perform, Effect.bind_apply, Effect.attempt_apply, act_apply, lay]
      exact ih _ isSuite
  | before hook next ih =>
      have registered : Rig.before runner hook rig = (.returned (), _) :=
        changeRunner_of_isSuite isSuite rfl
      rw [perform, Effect.bind_apply, registered]
      refine (ih (isSuite.put _ _)).trans ?_
      rw [put_put, Suite.extend_before]
      rfl
  | case name body next ih =>
      have registered : Rig.case runner name body rig = (.returned (), _) :=
        changeRunner_of_isSuite isSuite rfl
      rw [perform, Effect.bind_apply, registered]
      refine (ih (isSuite.put _ _)).trans ?_
      rw [put_put, Suite.extend_case]
      rfl
  | group name body next inside ih =>
      have entered := isSuite.put (suite.enter name)
        (rig.bench.world.debug suiteLogger ("describe: " ++ name))
      have filled := inside entered
      rw [put_put] at filled
      have left := group_of_isSuite isSuite name filled
      rw [perform, Effect.bind_apply, Effect.attempt_apply, left, Suite.leave_extend_enter]
      refine (ih _ (isSuite.put _ _)).trans ?_
      rw [put_put, Suite.extend_extend_group]
      rfl

/-- What registration promises of a program that stands in the current group of a suite. -/
structure FollowsNesting (program : Program) (runner : RunnerRef) (suite : Suite)
    (rig : Rig Runner) : Prop where
  /-- The program ends as it does when read by itself, and what it lays down stands in the
  current group. -/
  performed : program.perform runner rig =
    ((program.lay suite.current.name rig.bench.world).outcome,
      rig.put runner (suite.extend (program.lay suite.current.name rig.bench.world).laid)
        (program.lay suite.current.name rig.bench.world).world)
  /-- Nothing that was registered before is lost or moved. -/
  kept : suite.Extends (suite.extend (program.lay suite.current.name rig.bench.world).laid)
  /-- As the content of a group, the program leaves the suite as it has found it but for one more
  entry, which has what the program lays down, however the program ends. -/
  left : ∀ name,
    let inner := program.lay name (rig.bench.world.debug suiteLogger ("describe: " ++ name))
    Rig.group runner name (program.perform runner) rig =
      (inner.outcome,
        rig.put runner
          { suite with
            current := suite.current.addEntry
              (.group name (Laid.hooks inner.laid) (Laid.entries inner.laid)) }
          inner.world)

/-- Every program registers by nesting, on a suite with whatever is open and registered. -/
theorem followsNesting (program : Program) (isSuite : rig.IsSuite runner suite) :
    program.FollowsNesting runner suite rig where
  performed := program.perform_apply isSuite
  kept := suite.extends_extend _
  left name := by
    have filled := program.perform_apply (isSuite.put (suite.enter name)
      (rig.bench.world.debug suiteLogger ("describe: " ++ name)))
    rw [put_put] at filled
    exact group_of_isSuite isSuite name filled

/-- A body that does nothing. -/
def idle : Body := .routine {} []

/-- A group whose inner group fails and is caught, and which goes on, fails as well, and is
caught. -/
def salvaged : Program :=
  .group "outer"
    (.case "first" idle
      (.group "inner" (.before idle (.case "second" idle (.raise ⟨0⟩)))
        fun _ => .case "third" idle (.raise ⟨1⟩)))
    fun _ => .case "fourth" idle .done

/-- All that was registered around two failures is there, each in its own group. -/
theorem followsNesting_of_salvaged :
    let start : Rig Runner := { runners := #[.suite (Suite.empty "")] }
    let layout := salvaged.lay "" start.bench.world
    start.IsSuite ⟨0⟩ (Suite.empty "") ∧ layout.outcome = .returned () ∧
      layout.laid =
        [.group "outer"
          [.case "first" idle, .group "inner" [.hook idle, .case "second" idle],
            .case "third" idle],
          .case "fourth" idle] ∧
      salvaged.FollowsNesting ⟨0⟩ (Suite.empty "") start :=
  ⟨rfl, rfl, rfl, followsNesting salvaged rfl⟩

end Program

namespace Declaration

mutual

/-- The program of a declaration, with what follows on it. -/
def program : Declaration → (Option ErrorRef → Program) → Program
  | .group name entries, next => .group name (programAll entries Program.finish) next
  | .before code entries, next => .act code fun
      | .returned routine => .before (.routine routine entries) (next none)
      | .raised error => next (some error)
  | .case name code entries, next => .act code fun
      | .returned routine => .case name (.routine routine entries) (next none)
      | .raised error => next (some error)
  | .fail error, next => .act error fun
      | .returned error => next (some error)
      | .raised error => next (some error)
  | .attempt entries, next => programAll entries fun _ => next none

/-- The program of declarations in order. -/
def programAll : List Declaration → (Option ErrorRef → Program) → Program
  | [], next => next none
  | entry :: entries, next => program entry fun
      | none => programAll entries next
      | some error => next (some error)

end

theorem perform_finish (runner : RunnerRef) (outcome : Outcome Unit) :
    (Program.finish outcome.error?).perform runner = Effect.ofOutcome outcome := by
  cases outcome <;> rfl

mutual

/-- A declaration is performed as its program is. -/
theorem perform_program (runner : RunnerRef) :
    ∀ (entry : Declaration) (next : Option ErrorRef → Program) (rig : Rig Runner),
      (entry.program next).perform runner rig =
        (next (entry.perform runner rig).1.error?).perform runner (entry.perform runner rig).2
  | .group name entries, next, rig => by
      have content : (programAll entries Program.finish).perform runner =
          performAll runner entries := by
        funext rig
        rw [perform_programAll, perform_finish]
        rfl
      rw [program, Program.perform, content]
      rfl
  | .before code entries, next, rig => by
      simp only [program, Program.perform, perform, Effect.bind_apply, Effect.attempt_apply,
        Rig.act_apply]
      rcases code rig.bench.world with ⟨outcome, world⟩
      cases outcome <;> rfl
  | .case name code entries, next, rig => by
      simp only [program, Program.perform, perform, Effect.bind_apply, Effect.attempt_apply,
        Rig.act_apply]
      rcases code rig.bench.world with ⟨outcome, world⟩
      cases outcome <;> rfl
  | .fail error, next, rig => by
      simp only [program, Program.perform, perform, Effect.bind_apply, Effect.attempt_apply,
        Rig.act_apply]
      rcases error rig.bench.world with ⟨outcome, world⟩
      cases outcome <;> rfl
  | .attempt entries, next, rig => by
      rw [program, perform_programAll]
      rfl

/-- Declarations are performed as their program is. -/
theorem perform_programAll (runner : RunnerRef) :
    ∀ (entries : List Declaration) (next : Option ErrorRef → Program) (rig : Rig Runner),
      (programAll entries next).perform runner rig =
        (next (performAll runner entries rig).1.error?).perform runner
          (performAll runner entries rig).2
  | [], next, rig => rfl
  | entry :: entries, next, rig => by
      rw [programAll, perform_program, performAll, Effect.bind_apply]
      rcases entry.perform runner rig with ⟨outcome, later⟩
      cases outcome with
      | returned _ => exact perform_programAll runner entries next later
      | raised error => rfl

end

/-- Declarations register by nesting, however any of them fails and whoever catches it. -/
theorem performAll_eq_perform (runner : RunnerRef) (entries : List Declaration) :
    performAll runner entries = (programAll entries Program.finish).perform runner := by
  funext rig
  rw [perform_programAll, perform_finish]
  rfl

end Declaration

end DeferredSpec
