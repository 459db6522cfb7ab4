/-
# Suites conducted directly

A suite prepares its groups lazily: before every case it goes through the groups around the
case, and remembers of each whether its hooks have run and how that ended. Where nothing is
registered meanwhile and only ordinary errors are raised, this comes to a direct recursion over
the groups, which needs no memory: a group that has cases runs its hooks when it is entered, and
an error of a hook stands in the way of everything in the group.
-/

import DeferredSpec.Proofs.Forgetting
import DeferredSpec.Proofs.Grounds
import DeferredSpec.Proofs.Refinement
import Mathlib.Data.List.Induction

namespace DeferredSpec

namespace World

/-- The error was made, and handlers of ordinary errors take it. -/
def Catches (world : World) (error : ErrorRef) : Prop :=
  error.index < world.errors.size ∧ world.isOrdinary error

/-- The errors that were there are there, and are taken as before. -/
def Keeps (before after : World) : Prop := ∀ error, before.Catches error → after.Catches error

protected theorem Keeps.refl (world : World) : world.Keeps world := fun _ caught => caught

protected theorem Keeps.trans {first second third : World} (early : first.Keeps second)
    (late : second.Keeps third) : first.Keeps third :=
  fun error caught => late error (early error caught)

/-- A new error is no old one. -/
theorem keeps_newError (cell : ErrorCell) (world : World) :
    world.Keeps (world.newError cell).2 := by
  intro error caught
  obtain ⟨made, ordinary⟩ := caught
  have same : (world.newError cell).2.errorAt error = world.errorAt error := by
    rw [errorAt, errorAt, newError, Array.getElem?_push_lt made, Array.getElem?_eq_getElem made]
  refine ⟨?_, ?_⟩
  · rw [newError, Array.size_push]
    omega
  · rw [isOrdinary, same]
    exact ordinary

theorem catches_newError {cell : ErrorCell} (ordinary : cell.kind.isOrdinary) (world : World) :
    (world.newError cell).2.Catches (world.newError cell).1 := by
  refine ⟨?_, ?_⟩
  · rw [newError, Array.size_push]
    exact Nat.lt_succ_self _
  · rw [isOrdinary, errorAt_newError]
    exact ordinary

theorem keeps_logComposed (level : Nat) (source : String) (message : World → Wording)
    (world : World) : world.Keeps (Action.logComposed level source message world).2 := by
  intro error caught
  rw [Action.logComposed, Effect.modify_apply]
  cases message world <;> exact caught

end World

/-- Wherever the errors of a world are still there, the body registers nothing, raises only
ordinary errors, and leaves errors what they are. -/
structure Body.IsTame (forest : Array SpecTree) (base : World) (body : Body) : Prop where
  registersNothing : ∀ rig : Rig Runner, base.Keeps rig.bench.world →
    (body.run forest rig).2.runners = rig.runners
  raisesCaught : ∀ (rig : Rig Runner) (error : ErrorRef), base.Keeps rig.bench.world →
    (body.run forest rig).1 = .raised error → (body.run forest rig).2.bench.world.Catches error
  keepsErrors : ∀ rig : Rig Runner, base.Keeps rig.bench.world →
    rig.bench.world.Keeps (body.run forest rig).2.bench.world

namespace Entry

mutual

/-- Something holds of all hooks and bodies of an entry. -/
def EachBody (holds : Body → Prop) : Entry → Prop
  | .case _ body => holds body
  | .group _ hooks entries => (∀ hook ∈ hooks, holds hook) ∧ EachBodyIn holds entries

/-- Something holds of all hooks and bodies of several entries. -/
def EachBodyIn (holds : Body → Prop) : List Entry → Prop
  | [] => True
  | entry :: entries => EachBody holds entry ∧ EachBodyIn holds entries

end

mutual

/-- The entry is a case, or a group with a case somewhere in it. -/
def hasCase : Entry → Bool
  | .case .. => true
  | .group _ _ entries => anyHasCase entries

/-- One of the entries has a case. -/
def anyHasCase : List Entry → Bool
  | [] => false
  | entry :: entries => hasCase entry || anyHasCase entries

end

end Entry

namespace Rig

/-- Run the hooks of a group in order, up to the first that raises an error. The error is
logged, and stands in the way of what is in the group. -/
def conductHooks (forest : Array SpecTree) (name : String) :
    List Body → Effect (Rig Runner) (Option ErrorRef)
  | [] => pure none
  | hook :: hooks => do
      let outcome ← (hook.run forest).attempt
      match outcome with
      | .returned _ => conductHooks forest name hooks
      | .raised error => do
          act (Action.logComposed errorLevel suiteLogger (hookFailure name error))
          pure (some error)

/-- Run a case and report how it ended. With an error in its way the case is not run, and ends
with that error. -/
def conductCase (forest : Array SpecTree) (path : List String) (body : Body)
    (obstacle : Option ErrorRef) : Effect (Rig Runner) CaseReport := do
  let outcome ← match obstacle with
    | none => (body.run forest).attempt
    | some error => pure (.raised error)
  match outcome with
  | .returned _ => pure ⟨path, none⟩
  | .raised error => do
      act (Action.logComposed debugLevel suiteLogger (caseFailure path error))
      pure ⟨path, some error⟩

end Rig

namespace Entry

mutual

/-- Conduct an entry inside groups of the given names: report its cases in order. A group
without cases is passed over. Any other group runs its hooks first, unless an error is in
its way. -/
def conduct (forest : Array SpecTree) (path : List String) (obstacle : Option ErrorRef) :
    Entry → Effect (Rig Runner) (List CaseReport)
  | .case name body => do
      let report ← Rig.conductCase forest (path ++ [name]) body obstacle
      pure [report]
  | .group name hooks entries =>
      if anyHasCase entries then do
        let met ← match obstacle with
          | none => Rig.conductHooks forest name hooks
          | some error => pure (some error)
        conductAll forest (withName path name) met entries
      else pure []

/-- Conduct several entries in order. -/
def conductAll (forest : Array SpecTree) (path : List String) (obstacle : Option ErrorRef) :
    List Entry → Effect (Rig Runner) (List CaseReport)
  | [] => pure []
  | entry :: entries => do
      let reports ← conduct forest path obstacle entry
      let more ← conductAll forest path obstacle entries
      pure (reports ++ more)

end

/-- What is reported when nothing is run: only the log has changed, and all cases are reported
with one error. -/
def Stopped (error : ErrorRef) (rig : Rig Runner)
    (ended : Outcome (List CaseReport) × Rig Runner) : Prop :=
  ∃ reports records, (∀ report ∈ reports, report.error = some error) ∧
    ended = (.returned reports,
      { rig with bench.world := rig.bench.world.withRecords records })

theorem Stopped.nil (error : ErrorRef) (rig : Rig Runner) : Stopped error rig (.returned [], rig) :=
  ⟨[], rig.bench.world.records, fun _ member => (by cases member), rfl⟩

theorem stopped_conductCase (forest : Array SpecTree) (path : List String) (body : Body)
    (error : ErrorRef) (rig : Rig Runner) :
    Stopped error rig
      ((Rig.conductCase forest path body (some error) >>= fun report => pure [report]) rig) := by
  have logged : ∃ records, (Action.logComposed debugLevel suiteLogger (caseFailure path error)
      rig.bench.world).2 = rig.bench.world.withRecords records := by
    rw [Action.logComposed, Effect.modify_apply]
    cases caseFailure path error rig.bench.world with
    | ok text => exact ⟨_, rfl⟩
    | error reason => exact ⟨rig.bench.world.records, rfl⟩
  obtain ⟨records, same⟩ := logged
  refine ⟨[⟨path, some error⟩], records, fun report member => ?_, ?_⟩
  · rw [List.mem_singleton.mp member]
  · rw [← same]
    rfl

mutual

/-- With an error in its way nothing of an entry is run, and all its cases are reported with
that error. -/
theorem stopped_conduct (forest : Array SpecTree) (path : List String) (error : ErrorRef) :
    ∀ (entry : Entry) (rig : Rig Runner),
      Stopped error rig (entry.conduct forest path (some error) rig)
  | .case name body, rig => stopped_conductCase forest (path ++ [name]) body error rig
  | .group name hooks entries, rig => by
      rw [conduct]
      cases anyHasCase entries with
      | true => exact stopped_conductAll forest (withName path name) error entries rig
      | false => exact .nil error rig

theorem stopped_conductAll (forest : Array SpecTree) (path : List String) (error : ErrorRef) :
    ∀ (entries : List Entry) (rig : Rig Runner),
      Stopped error rig (conductAll forest path (some error) entries rig)
  | [], rig => .nil error rig
  | entry :: entries, rig => by
      obtain ⟨reports, records, all, run⟩ := stopped_conduct forest path error entry rig
      obtain ⟨more, last, others, runOn⟩ := stopped_conductAll forest path error entries
        { rig with bench.world := rig.bench.world.withRecords records }
      refine ⟨reports ++ more, last, fun report member => ?_, ?_⟩
      · exact (List.mem_append.mp member).elim (all report) (others report)
      · rw [conductAll, Effect.bind_apply, run]
        simp only [Effect.bind_apply, runOn]
        rfl

end

mutual

theorem picks_eq_nil_iff (group : GroupPath) (index : Nat) (path : List String) :
    ∀ entry : Entry, entry.picks group index path = [] ↔ entry.hasCase = false
  | .case name body => by simp [picks, hasCase]
  | .group name hooks entries => by
      rw [picks, hasCase]
      exact picksAll_eq_nil_iff (group ++ [index]) 0 (withName path name) entries

/-- There is nothing to pick just where there is no case. -/
theorem picksAll_eq_nil_iff (group : GroupPath) (next : Nat) (path : List String) :
    ∀ entries : List Entry, picksAll group next path entries = [] ↔ anyHasCase entries = false
  | [] => by simp [picksAll, anyHasCase]
  | entry :: entries => by
      rw [picksAll, anyHasCase, List.append_eq_nil_iff, Bool.or_eq_false_iff,
        picks_eq_nil_iff group next path entry, picksAll_eq_nil_iff group (next + 1) path entries]

end

mutual

theorem below_of_mem_picks (group : GroupPath) (index : Nat) (path : List String) :
    ∀ (entry : Entry), ∀ pick ∈ entry.picks group index path, group <+: pick.group
  | .case name body => by
      intro pick member
      rw [picks, List.mem_singleton] at member
      subst member
      exact List.prefix_rfl
  | .group name hooks entries => by
      intro pick member
      rw [picks] at member
      exact (List.prefix_append group [index]).trans
        (below_of_mem_picksAll (group ++ [index]) 0 (withName path name) entries pick member)

/-- The cases in a group lie in the group or in groups inside it. -/
theorem below_of_mem_picksAll (group : GroupPath) (next : Nat) (path : List String) :
    ∀ (entries : List Entry), ∀ pick ∈ picksAll group next path entries, group <+: pick.group
  | [] => by
      intro pick member
      rw [picksAll] at member
      cases member
  | entry :: entries => by
      intro pick member
      rw [picksAll, List.mem_append] at member
      rcases member with here | further
      · exact below_of_mem_picks group next path entry pick here
      · exact below_of_mem_picksAll group (next + 1) path entries pick further

end

end Entry

/-- The groups around a group are among the groups around every group inside it. -/
theorem GroupPath.exists_lineage_eq {outer inner : GroupPath} (within : outer <+: inner) :
    ∃ more, GroupPath.lineage inner = GroupPath.lineage outer ++ more := by
  obtain ⟨rest, rfl⟩ := within
  induction rest using List.reverseRecOn with
  | nil => exact ⟨[], by rw [List.append_nil, List.append_nil]⟩
  | append_singleton rest index ih =>
      obtain ⟨more, same⟩ := ih
      refine ⟨more ++ [outer ++ rest ++ [index]], ?_⟩
      rw [← List.append_assoc, GroupPath.lineage_append, same, List.append_assoc]

theorem GroupPath.prefix_of_mem_lineage {path group : GroupPath}
    (around : path ∈ GroupPath.lineage group) : path <+: group := by
  rw [lineage, List.mem_map] at around
  obtain ⟨depth, _, rfl⟩ := around
  exact List.take_prefix depth group

/-- Noting what is noted already changes nothing. -/
theorem Suite.setProgress_of_progress (suite : Suite) {path : GroupPath}
    {preparation : Preparation} (known : suite.progress path = preparation) :
    suite.setProgress path preparation = suite := by
  have same : (fun other => if other = path then preparation else suite.progress other) =
      suite.progress := by
    funext other
    by_cases here : other = path
    · rw [if_pos here, here, known]
    · rw [if_neg here]
  rw [setProgress, same]

/-- How far a group counts as prepared, given the error that its hooks met. -/
def Preparation.ofObstacle : Option ErrorRef → Preparation
  | none => .done
  | some error => .failed error

/-- How preparing ends, given the error that is in the way. -/
def Outcome.ofObstacle : Option ErrorRef → Outcome Unit
  | none => .returned ()
  | some error => .raised error

namespace Rig

section Hooks

variable {forest : Array SpecTree} {runner : RunnerRef} {suite : Suite} {base : World}
  {progress : GroupPath → Preparation} {path : GroupPath} {rig : Rig Runner}

/-- The rig with another suite in its place has the same preparation forgotten. -/
theorem forget_withSuite (isSuite : rig.IsSuite runner suite) {other : Suite}
    (same : other.reset = suite.reset) : (rig.withSuite runner other).forget = rig.forget := by
  have kept : rig.forget.IsSuite runner suite.reset := by
    rw [IsSuite, forget, Array.getElem?_map, isSuite]
    rfl
  have still : (rig.runners.map Runner.forget).setIfInBounds runner.index
      (Runner.suite other).forget = rig.runners.map Runner.forget := by
    rw [Runner.forget, same]
    exact kept.setIfInBounds_self
  rw [forget, forget, withSuite]
  simp only [Array.map_setIfInBounds, still]

theorem prepare_of_settled (isSuite : rig.IsSuite runner suite) {obstacle : Option ErrorRef}
    (settled : suite.progress path = .ofObstacle obstacle) :
    prepare forest runner path rig = (.ofObstacle obstacle, rig) := by
  rw [prepare, Effect.bind_apply, readSuite_of_isSuite isSuite]
  simp only [id, settled]
  cases obstacle <;> rfl

/-- Hooks are run in the same way by the suite, which remembers what they met, and directly. -/
theorem forEach_runHook (hooks : List Body) (tame : ∀ hook ∈ hooks, hook.IsTame forest base)
    (name : String) (kept : base.Keeps rig.bench.world) (isSuite : rig.IsSuite runner suite)
    (begun : suite.progress path = .done) :
    ∃ met later, conductHooks forest name hooks rig.forget = (.returned met, later.forget) ∧
      Effect.forEach (runHook forest runner path name) hooks rig = (.ofObstacle met, later) ∧
      later.IsSuite runner (suite.setProgress path (.ofObstacle met)) ∧
      rig.bench.world.Keeps later.bench.world ∧
      ∀ error, met = some error → later.bench.world.Catches error := by
  induction hooks generalizing rig with
  | nil =>
      have same : suite.setProgress path (.ofObstacle none) = suite :=
        suite.setProgress_of_progress begun
      exact ⟨none, rig, rfl, rfl, by rwa [same], .refl _, fun _ met => nomatch met⟩
  | cons hook hooks ih =>
      have hookTame := tame hook List.mem_cons_self
      have ignores := hook.ignoresProgress_run forest rig
      have registers := hookTame.registersNothing rig kept
      have raises := hookTame.raisesCaught rig
      have keeps := hookTame.keepsErrors rig kept
      rcases ended : hook.run forest rig with ⟨outcome, later⟩
      rw [ended] at ignores registers raises keeps
      have laterSuite : later.IsSuite runner suite := by
        rw [IsSuite, registers]
        exact isSuite
      rw [conductHooks, Effect.bind_apply, Effect.attempt_apply, ignores, Effect.forEach_cons,
        Effect.bind_apply]
      cases outcome with
      | returned value =>
          rw [runHook_of_returned runner path name ended]
          obtain ⟨met, last, conducted, run, lastSuite, still, caught⟩ :=
            ih (fun other member => tame other (List.mem_cons_of_mem hook member))
              (kept.trans keeps) laterSuite
          exact ⟨met, last, conducted, run, lastSuite, keeps.trans still, caught⟩
      | raised error =>
          have caught := raises error kept rfl
          rw [runHook_of_raised runner path name ended caught.2 laterSuite]
          have told := World.keeps_logComposed errorLevel suiteLogger (hookFailure name error)
            later.bench.world
          have loggedSuite : (later.logHookFailure name error).IsSuite runner suite := laterSuite
          refine ⟨some error, _, ?_, rfl, loggedSuite.withSuite _, keeps.trans told, ?_⟩
          · rw [forget_withSuite loggedSuite (suite.reset_setProgress path (.failed error))]
            rfl
          · rintro _ ⟨⟩
            exact told error caught

/-- The hooks of a group that registers nothing are those it had. -/
theorem runHooks_of_forEach {name : String} {hooks : List Body} {met : Option ErrorRef}
    {later : Rig Runner} {after : Suite} (isSuite : rig.IsSuite runner suite)
    (known : suite.groupAt path = (name, hooks))
    (run : Effect.forEach (runHook forest runner path name) hooks rig = (.ofObstacle met, later))
    (still : later.IsSuite runner after) (unchanged : after.groupAt path = (name, hooks))
    (generations : Nat) :
    runHooks forest runner path generations 0 rig = (.ofObstacle met, later) := by
  have once : runFurtherHooks forest runner path 0 rig =
      ((Outcome.ofObstacle met).map fun _ => hooks.length, later) := by
    rw [runFurtherHooks_eq isSuite known, List.drop_zero, Effect.bind_apply, run]
    cases met <;> rfl
  cases met with
  | some error => cases generations <;> (rw [runHooks, Effect.bind_apply, once]; rfl)
  | none =>
      cases generations with
      | zero => rw [runHooks, Effect.bind_apply, once]; rfl
      | succ generations =>
          rw [runHooks, Effect.bind_apply, once]
          simp only [Outcome.ofObstacle, Outcome.map]
          split
          · rfl
          · exact runHooks_nil name hooks still unchanged (by rw [Nat.zero_add, List.drop_length])

/-- A group that is not prepared yet runs its hooks, and remembers what they met. -/
theorem prepare_of_pending (isSuite : rig.IsSuite runner suite)
    (pending : suite.progress path = .pending) {name : String} {hooks : List Body}
    (known : suite.groupAt path = (name, hooks)) (tame : ∀ hook ∈ hooks, hook.IsTame forest base)
    (kept : base.Keeps rig.bench.world) :
    ∃ met later, conductHooks forest name hooks rig.forget = (.returned met, later.forget) ∧
      prepare forest runner path rig = (.ofObstacle met, later) ∧
      later.IsSuite runner (suite.setProgress path (.ofObstacle met)) ∧
      rig.bench.world.Keeps later.bench.world ∧
      ∀ error, met = some error → later.bench.world.Catches error := by
  have begun := isSuite.withSuite (suite.setProgress path .done)
  have keptThere : base.Keeps (rig.withSuite runner (suite.setProgress path .done)).bench.world :=
    kept
  obtain ⟨met, later, conducted, run, still, keeps, caught⟩ :=
    forEach_runHook hooks tame name keptThere begun (suite.setProgress_progress_self path .done)
  rw [forget_withSuite isSuite (suite.reset_setProgress path .done)] at conducted
  rw [Suite.setProgress_setProgress] at still
  refine ⟨met, later, conducted, ?_, still, keeps, caught⟩
  rw [prepare, Effect.bind_apply, readSuite_of_isSuite isSuite]
  simp only [id, pending, Effect.bind_apply, changeSuite_of_isSuite isSuite]
  exact runHooks_of_forEach begun known run still known _

/-- Groups that are prepared already are passed. -/
theorem forEach_prepare_of_done (isSuite : rig.IsSuite runner suite) {paths : List GroupPath}
    (done : ∀ path ∈ paths, suite.progress path = .done) (more : List GroupPath) :
    Effect.forEach (prepare forest runner) (paths ++ more) rig =
      Effect.forEach (prepare forest runner) more rig := by
  induction paths with
  | nil => rfl
  | cons path paths ih =>
      have settled : suite.progress path = .ofObstacle none := done path List.mem_cons_self
      rw [List.cons_append, Effect.forEach_cons, Effect.bind_apply,
        prepare_of_settled isSuite settled]
      exact ih fun other member => done other (List.mem_cons_of_mem path member)

end Hooks

/-- What is in the way in a group. If nothing is, all groups around it are prepared. An error is
that of the first of them that is not. -/
def Faces (world : World) (progress : GroupPath → Preparation) (group : GroupPath) :
    Option ErrorRef → Prop
  | none => ∀ path ∈ GroupPath.lineage group, progress path = .done
  | some error =>
      world.Catches error ∧
        ∃ before here after, GroupPath.lineage group = before ++ here :: after ∧
          (∀ path ∈ before, progress path = .done) ∧ progress here = .failed error

section Cases

variable {forest : Array SpecTree} {runner : RunnerRef} {suite : Suite} {base : World}
  {rig : Rig Runner} {obstacle : Option ErrorRef}

/-- What is in the way ends the preparation of a case. -/
theorem forEach_prepare_of_faces (isSuite : rig.IsSuite runner suite) {group : GroupPath}
    (faces : Faces rig.bench.world suite.progress group obstacle) :
    Effect.forEach (prepare forest runner) (GroupPath.lineage group) rig =
      (.ofObstacle obstacle, rig) := by
  cases obstacle with
  | none =>
      have passed : Effect.forEach (prepare forest runner) (GroupPath.lineage group ++ []) rig =
          Effect.forEach (prepare forest runner) [] rig := forEach_prepare_of_done isSuite faces []
      rwa [List.append_nil] at passed
  | some error =>
      obtain ⟨_, before, here, after, same, done, failed⟩ := faces
      have settled : suite.progress here = .ofObstacle (some error) := failed
      rw [same, forEach_prepare_of_done isSuite done, Effect.forEach_cons, Effect.bind_apply,
        prepare_of_settled isSuite settled]
      rfl

/-- A case is run and reported in the same way by the suite and directly. -/
theorem reportPick_of_faces (pick : Pick) (isSuite : rig.IsSuite runner suite)
    (faces : Faces rig.bench.world suite.progress pick.group obstacle)
    (tame : pick.body.IsTame forest base) (kept : base.Keeps rig.bench.world) :
    ∃ report later, reportPick forest runner pick rig = (.returned report, later) ∧
      conductCase forest pick.path pick.body obstacle rig.forget =
        (.returned report, later.forget) ∧
      later.runners = rig.runners ∧ rig.bench.world.Keeps later.bench.world := by
  have prepared : Effect.forEach (prepare forest runner) (GroupPath.lineage pick.group) rig =
      (.ofObstacle obstacle, rig) := forEach_prepare_of_faces isSuite faces
  cases obstacle with
  | some error =>
      have raised : runPick forest runner pick rig = (.raised error, rig) := by
        rw [runPick, Effect.bind_apply, prepared]
        rfl
      rw [reportPick, Effect.bind_apply, capture_apply, raised]
      simp only [faces.1.2, if_true]
      refine ⟨_, _, rfl, rfl, rfl, ?_⟩
      exact World.keeps_logComposed debugLevel suiteLogger (caseFailure pick.path error) _
  | none =>
      have ignores := pick.body.ignoresProgress_run forest rig
      have registers := tame.registersNothing rig kept
      have raises := tame.raisesCaught rig
      have keeps := tame.keepsErrors rig kept
      rcases ended : pick.body.run forest rig with ⟨outcome, later⟩
      rw [ended] at ignores registers raises keeps
      have ran : runPick forest runner pick rig = (outcome.map fun _ => (), later) := by
        rw [runPick, Effect.bind_apply, prepared]
        simp only [Outcome.ofObstacle, Effect.bind_apply, ended]
        cases outcome <;> rfl
      rw [reportPick, Effect.bind_apply, capture_apply, ran, conductCase, Effect.bind_apply,
        Effect.attempt_apply, ignores]
      cases outcome with
      | returned value => exact ⟨_, later, rfl, rfl, registers, keeps⟩
      | raised error =>
          have caught := (raises error kept rfl).2
          simp only [Outcome.map, caught, if_true]
          refine ⟨_, _, rfl, rfl, registers, keeps.trans ?_⟩
          exact World.keeps_logComposed debugLevel suiteLogger (caseFailure pick.path error) _

/-- A case in a group does not see whether the group was prepared right before. -/
theorem reportPick_of_prepared {pick : Pick} {around : List GroupPath} {here : GroupPath}
    {later : Rig Runner} {after : Suite} {met : Option ErrorRef}
    (isSuite : rig.IsSuite runner suite) (done : ∀ path ∈ around, suite.progress path = .done)
    (lineage : GroupPath.lineage here = around ++ [here]) (below : here <+: pick.group)
    (prepared : prepare forest runner here rig = (.ofObstacle met, later))
    (still : later.IsSuite runner after) (doneStill : ∀ path ∈ around, after.progress path = .done)
    (settled : after.progress here = .ofObstacle met) :
    reportPick forest runner pick rig = reportPick forest runner pick later := by
  obtain ⟨more, whole⟩ := GroupPath.exists_lineage_eq below
  rw [lineage, List.append_assoc, List.singleton_append] at whole
  have same : runPick forest runner pick rig = runPick forest runner pick later := by
    rw [runPick, whole, Effect.bind_apply, Effect.bind_apply, forEach_prepare_of_done isSuite done,
      forEach_prepare_of_done still doneStill, Effect.forEach_cons, Effect.bind_apply,
      Effect.bind_apply, prepared, prepare_of_settled still settled]
  rw [reportPick, Effect.bind_apply, Effect.bind_apply, capture_apply, capture_apply, same]

/-- So do several cases, of which there is a first. -/
theorem collect_of_prepared {picks : List Pick} {around : List GroupPath} {here : GroupPath}
    {later : Rig Runner} {after : Suite} {met : Option ErrorRef} (some : picks ≠ [])
    (below : ∀ pick ∈ picks, here <+: pick.group) (isSuite : rig.IsSuite runner suite)
    (done : ∀ path ∈ around, suite.progress path = .done)
    (lineage : GroupPath.lineage here = around ++ [here])
    (prepared : prepare forest runner here rig = (.ofObstacle met, later))
    (still : later.IsSuite runner after) (doneStill : ∀ path ∈ around, after.progress path = .done)
    (settled : after.progress here = .ofObstacle met) :
    Effect.collect (reportPick forest runner) picks rig =
      Effect.collect (reportPick forest runner) picks later := by
  cases picks with
  | nil => exact absurd rfl some
  | cons pick picks =>
      rw [Effect.collect_cons, Effect.bind_apply, Effect.bind_apply,
        reportPick_of_prepared isSuite done lineage (below pick List.mem_cons_self) prepared still
          doneStill settled]

end Cases

/-- What the hooks of a group met is in the way in the group, if nothing is in the way around
it. -/
theorem faces_of_settled {world : World} {progress : GroupPath → Preparation}
    {around : List GroupPath} {here : GroupPath} {met : Option ErrorRef}
    (lineage : GroupPath.lineage here = around ++ [here])
    (done : ∀ path ∈ around, progress path = .done) (settled : progress here = .ofObstacle met)
    (caught : ∀ error, met = some error → world.Catches error) :
    Faces world progress here met := by
  cases met with
  | none =>
      intro path member
      rw [lineage, List.mem_append, List.mem_singleton] at member
      rcases member with outside | rfl
      · exact done path outside
      · exact settled
  | some error => exact ⟨caught error rfl, around, here, [], lineage, done, settled⟩

/-- Some cases were run by the suite and directly, in the same way. Only groups of a region are
prepared since. -/
inductive Conducted (runner : RunnerRef) (suite : Suite) (region : GroupPath → Prop)
    (before : Rig Runner) (ended direct : Outcome (List CaseReport) × Rig Runner) : Prop
  | intro {reports : List CaseReport} {later : Rig Runner} {after : Suite}
      (run : ended = (.returned reports, later))
      (conducted : direct = (.returned reports, later.forget))
      (isSuite : later.IsSuite runner after) (same : after.reset = suite.reset)
      (elsewhere : ∀ other, ¬ region other → after.progress other = suite.progress other)
      (keeps : before.bench.world.Keeps later.bench.world)

end Rig

/-- A suite with other progress has the same groups. -/
theorem Suite.groupAt_of_reset_eq {first second : Suite} (same : first.reset = second.reset)
    (path : GroupPath) : first.groupAt path = second.groupAt path := by
  rw [← Suite.groupAt_reset first, same, Suite.groupAt_reset]

namespace Entry

/-- The entry is found at a place of the suite, if it is a group. -/
def IsAt (suite : Suite) (here : GroupPath) : Entry → Prop
  | .case .. => True
  | .group name hooks entries =>
      ∀ rest, suite.groupAt (here ++ rest) = groupAt name hooks entries rest

theorem IsAt.of_reset_eq {first second : Suite} {here : GroupPath} {entry : Entry}
    (isAt : entry.IsAt first here) (same : second.reset = first.reset) :
    entry.IsAt second here := by
  cases entry with
  | case => trivial
  | group name hooks entries =>
      intro rest
      rw [Suite.groupAt_of_reset_eq same, isAt]

theorem IsAt.child {suite : Suite} {here : GroupPath} {name : String} {hooks : List Body}
    {entries : List Entry} (isAt : (Entry.group name hooks entries).IsAt suite here)
    {position : Nat} {entry : Entry} (found : entries[position]? = some entry) :
    entry.IsAt suite (here ++ [position]) := by
  cases entry with
  | case => trivial
  | group inner innerHooks innerEntries =>
      intro rest
      rw [List.append_assoc, List.singleton_append, isAt, groupAt, found]

open Rig

section Simulation

variable {forest : Array SpecTree} {runner : RunnerRef} {base : World}

/-- The groups of several entries of a group, and those inside them. -/
def Region (group : GroupPath) (next : Nat) (other : GroupPath) : Prop :=
  ∃ position, next ≤ position ∧ group ++ [position] <+: other

theorem Region.below {group other : GroupPath} {next : Nat} (inside : Region group next other) :
    group <+: other := by
  obtain ⟨position, _, below⟩ := inside
  exact (List.prefix_append group [position]).trans below

/-- A group is not among its own entries. -/
theorem Region.ne {group other : GroupPath} {next : Nat} (inside : Region group next other) :
    other ≠ group := by
  rintro rfl
  obtain ⟨position, _, below⟩ := inside
  exact not_concat_prefix _ position below

/-- Different entries have different groups in them. -/
theorem position_eq_of_prefix {group other : GroupPath} {one another : Nat}
    (first : group ++ [one] <+: other) (second : group ++ [another] <+: other) : one = another := by
  have sized : (group ++ [one]).length = (group ++ [another]).length := by simp
  have same := List.prefix_of_prefix_length_le first second (Nat.le_of_eq sized)
  exact List.singleton_inj.mp (List.append_cancel_left (same.eq_of_length sized))

/-- No group around a group is one of its entries. -/
theorem not_prefix_of_mem_lineage {path group : GroupPath} (around : path ∈ GroupPath.lineage group)
    (index : Nat) : ¬ group ++ [index] <+: path :=
  fun below => not_concat_prefix group index
    (below.trans (GroupPath.prefix_of_mem_lineage around))

/-- What was in the way in a group still is, if nothing has changed for the groups around it. -/
theorem faces_of_eq {world later : World} {progress other : GroupPath → Preparation}
    {group : GroupPath} {obstacle : Option ErrorRef}
    (faces : Faces world progress group obstacle) (keeps : world.Keeps later)
    (same : ∀ path ∈ GroupPath.lineage group, other path = progress path) :
    Faces later other group obstacle := by
  cases obstacle with
  | none =>
      intro path around
      rw [same path around]
      exact faces path around
  | some error =>
      obtain ⟨caught, before, here, after, lineage, done, failed⟩ := faces
      refine ⟨keeps error caught, before, here, after, lineage, ?_, ?_⟩
      · intro path early
        rw [same path (lineage ▸ List.mem_append_left _ early)]
        exact done path early
      · rw [same here (lineage ▸ List.mem_append_right _ List.mem_cons_self)]
        exact failed

/-- An error that is in the way in a group is in the way in the groups inside it. -/
theorem faces_child {world : World} {progress : GroupPath → Preparation} {group : GroupPath}
    {error : ErrorRef} (faces : Faces world progress group (some error)) (index : Nat) :
    Faces world progress (group ++ [index]) (some error) := by
  obtain ⟨caught, before, here, after, lineage, done, failed⟩ := faces
  refine ⟨caught, before, here, after ++ [group ++ [index]], ?_, done, failed⟩
  rw [GroupPath.lineage_append, lineage, List.append_assoc, List.cons_append]

variable (forest runner base) in
/-- The entries of a group are run in the same way by the suite and directly, whatever is in the
way in the group. -/
def ConductsInside (here : GroupPath) (path : List String) (name : String) (hooks : List Body)
    (entries : List Entry) : Prop :=
  ∀ (obstacle : Option ErrorRef) (suite : Suite) (rig : Rig Runner),
    (Entry.group name hooks entries).IsAt suite here → rig.IsSuite runner suite →
    Faces rig.bench.world suite.progress here obstacle →
    (obstacle = none → ∀ other, Region here 0 other → suite.progress other = .pending) →
    base.Keeps rig.bench.world →
    Conducted runner suite (Region here 0) rig
      (Effect.collect (reportPick forest runner) (picksAll here 0 path entries) rig)
      (conductAll forest path obstacle entries rig.forget)

section Groups

variable {suite : Suite} {here : GroupPath} {name : String} {hooks : List Body}
  {entries : List Entry} {path : List String} {rig : Rig Runner}

/-- A group without cases is passed over on both sides. -/
theorem conducted_of_not_anyHasCase (empty : anyHasCase entries = false)
    (obstacle : Option ErrorRef) (isSuite : rig.IsSuite runner suite) :
    Conducted runner suite (here <+: ·) rig
      (Effect.collect (reportPick forest runner) (picksAll here 0 (withName path name) entries) rig)
      (conduct forest path obstacle (.group name hooks entries) rig.forget) := by
  rw [(picksAll_eq_nil_iff here 0 (withName path name) entries).mpr empty, conduct,
    if_neg (by simp [empty])]
  exact .intro rfl rfl isSuite rfl (fun _ _ => rfl) (.refl _)

/-- Where the entries of a group are run in the same way by the suite and directly, the group
is, if nothing is in the way: its hooks run before the first of its cases. -/
theorem conducted_group (around : List GroupPath) (path : List String)
    (lineage : GroupPath.lineage here = around ++ [here])
    (apart : ∀ path ∈ around, path ≠ here)
    (inside : ConductsInside forest runner base here (withName path name) name hooks entries)
    (tame : ∀ hook ∈ hooks, hook.IsTame forest base)
    (isAt : (Entry.group name hooks entries).IsAt suite here)
    (isSuite : rig.IsSuite runner suite) (done : ∀ path ∈ around, suite.progress path = .done)
    (untouched : ∀ other, here <+: other → suite.progress other = .pending)
    (kept : base.Keeps rig.bench.world) :
    Conducted runner suite (here <+: ·) rig
      (Effect.collect (reportPick forest runner) (picksAll here 0 (withName path name) entries) rig)
      (conduct forest path none (.group name hooks entries) rig.forget) := by
  cases cases : anyHasCase entries with
  | false => exact conducted_of_not_anyHasCase cases none isSuite
  | true =>
      have known : suite.groupAt here = (name, hooks) := by
        have found := isAt []
        rwa [List.append_nil] at found
      obtain ⟨met, later, conductedHooks, prepared, still, keeps, caught⟩ :=
        prepare_of_pending isSuite (untouched here List.prefix_rfl) known tame kept
      have elsewhere : ∀ other, other ≠ here →
          (suite.setProgress here (.ofObstacle met)).progress other = suite.progress other :=
        fun other differs => if_neg differs
      have doneStill : ∀ path ∈ around,
          (suite.setProgress here (.ofObstacle met)).progress path = .done :=
        fun path member => (elsewhere path (apart path member)).trans (done path member)
      have settled := suite.setProgress_progress_self here (.ofObstacle met)
      have some : picksAll here 0 (withName path name) entries ≠ [] := by
        rw [Ne, picksAll_eq_nil_iff, cases]
        exact Bool.noConfusion
      have moved := collect_of_prepared some (below_of_mem_picksAll here 0 _ entries) isSuite done
        lineage prepared still doneStill settled
      obtain ⟨run, conducted, lastSuite, same, outside, keepsOn⟩ :=
        inside met (suite.setProgress here (.ofObstacle met)) later isAt still
          (faces_of_settled lineage doneStill settled caught)
          (fun _ other member => (elsewhere other member.ne).trans (untouched other member.below))
          (kept.trans keeps)
      refine .intro (moved.trans run) ?_ lastSuite same ?_ (keeps.trans keepsOn)
      · rw [conduct, if_pos cases]
        show (conductHooks forest name hooks >>= fun met =>
          conductAll forest (withName path name) met entries) rig.forget = _
        rw [Effect.bind_apply, conductedHooks]
        exact conducted
      · intro other apartFrom
        rw [outside other fun member => apartFrom member.below]
        apply elsewhere
        rintro rfl
        exact apartFrom List.prefix_rfl

end Groups

mutual

theorem conducted (group : GroupPath) (index : Nat) (path : List String) :
    ∀ (entry : Entry) (obstacle : Option ErrorRef) (suite : Suite) (rig : Rig Runner),
      entry.EachBody (Body.IsTame forest base) → entry.IsAt suite (group ++ [index]) →
      rig.IsSuite runner suite → Faces rig.bench.world suite.progress group obstacle →
      (obstacle = none → ∀ other, group ++ [index] <+: other → suite.progress other = .pending) →
      base.Keeps rig.bench.world →
      Conducted runner suite (group ++ [index] <+: ·) rig
        (Effect.collect (reportPick forest runner) (entry.picks group index path) rig)
        (entry.conduct forest path obstacle rig.forget)
  | .case name body, obstacle, suite, rig, tame, isAt, isSuite, faces, untouched, kept => by
      obtain ⟨report, later, run, conducted, runners, keeps⟩ :=
        reportPick_of_faces ⟨group, path ++ [name], body⟩ isSuite faces tame kept
      have still : later.IsSuite runner suite := by
        rw [IsSuite, runners]
        exact isSuite
      have collected : Effect.collect (reportPick forest runner)
          ((Entry.case name body).picks group index path) rig = (.returned [report], later) := by
        rw [picks, Effect.collect_cons, Effect.bind_apply, run]
        rfl
      refine .intro collected ?_ still rfl (fun _ _ => rfl) keeps
      rw [conduct, Effect.bind_apply, conducted]
      rfl
  | .group name hooks entries, obstacle, suite, rig, tame, isAt, isSuite, faces, untouched,
      kept => by
      have inside : ConductsInside forest runner base (group ++ [index]) (withName path name) name
          hooks entries := by
        intro obstacle suite rig isAt
        refine conductedAll (group ++ [index]) 0 (withName path name) entries obstacle suite rig
          tame.2 fun position entry found => ?_
        rw [Nat.zero_add]
        exact isAt.child found
      cases obstacle with
      | none =>
          refine conducted_group (GroupPath.lineage group) path
            (GroupPath.lineage_append group index) ?_ inside tame.1 isAt isSuite faces
            (untouched rfl) kept
          rintro path around rfl
          exact not_prefix_of_mem_lineage around index List.prefix_rfl
      | some error =>
          cases cases : anyHasCase entries with
          | false => exact conducted_of_not_anyHasCase cases (some error) isSuite
          | true =>
              obtain ⟨run, conducted, lastSuite, same, outside, keeps⟩ :=
                inside (some error) suite rig isAt isSuite (faces_child faces index)
                  (fun none => nomatch none) kept
              refine .intro run ?_ lastSuite same
                (fun other apart => outside other fun member => apart member.below) keeps
              rw [conduct, if_pos cases]
              exact conducted

theorem conductedAll (group : GroupPath) (next : Nat) (path : List String) :
    ∀ (entries : List Entry) (obstacle : Option ErrorRef) (suite : Suite) (rig : Rig Runner),
      EachBodyIn (Body.IsTame forest base) entries →
      (∀ (position : Nat) (entry : Entry), entries[position]? = some entry →
        entry.IsAt suite (group ++ [next + position])) →
      rig.IsSuite runner suite → Faces rig.bench.world suite.progress group obstacle →
      (obstacle = none → ∀ other, Region group next other → suite.progress other = .pending) →
      base.Keeps rig.bench.world →
      Conducted runner suite (Region group next) rig
        (Effect.collect (reportPick forest runner) (picksAll group next path entries) rig)
        (conductAll forest path obstacle entries rig.forget)
  | [], obstacle, suite, rig, tame, isAt, isSuite, faces, untouched, kept => by
      rw [picksAll, conductAll]
      exact .intro rfl rfl isSuite rfl (fun _ _ => rfl) (.refl _)
  | entry :: entries, obstacle, suite, rig, tame, isAt, isSuite, faces, untouched, kept => by
      have here : entry.IsAt suite (group ++ [next]) := isAt 0 entry rfl
      obtain @⟨reports, later, after, run, conducted, laterSuite, same, elsewhere, keeps⟩ :=
        conducted group next path entry obstacle suite rig tame.1 here isSuite faces
          (fun free other below => untouched free other ⟨next, Nat.le_refl next, below⟩) kept
      have further : ∀ (position : Nat) (other : Entry), entries[position]? = some other →
          other.IsAt after (group ++ [next + 1 + position]) := by
        intro position other found
        have found : (entry :: entries)[position + 1]? = some other := found
        have place := (isAt (position + 1) other found).of_reset_eq same
        rwa [Nat.add_assoc, Nat.add_comm 1 position]
      obtain @⟨more, last, _, runOn, conductedOn, lastSuite, sameStill, elsewhereStill, keepsOn⟩ :=
        conductedAll group (next + 1) path entries obstacle after later tame.2 further laterSuite
          (faces_of_eq faces keeps fun other around =>
            elsewhere other (not_prefix_of_mem_lineage around next))
          (fun free other member => by
            obtain ⟨position, behind, below⟩ := member
            rw [elsewhere other fun before => by
              have := position_eq_of_prefix before below
              omega]
            exact untouched free other ⟨position, by omega, below⟩)
          (kept.trans keeps)
      have runAll : Effect.collect (reportPick forest runner)
          (picksAll group next path (entry :: entries)) rig =
            (.returned (reports ++ more), last) := by
        rw [picksAll, Effect.collect_append, Effect.bind_apply, run]
        simp only [Effect.bind_apply, runOn]
        rfl
      refine .intro runAll ?_ lastSuite (sameStill.trans same) ?_ (keeps.trans keepsOn)
      · rw [conductAll, Effect.bind_apply, conducted]
        simp only [Effect.bind_apply, conductedOn]
        rfl
      · intro other apart
        rw [elsewhereStill other fun member => apart ?_, elsewhere other fun below => apart ?_]
        · exact ⟨next, Nat.le_refl next, below⟩
        · obtain ⟨position, behind, below⟩ := member
          exact ⟨position, by omega, below⟩

end

end Simulation

end Entry

namespace Rig

variable {forest : Array SpecTree} {runner : RunnerRef} {suite : Suite} {rig : Rig Runner}

theorem reportPick_path {pick : Pick} {report : CaseReport} {later : Rig Runner}
    (ended : reportPick forest runner pick rig = (.returned report, later)) :
    report.path = pick.path := by
  obtain ⟨outcome, middle, _, reported⟩ := Effect.bind_eq_returned_iff.mp ended
  cases outcome with
  | returned value =>
      cases reported
      rfl
  | raised error =>
      obtain ⟨_, _, _, told⟩ := Effect.bind_eq_returned_iff.mp reported
      cases told
      rfl

/-- Every case is reported once, in order. -/
theorem paths_of_collect_reportPick {picks : List Pick} {reports : List CaseReport}
    {later : Rig Runner}
    (ended : Effect.collect (reportPick forest runner) picks rig = (.returned reports, later)) :
    reports.map CaseReport.path = picks.map Pick.path := by
  induction picks generalizing rig reports with
  | nil =>
      cases ended
      rfl
  | cons pick picks ih =>
      obtain ⟨report, middle, first, further⟩ := Effect.bind_eq_returned_iff.mp ended
      obtain ⟨more, last, collected, same⟩ := Effect.bind_eq_returned_iff.mp further
      cases same
      rw [List.map_cons, List.map_cons, reportPick_path first, ih collected]

/-- Behind the last entry of the outermost group nothing is left to run. -/
theorem runFrom_length (isSuite : rig.IsSuite runner suite) (generations : Nat) :
    runFrom forest runner generations suite.root.entries.length rig = (.returned [], rig) := by
  have none : suite.picksFrom suite.root.entries.length = [] := by
    rw [Suite.picksFrom, List.drop_length, Entry.picksAll]
  have further : runFurther forest runner suite.root.entries.length rig =
      (.returned (suite.root.entries.length, []), rig) := by
    rw [runFurther, Effect.bind_apply, readSuite_of_isSuite isSuite]
    simp only [id, none]
    rfl
  cases generations with
  | zero => rw [runFrom, Effect.bind_apply, further]; rfl
  | succ generations =>
      rw [runFrom, Effect.bind_apply, further]
      simp

/-- The cases of a suite are run once, whatever more could have been registered. -/
theorem runSuite_of_collect {reports : List CaseReport} {later : Rig Runner} {after : Suite}
    (isSuite : rig.IsSuite runner suite)
    (ended : Effect.collect (reportPick forest runner) suite.picks
      (rig.withSuite runner suite.reset) = (.returned reports, later))
    (still : later.IsSuite runner after) (same : after.reset = suite.reset) :
    runSuite forest runner rig = (.returned reports, later) := by
  have length : after.root.entries.length = suite.root.entries.length := by
    rw [← Suite.root_reset after, same, Suite.root_reset]
  have reset := isSuite.withSuite suite.reset
  have further : runFurther forest runner 0 (rig.withSuite runner suite.reset) =
      (.returned (suite.root.entries.length, reports), later) := by
    have picked : suite.reset.picksFrom 0 = suite.picks := rfl
    rw [runFurther, Effect.bind_apply, readSuite_of_isSuite reset]
    simp only [id, picked, Effect.bind_apply, ended]
    rfl
  rw [runSuite, Effect.bind_apply, changeSuite_of_isSuite isSuite]
  simp only [Effect.bind_apply, readSuite_of_isSuite reset, id]
  rw [Suite.generations, runFrom, Effect.bind_apply, further]
  simp only
  split
  · rfl
  · rw [Effect.bind_apply, ← length, runFrom_length still]
    simp

/-- The cases of a suite of tame bodies are run in the same way as the suite is conducted
directly. -/
theorem conducted_suite {base : World} (isSuite : rig.IsSuite runner suite)
    (tame : suite.root.close.EachBody (Body.IsTame forest base))
    (kept : base.Keeps rig.bench.world) :
    Conducted runner suite.reset (fun _ => True) rig
      (Effect.collect (reportPick forest runner) suite.picks (rig.withSuite runner suite.reset))
      (suite.root.close.conduct forest [] none rig.forget) := by
  have isAt : suite.root.close.IsAt suite.reset [] := fun rest => rfl
  obtain ⟨run, conducted, still, same, _, keeps⟩ :=
    Entry.conducted_group [] [] rfl (fun _ member => nomatch member)
      (fun obstacle suite rig isAt => Entry.conductedAll [] 0 _ _ obstacle suite rig tame.2
        fun position entry found => by
          rw [Nat.zero_add]
          exact isAt.child found)
      tame.1 isAt (isSuite.withSuite suite.reset) (fun _ member => nomatch member)
      (fun _ _ => rfl) kept
  rw [forget_withSuite isSuite suite.reset_reset] at conducted
  exact .intro run conducted still same (fun _ apart => absurd trivial apart) keeps

variable (forest runner) in
/-- The rig after so many runs of a suite. -/
def afterRuns (rig : Rig Runner) : Nat → Rig Runner
  | 0 => rig
  | count + 1 => (runSuite forest runner (afterRuns rig count)).2

/-- A suite of tame bodies has the same groups after any number of runs, and the errors that
were there are still there. -/
theorem isSuite_afterRuns (isSuite : rig.IsSuite runner suite)
    (tame : suite.root.close.EachBody (Body.IsTame forest rig.bench.world)) (count : Nat) :
    ∃ now : Suite, (afterRuns forest runner rig count).IsSuite runner now ∧
      now.root = suite.root ∧
      rig.bench.world.Keeps (afterRuns forest runner rig count).bench.world := by
  induction count with
  | zero => exact ⟨suite, isSuite, rfl, .refl _⟩
  | succ count ih =>
      obtain ⟨now, present, root, kept⟩ := ih
      rw [← root] at tame
      obtain @⟨reports, later, after, run, _, still, same, _, keeps⟩ :=
        conducted_suite present tame kept
      rw [afterRuns, runSuite_of_collect present run still same]
      refine ⟨after, still, ?_, kept.trans keeps⟩
      rw [← root, ← Suite.root_reset after, same, Suite.root_reset, Suite.root_reset]

/-- **Runs are direct.** Let a suite be made of hooks and bodies that register nothing and raise
only ordinary errors. Then its first run and every later one reports each case once, in order of
registration, and ends with the reports and in the state of the direct recursion: a group with
cases runs its hooks when it is entered, and an error of a hook stands for every case in the
group. Handing out the cases gives the same cases in the same order, and runs nothing. -/
theorem runSuite_eq_conduct (isSuite : rig.IsSuite runner suite)
    (tame : suite.root.close.EachBody (Body.IsTame forest rig.bench.world)) (count : Nat) :
    let start := afterRuns forest runner rig count
    ∃ reports later unprepared,
      runSuite forest runner start = (.returned reports, later) ∧
        suite.root.close.conduct forest [] none start.forget = (.returned reports, later.forget) ∧
        reports.map CaseReport.path = suite.picks.map Pick.path ∧
        takePicks runner start = (.returned suite.picks, unprepared) ∧
        unprepared.forget = start.forget := by
  intro start
  obtain ⟨now, present, root, kept⟩ := isSuite_afterRuns isSuite tame count
  have picks : now.picks = suite.picks := by
    rw [Suite.picks, Suite.picksFrom, root]
    rfl
  rw [← root] at tame ⊢
  obtain @⟨reports, later, after, run, conducted, still, same, _, _⟩ :=
    conducted_suite present tame kept
  have handed := takePicks_of_isSuite present
  rw [picks] at handed
  have paths := paths_of_collect_reportPick run
  rw [picks] at paths
  exact ⟨reports, later, _, runSuite_of_collect present run still same, conducted, paths, handed,
    forget_withSuite present now.reset_reset⟩

/-- A group whose hook fails after it was prepared once, with a nameless group in it, an empty
group, and a case behind them. -/
def mixedSuite : Suite :=
  (Suite.empty "").addEntries
    [.group "ground" [idleCase, failingHook "ValueError", idleCase]
        [.case "first" idleCase, .group "" [idleCase] [.case "inner" idleCase]],
      .group "empty" [failingHook "ValueError"] [],
      .case "last" idleCase]

/-- The rig with such a suite. -/
def mixedRig : Rig Runner := { runners := #[.suite mixedSuite] }

theorem isTame_idleCase (forest : Array SpecTree) (base : World) : idleCase.IsTame forest base where
  registersNothing _ _ := rfl
  raisesCaught _ _ _ raised := nomatch raised
  keepsErrors rig _ := .refl rig.bench.world

theorem isTame_failingHook (forest : Array SpecTree) (base : World) :
    (failingHook "ValueError").IsTame forest base where
  registersNothing _ _ := rfl
  raisesCaught rig error _ raised := by
    cases raised
    exact World.catches_newError (by decide) rig.bench.world
  keepsErrors rig _ := World.keeps_newError _ rig.bench.world

/-- The cases of the group fail with the error of its hook, a new one in every run, and the last
case passes. -/
theorem mixedSuite_eq_conduct :
    let reports (error : ErrorRef) : List CaseReport :=
      [⟨["ground", "first"], some error⟩, ⟨["ground", "inner"], some error⟩, ⟨["last"], none⟩]
    let again := afterRuns #[] ⟨0⟩ mixedRig 1
    (runSuite #[] ⟨0⟩ mixedRig).1 = .returned (reports ⟨0⟩) ∧
      (runSuite #[] ⟨0⟩ again).1 = .returned (reports ⟨1⟩) ∧
      ∃ later, mixedSuite.root.close.conduct #[] [] none again.forget =
        (.returned (reports ⟨1⟩), later) := by
  intro reports again
  have isSuite : mixedRig.IsSuite ⟨0⟩ mixedSuite := rfl
  have idle : idleCase.IsTame #[] mixedRig.bench.world := isTame_idleCase _ _
  have failing : (failingHook "ValueError").IsTame #[] mixedRig.bench.world :=
    isTame_failingHook _ _
  have tame : mixedSuite.root.close.EachBody (Body.IsTame #[] mixedRig.bench.world) := by
    simp [mixedSuite, Suite.root, Suite.rootOf, Suite.addEntries, Suite.empty, OpenGroup.close,
      Entry.EachBody, Entry.EachBodyIn, idle, failing]
  have first : (runSuite #[] ⟨0⟩ mixedRig).1 = .returned (reports ⟨0⟩) := by decide +kernel
  have second : (runSuite #[] ⟨0⟩ again).1 = .returned (reports ⟨1⟩) := by decide +kernel
  obtain ⟨found, later, _, run, conducted, _⟩ := runSuite_eq_conduct isSuite tame 1
  have same : found = reports ⟨1⟩ := by
    have ended : (runSuite #[] ⟨0⟩ again).1 = .returned found := congrArg Prod.fst run
    exact Outcome.returned.inj (ended.symm.trans second)
  subst same
  exact ⟨first, second, later.forget, conducted⟩

end Rig

end DeferredSpec
