/-
# How a case ends does not depend on the budget

A retry starts over from the root, past the results that groups have left and that the body of the
case has at hand. In a tree whose steps are functions it comes to the same all the same: what a
step was handed is what the nodes above come to one after another from nothing, and a run from
the root ends as the step did. So retries change nothing about a case but the number of calls to
the delay: the whole budget is spent on a step that misses what was expected, and nothing at all
where no step does.
-/

import DeferredSpec.Proofs.Independence

namespace DeferredSpec

/-- What ends like the same step ends alike. -/
theorem EndsAlike.across {base : World} {reference one other : Outcome Value × World}
    (ends : EndsAlike base reference one) (also : EndsAlike base reference other) :
    EndsAlike base one other := by
  cases ends with
  | returned alike =>
      cases also with
      | returned same => exact .returned (Alike.across alike same)
  | raised alike _ =>
      cases also with
      | raised same ordinary => exact .raised (Alike.across alike same) ordinary

namespace SpecTree

variable {tree : SpecTree} {base : World} {address : Address} {found : ActionTree}

/-- What the nodes above an address come to is the same wherever it is tried. -/
theorem IsFunctional.above (functional : tree.IsFunctional base)
    (located : tree.root.subtree? address = some found) {world : World}
    (grown : base.Grows world) :
    EndsAlike base (tree.above address base) (tree.above address world) := by
  rcases List.eq_nil_or_concat address with rfl | ⟨parent, index, rfl⟩
  · exact .returned (.null base base world)
  · rw [List.concat_eq_append] at located ⊢
    obtain ⟨around, before, there⟩ := ActionTree.exists_parent located
    rw [above_concat before there]
    exact (functional.reach before grown).2.2

/-- An execution of a node is what running from the root comes to, wherever that is tried: the
node was given what the nodes above come to one after another from nothing, and it ended as a run
of the whole way ends. `later` is the world in which the execution is looked at. -/
structure Recomputes (tree : SpecTree) (base later : World) (address : Address)
    (previous : Value) (outcome : Outcome Value) : Prop where
  above : ∀ world, base.Grows world →
    EndsAlike base (tree.above address world) (.returned previous, later)
  rerun : ∀ bench, base.Grows bench.world →
    EndsAlike base (outcome, later) (worldOf (tree.rerun address bench))

end SpecTree

/-- Executions that retrace their way are what running from the root comes to. -/
theorem Happening.Retraces.recomputes {base later : World} {tree : SpecTree}
    {engine : RetryEngine} (steady : Steady base tree engine) {address : Address}
    {previous : Value} {outcome : Outcome Value}
    (retraces : (Happening.executed address previous outcome).Retraces base tree later) :
    tree.Recomputes base later address previous outcome := by
  cases retraces with
  | executed located before ends =>
      refine ⟨fun world grown => ?_, fun bench grown => ?_⟩
      · exact (steady.functional.above located grown).across before
      · obtain ⟨_, again⟩ := RetryEngine.executeAlong_alike steady located bench grown
        rw [SpecTree.rerun, SpecTree.trail_of_losses_eq_nil steady.complete]
        exact ends.across again

/-- Two invocations have ended the same, each in its own world: both have returned, or both have
raised the same failure. -/
inductive SameEnding (base : World) : Outcome Unit × Rig Runner → Outcome Unit × Rig Runner → Prop
  | returned {first second : Rig Runner} :
      SameEnding base (.returned (), first) (.returned (), second)
  | raised {first second : Rig Runner} {error another : ErrorRef}
      (same : SameFailure base first.bench.world error second.bench.world another) :
      SameEnding base (.raised error, first) (.raised another, second)

/-- What meets the same verdict ends the same. -/
theorem sameEnding_of_met {base : World} {verdict : Verdict}
    {ended other : Outcome Unit × Rig Runner}
    (met : verdict.Met base ended.1 ended.2.bench.world)
    (also : verdict.Met base other.1 other.2.bench.world) : SameEnding base ended other := by
  obtain ⟨outcome, first⟩ := ended
  obtain ⟨ending, second⟩ := other
  cases met with
  | pass _ =>
      cases also with
      | pass _ => exact .returned
  | fail alike _ =>
      cases also with
      | fail same _ => exact .raised (Alike.across alike same).sameFailure

/-- The rigs that come about while the cases of a suite are invoked: they are handed out once the
suite was filled, and then invoked in any order and any number of times. In between anything may
happen that changes nothing that is there. -/
inductive Rig.InUse (forest : Array SpecTree) (runner : RunnerRef) (filled : Rig Runner) :
    Rig Runner → Prop
  | begun {rig : Rig Runner} (reached : Reached forest runner filled rig)
      (grown : filled.bench.world.Grows rig.bench.world) :
      InUse forest runner filled (Rig.takePicks runner rig).2
  | invoked {rig : Rig Runner} {pick : Pick} (inUse : InUse forest runner filled rig)
      (handed : pick ∈ (rig.suiteOf runner).picks) :
      InUse forest runner filled (Rig.runPick forest runner pick rig).2
  | meanwhile {rig : Rig Runner} {bench : Bench} (inUse : InUse forest runner filled rig)
      (grown : rig.bench.world.Grows bench.world) :
      InUse forest runner filled { rig with bench }

/-- A run of the suite invokes its cases and writes to the log in between. -/
theorem Rig.InUse.reported {forest : Array SpecTree} {runner : RunnerRef}
    {filled rig : Rig Runner} {pick : Pick} (inUse : InUse forest runner filled rig)
    (handed : pick ∈ (rig.suiteOf runner).picks) :
    InUse forest runner filled (Rig.reportPick forest runner pick rig).2 := by
  have invoked := inUse.invoked handed
  rw [reportPick, Effect.bind_apply, capture_apply]
  revert invoked
  rcases runPick forest runner pick rig with ⟨outcome, later⟩
  intro invoked
  cases outcome with
  | returned _ => exact invoked
  | raised error =>
      cases ordinary : later.bench.world.isOrdinary error with
      | false =>
          simp only [ordinary]
          exact invoked
      | true =>
          simp only [ordinary, if_true, Effect.bind_apply, act_apply]
          exact invoked.meanwhile (World.Grows.logComposed debugLevel suiteLogger
            (caseFailure pick.path error) later.bench.world)

namespace Pick

/-- Two picks are the same case: they stand for the same node under the same title. -/
structure SameCase (pick another : Pick) : Prop where
  path : pick.path = another.path
  node : pick.body.node? = another.body.node?

/-- The case of a node is invoked at `first` with a budget, and at `second`, as it is handed out
there, with whatever budget. Both end the same, and all executions for the first one are what
running from the root comes to. Among them are the first attempts at the steps, against what the
runs of these steps were handed. -/
structure Repeats (forest : Array SpecTree) (runner : RunnerRef) (whole : SpecTree) (node : NodeRef)
    (base : World) (budget : Nat) (first second : Rig Runner) (pick another : Pick) : Prop where
  same : pick.SameCase another
  stands : pick.body.node? = some node
  case : ∃ found, whole.root.subtree? node.address = some found ∧
    ActionTree.areChains found.children
  ending : SameEnding base (Rig.runPick forest runner pick first)
    (Rig.runPick forest runner another second)
  course : let run := Rig.runPick forest runner pick first
    ∃ added, Course base whole budget node.address first.bench added (run.1, run.2.bench) ∧
      ∀ address previous outcome, .executed address previous outcome ∈ added →
        whole.Recomputes base run.2.bench.world address previous outcome

end Pick

namespace Realizer

/-- The realizer with another budget. -/
def withBudget (realizer : Realizer) (budget : Nat) : Realizer :=
  { realizer with engine := { realizer.engine with maxRetries := budget } }

variable (one other : Realizer) (whole : SpecTree) (index : Nat) (world : World)

mutual

/-- Whatever realizes a tree, its cases are the same. -/
theorem forall₂_picks :
    ∀ (found : ActionTree) (address : Address) (group : GroupPath) (position : Nat)
      (path : List String) (source : Source) (cell : Nat),
      List.Forall₂ Pick.SameCase
        (Entry.picks group position path (one.entryOf whole index world address source cell found))
        (Entry.picks group position path
          (other.entryOf whole index world address source cell found))
  | .node here children, address, group, position, path, source, cell => by
      cases shape : here.variant with
      | group =>
          simp only [entryOf, shape, Entry.picks]
          exact forall₂_picksAll children address 0 _ _ _ _
      | leafCase =>
          simp only [entryOf, shape, Entry.picks]
          exact .cons ⟨rfl, rfl⟩ .nil
      | chainStep =>
          simp only [entryOf, shape, Entry.picks]
          exact .cons ⟨rfl, rfl⟩ .nil

/-- So are those of several trees. -/
theorem forall₂_picksAll :
    ∀ (children : List ActionTree) (parent : Address) (next : Nat) (group : GroupPath)
      (path : List String) (source : Source) (cell : Nat),
      List.Forall₂ Pick.SameCase
        (Entry.picksAll group next path
          (one.entriesOf whole index world parent next source cell children))
        (Entry.picksAll group next path
          (other.entriesOf whole index world parent next source cell children))
  | [], parent, next, group, path, source, cell => by
      simp only [entriesOf, Entry.picksAll]
      exact .nil
  | child :: children, parent, next, group, path, source, cell => by
      simp only [entriesOf, Entry.picksAll]
      exact List.rel_append (forall₂_picks child _ _ _ _ _ _)
        (forall₂_picksAll children parent (next + 1) group path source _)

end

end Realizer

namespace Staging

variable {staging : Staging} {base : World} {realized rig first second : Rig Runner}
  {few many : Nat}

/-- While the groups are in order, the cases of the suite are those of the tree. -/
theorem InOrder.suiteOf (order : staging.InOrder base rig) :
    ∃ progress, rig.suiteOf staging.runner = staging.suite progress := by
  obtain ⟨tour, mirrors, _⟩ := order
  obtain ⟨progress, isSuite⟩ := mirrors.stands.isSuite
  exact ⟨progress, Rig.suiteOf_of_isSuite isSuite⟩

/-- The groups are in order while cases are invoked. -/
theorem inOrder_of_inUse (steady : Steady base staging.whole staging.realizer.engine)
    (stands : staging.Stands realized) (grown : base.Grows realized.bench.world)
    (inUse : Rig.InUse staging.forest staging.runner realized rig) :
    staging.InOrder base rig := by
  induction inUse with
  | begun reached grows =>
      have standing := stands_of_reached stands reached
      obtain ⟨progress, isSuite⟩ := standing.isSuite
      rw [Rig.takePicks_of_isSuite isSuite]
      exact inOrder_reset standing (grown.trans grows)
  | invoked _ listed ih =>
      obtain ⟨progress, same⟩ := ih.suiteOf
      rw [same] at listed
      obtain ⟨_, _, _, _, _, _, runs⟩ := (handed_of_mem_suite progress listed).runs steady
      exact (runs _ ih).order
  | meanwhile _ grows ih => exact ih.grow grows

/-- All executions for a case are what running from the root comes to. -/
theorem Runs.recomputes {address : Address} {children : List ActionTree}
    {ended : Outcome Unit × Rig Runner} (runs : staging.Runs base address children rig ended)
    (steady : Steady base staging.whole staging.realizer.engine) :
    ∃ added, Course base staging.whole staging.realizer.engine.maxRetries address rig.bench added
        (ended.1, ended.2.bench) ∧
      ∀ node previous outcome, .executed node previous outcome ∈ added →
        staging.whole.Recomputes base ended.2.bench.world node previous outcome := by
  obtain ⟨added, course⟩ := runs.course
  exact ⟨added, course, fun _ _ _ member => (course.retraces _ member).recomputes steady⟩

/-- The tree, realized with another budget. -/
def withBudget (staging : Staging) (budget : Nat) : Staging :=
  { staging with realizer := staging.realizer.withBudget budget }

theorem steady_withBudget (steady : Steady base staging.whole staging.realizer.engine)
    (budget : Nat) : Steady base staging.whole (staging.withBudget budget).realizer.engine :=
  ⟨steady.complete, steady.unheard, steady.functional, steady.once, steady.harmless⟩

/-- The suites that are made with two budgets have the same cases. -/
theorem forall₂_sameCase (staging : Staging) (few many : Nat)
    (progress further : GroupPath → Preparation) :
    List.Forall₂ Pick.SameCase ((staging.withBudget few).suite progress).picks
      ((staging.withBudget many).suite further).picks := by
  rw [Suite.picks, Suite.picks, picksFrom_zero, picksFrom_zero]
  exact Realizer.forall₂_picks _ _ staging.whole staging.index staging.world staging.whole.root
    [] [] 0 _ .nothing staging.base

variable (steady : Steady base staging.whole staging.realizer.engine)
  (here : (staging.withBudget few).InOrder base first)
  (there : (staging.withBudget many).InOrder base second)

include steady here there

/-- A case that was handed out repeats itself with another budget. -/
theorem Handed.repeats {pick another : Pick} (handed : (staging.withBudget few).Handed pick)
    (also : (staging.withBudget many).Handed another) (same : pick.SameCase another) :
    ∃ address, pick.Repeats staging.forest staging.runner staging.whole ⟨staging.index, address⟩
      base few first second another := by
  obtain ⟨address, top, children, stands, located, chains, runs⟩ :=
    handed.runs (steady_withBudget steady few)
  obtain ⟨place, head, tail, posed, found, _, reruns⟩ :=
    also.runs (steady_withBudget steady many)
  have node := same.node
  rw [stands, posed] at node
  cases node
  cases Option.some.inj (located.symm.trans found)
  have run := runs first here
  have again := reruns second there
  exact ⟨address, same, stands, ⟨_, located, chains⟩, sameEnding_of_met run.met again.met,
    run.recomputes (steady_withBudget steady few)⟩

/-- So do all cases of the suite. -/
theorem forall₂_repeats :
    List.Forall₂ (fun pick another => ∃ address, pick.Repeats staging.forest staging.runner
        staging.whole ⟨staging.index, address⟩ base few first second another)
      (first.suiteOf staging.runner).picks (second.suiteOf staging.runner).picks := by
  obtain ⟨progress, known⟩ := here.suiteOf
  obtain ⟨further, twin⟩ := there.suiteOf
  have cases := forall₂_sameCase staging few many progress further
  rw [show first.suiteOf staging.runner = _ from known,
    show second.suiteOf staging.runner = _ from twin]
  rw [List.forall₂_iff_zip] at cases ⊢
  refine ⟨cases.1, fun listed => ?_⟩
  obtain ⟨one, two⟩ := List.of_mem_zip listed
  exact Handed.repeats steady here there (handed_of_mem_suite progress one)
    (handed_of_mem_suite further two) (cases.2 listed)

end Staging

namespace Realizer

variable {forest : Array SpecTree} {index : Nat} {whole : SpecTree} {realizer : Realizer}
  {name : String} {start realized other first second : Rig Runner} {few many : Nat}

/-- Realizing a tree changes nothing that is there. -/
theorem grows_of_realizeRoot (complete : whole.losses = [])
    (conventional : whole.root.isConventional)
    (fresh : start.IsSuite realizer.runner (Suite.empty name))
    (ended : realizer.realizeRoot whole index start = (.returned (), realized)) :
    start.bench.world.Grows realized.bench.world := by
  have outline := ActionTree.isOutline_of_isConventional _ conventional
  obtain ⟨records, same⟩ := (registered_realize start.bench.world complete whole.root [] .nothing _
    start realized outline fresh ⟨start.bench.world.records, rfl⟩ ended).1.bench
  rw [same]
  exact { World.Grows.refl start.bench.world with }

/-- Cases of functions do not depend on the budget. The tree is realized with two budgets, and its
cases are invoked at two rigs, in whatever order and how often this was done before. Each case ends
the same at both, and all that was executed for it is what running from the root comes to. The
delay is called as often as the budget allows if the case is eventual and a step of it misses what
was expected, and not at all if no step does. -/
theorem cases_end_alike_with_every_budget (placed : forest[index]? = some whole)
    (complete : whole.losses = []) (conventional : whole.root.isConventional)
    (unheard : whole.listeners = {}) (functional : whole.IsFunctional start.bench.world)
    (once : realizer.engine.delay.RunsOnce) (harmless : realizer.engine.delay.OnlyGrows)
    (fresh : start.IsSuite realizer.runner (Suite.empty name))
    (ended : (realizer.withBudget few).realizeRoot whole index start = (.returned (), realized))
    (also : (realizer.withBudget many).realizeRoot whole index start = (.returned (), other))
    (inUse : Rig.InUse forest realizer.runner realized first)
    (elsewhere : Rig.InUse forest realizer.runner other second) :
    let base := start.bench.world
    List.Forall₂ (fun pick another => ∃ address, pick.Repeats forest realizer.runner whole
        ⟨index, address⟩ base few first second another)
      (first.suiteOf realizer.runner).picks (second.suiteOf realizer.runner).picks := by
  intro base
  let staging : Staging :=
    { forest, index, whole, realizer, name, world := start.bench.world, base := start.cells.size,
      placed, complete, conventional }
  have steady : Steady base staging.whole staging.realizer.engine :=
    ⟨complete, unheard, functional, once, harmless⟩
  have order {budget : Nat} {filled rig : Rig Runner}
      (ended : (realizer.withBudget budget).realizeRoot whole index start = (.returned (), filled))
      (inUse : Rig.InUse forest realizer.runner filled rig) :
      (staging.withBudget budget).InOrder base rig := by
    have suite : start.IsSuite (realizer.withBudget budget).runner (Suite.empty name) := fresh
    have stands : (staging.withBudget budget).Stands filled :=
      Staging.stands_of_realizeRoot rfl rfl suite ended
    have grown := grows_of_realizeRoot complete conventional suite ended
    exact Staging.inOrder_of_inUse (Staging.steady_withBudget steady budget) stands grown inUse
  exact Staging.forall₂_repeats steady (order ended inUse) (order also elsewhere)

/-- A subject with an eventual case, of which the first step passes and the one below misses. -/
def eventualTree : SpecTree where
  root :=
    let step (act : Value → Action Value) : ActionNode :=
      { description := .text "step", variant := .chainStep, step := fun _ => act }
    let unmet : Value → Action Value := fun _ =>
      Action.raiseNew (.expectationFailed (.integer 6) (.integer 5) .null) []
    .node { description := .text "five", variant := .group, step := fun _ _ => pure (.integer 5) }
      [.node
        { description := .text shouldEventually, variant := .leafCase,
          step := fun _ previous => AssertionEngine.expectation previous }
        [.node (step pure) [.single (step unmet)]]]

/-- The steps of that tree are functions. -/
theorem eventualTree_isFunctional (base : World) : eventualTree.IsFunctional base := by
  let holds (node : ActionNode) : Prop := IsFunction base node.act
  have five : IsFunction base fun _ => (pure (.integer 5) : Action Value) :=
    .constant base (.integer 5)
  have unmet : IsFunction base fun _ =>
      (Action.raiseNew (.expectationFailed (.integer 6) (.integer 5) .null) [] : Action Value) :=
    .raiseNew base (.expectationFailed (.integer 6) (.integer 5) .null) .nil rfl
  refine ActionTree.forall_subtree? holds five fun child member => ?_
  cases List.mem_singleton.mp member
  refine ActionTree.forall_subtree? holds (AssertionEngine.isFunction_expectation base)
    fun child member => ?_
  cases List.mem_singleton.mp member
  refine ActionTree.forall_subtree? holds (.pure base) fun child member => ?_
  cases List.mem_singleton.mp member
  exact ActionTree.forall_subtree? holds unmet fun _ none => absurd none List.not_mem_nil

/-- The case of that tree is invoked with two retries, and again without any after it was run
once. -/
theorem eventualTree_ends_alike_with_every_budget :
    let realizer : Realizer := ⟨⟨0⟩, ⟨5, .immediate, false⟩⟩
    let start : Rig Runner := { runners := #[.suite (Suite.empty "")] }
    ∃ realized other,
      (realizer.withBudget 2).realizeRoot eventualTree 0 start = (.returned (), realized) ∧
      (realizer.withBudget 0).realizeRoot eventualTree 0 start = (.returned (), other) ∧
        let first := (Rig.takePicks realizer.runner realized).2
        let begun := (Rig.takePicks realizer.runner other).2
        (first.suiteOf realizer.runner).picks.map (fun pick =>
          (Rig.runPick #[eventualTree] realizer.runner pick first).2.bench.delays) = [2] ∧
        ∀ before ∈ (begun.suiteOf realizer.runner).picks,
          let second := (Rig.reportPick #[eventualTree] realizer.runner before begun).2
          List.Forall₂ (fun pick another => ∃ address,
              pick.Repeats #[eventualTree] realizer.runner eventualTree ⟨0, address⟩
                start.bench.world 2 first second another)
            (first.suiteOf realizer.runner).picks (second.suiteOf realizer.runner).picks := by
  intro realizer start
  have placed : #[eventualTree][0]? = some eventualTree := rfl
  have conventional : eventualTree.root.isConventional = true := rfl
  have fresh : start.IsSuite realizer.runner (Suite.empty "") := rfl
  have filled : ((realizer.withBudget 2).realizeRoot eventualTree 0 start).1 = .returned () := by
    decide +kernel
  have also : ((realizer.withBudget 0).realizeRoot eventualTree 0 start).1 = .returned () := by
    decide +kernel
  have spent : (((Rig.takePicks realizer.runner
      ((realizer.withBudget 2).realizeRoot eventualTree 0 start).2).2.suiteOf
        realizer.runner).picks.map fun pick =>
      (Rig.runPick #[eventualTree] realizer.runner pick (Rig.takePicks realizer.runner
        ((realizer.withBudget 2).realizeRoot eventualTree 0 start).2).2).2.bench.delays) = [2] := by
    decide +kernel
  rcases ended : (realizer.withBudget 2).realizeRoot eventualTree 0 start with ⟨_, realized⟩
  rcases twin : (realizer.withBudget 0).realizeRoot eventualTree 0 start with ⟨_, other⟩
  rw [ended] at filled spent
  rw [twin] at also
  cases filled
  cases also
  refine ⟨realized, other, rfl, rfl, spent, fun before listed => ?_⟩
  have inUse : Rig.InUse #[eventualTree] realizer.runner realized _ := .begun .filled (.refl _)
  have elsewhere : Rig.InUse #[eventualTree] realizer.runner other _ :=
    .begun .filled (.refl _)
  exact cases_end_alike_with_every_budget placed rfl conventional rfl
    (eventualTree_isFunctional start.bench.world) Delay.immediate_runsOnce
    Delay.immediate_onlyGrows fresh ended twin inUse (elsewhere.reported listed)

end Realizer

end DeferredSpec
