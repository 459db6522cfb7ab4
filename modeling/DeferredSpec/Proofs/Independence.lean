/-
# Cases do not depend on one another

The cases that a suite hands out share results that groups leave and failures that are
remembered, and both come about at different times when cases are invoked in another order, or
more than once, or not at all. In a tree whose steps are functions this makes no difference:
each invocation ends as a run of the suite reports of that case.
-/

import DeferredSpec.Proofs.Grounds
import DeferredSpec.Proofs.Likeness.Across
import DeferredSpec.Proofs.Likeness.Visits
import DeferredSpec.Proofs.Ways

namespace DeferredSpec

/-- Two errors are the same failure, each in its own world: they are alike, so they have the
same class and the same message, and fields that look the same. -/
structure SameFailure (base first : World) (error : ErrorRef) (second : World)
    (another : ErrorRef) : Prop where
  alike : Alike base first (.error error) second (.error another)
  className : (first.errorAt error).kind.className = (second.errorAt another).kind.className
  message : (first.view (.error error)).plain = (second.view (.error another)).plain
  fields :
    (first.errorAt error).kind.fields.map (fun field => (field.1, first.looks field.2)) =
      (second.errorAt another).kind.fields.map fun field => (field.1, second.looks field.2)

namespace Alike

/-- Values that are the same one by one but for names look the same one by one. -/
theorem map_looks {names : Renaming} {base first second : World}
    (relates : names.Relates base first second) {items others : List Value}
    (same : Value.MatchesAll names items others) :
    items.map first.looks = others.map second.looks := by
  induction items generalizing others with
  | nil =>
      cases same
      rfl
  | cons item items ih =>
      cases same with
      | cons head tail => exact congrArg₂ List.cons (World.looks_eq relates head) (ih tail)

/-- Errors that are alike are the same failure. -/
theorem sameFailure {base first second : World} {error another : ErrorRef}
    (alike : Alike base first (.error error) second (.error another)) :
    SameFailure base first error second another := by
  obtain ⟨names, relates, same⟩ := alike.errorAt
  obtain ⟨labels, held⟩ := same.kind.fields
  refine ⟨alike, same.kind.className, ?_, ?_⟩
  · have looks := alike.looks
    rw [World.looks, World.looks] at looks
    rw [← Snapshot.plain_nameless, looks, Snapshot.plain_nameless]
  · exact World.map_pair_eq (congrArg (List.map id) labels) (map_looks relates held)

end Alike

namespace CaseReport

/-- How the case ended that is reported. -/
def outcome (report : CaseReport) : Outcome Unit :=
  match report.error with
  | none => .returned ()
  | some error => .raised error

/-- An invocation has ended as a report says: it has returned if the case passed, and raised the
same failure otherwise. `reported` is the world in which the report is read. -/
def Describes (base reported : World) (report : CaseReport) (ended : Outcome Unit × Rig Runner) :
    Prop :=
  match report.error with
  | none => ended.1 = .returned ()
  | some error => ∃ raised, ended.1 = .raised raised ∧
      SameFailure base reported error ended.2.bench.world raised

/-- What meets the same verdict as a report is described by it. -/
theorem describes_of_met {base reported : World} {verdict : Verdict} {report : CaseReport}
    {ended : Outcome Unit × Rig Runner} (met : verdict.Met base report.outcome reported)
    (also : verdict.Met base ended.1 ended.2.bench.world) :
    report.Describes base reported ended := by
  obtain ⟨outcome, rig⟩ := ended
  obtain ⟨path, error⟩ := report
  cases error with
  | none =>
      cases met with
      | pass _ =>
          cases also with
          | pass _ => rfl
  | some error =>
      cases met with
      | fail alike _ =>
          cases also with
          | @fail _ _ _ raised same _ => exact ⟨raised, rfl, (Alike.across alike same).sameFailure⟩

end CaseReport

namespace Staging

variable {staging : Staging} {base : World} {rig : Rig Runner} {pick : Pick}

variable (staging base) in
/-- The groups of a rig have come as far as a sound tour tells. -/
def InOrder (rig : Rig Runner) : Prop :=
  ∃ tour, staging.Mirrors tour rig ∧ tour.IsSound base staging.whole

theorem InOrder.grow (order : staging.InOrder base rig) {bench : Bench}
    (grown : rig.bench.world.Grows bench.world) : staging.InOrder base { rig with bench } := by
  obtain ⟨tour, mirrors, sound⟩ := order
  refine ⟨{ tour with bench }, ⟨rfl, mirrors.roomy, mirrors.standing⟩, sound.grow ?_⟩
  rw [← mirrors.bench]
  exact grown

variable (staging base) in
/-- An effect on a rig meets a verdict whenever the rig is in order, and leaves it so. -/
def Meets (verdict : Verdict) (effect : Effect (Rig Runner) Unit) : Prop :=
  ∀ rig, staging.InOrder base rig →
    staging.InOrder base (effect rig).2 ∧ rig.bench.world.Grows (effect rig).2.bench.world ∧
      verdict.Met base (effect rig).1 (effect rig).2.bench.world

variable (staging base) in
/-- A case was run: it has met its verdict, on a course of its own, and has left the groups in
order. -/
structure Runs (address : Address) (children : List ActionTree) (rig : Rig Runner)
    (ended : Outcome Unit × Rig Runner) : Prop where
  order : staging.InOrder base ended.2
  met : (staging.whole.caseVerdict base address children).Met base ended.1 ended.2.bench.world
  course : ∃ added, Course base staging.whole staging.realizer.engine.maxRetries address rig.bench
    added (ended.1, ended.2.bench)

/-- A case that was handed out stands for a node of the tree, with chains below it, and is run
whatever was invoked before. -/
theorem Handed.runs (handed : staging.Handed pick)
    (steady : Steady base staging.whole staging.realizer.engine) :
    ∃ address here children, pick.body.node? = some ⟨staging.index, address⟩ ∧
      staging.whole.root.subtree? address = some (.node here children) ∧
        ActionTree.areChains children ∧ ∀ rig, staging.InOrder base rig →
          staging.Runs base address children rig
            (Rig.runPick staging.forest staging.runner pick rig) := by
  obtain @⟨_, _, _, _, address, here, children, path, way, place, located, onWay, chains⟩ := handed
  obtain ⟨trail, same, visits⟩ := SpecTree.visit_proceeds steady staging.world located
  obtain rfl := List.append_inj_left' (onWay.symm.trans same) rfl
  refine ⟨address, here, children, rfl, located, chains, fun rig order => ?_⟩
  obtain ⟨tour, mirrors, sound⟩ := order
  obtain ⟨later, met, added, course⟩ := visits tour sound
  have alike := endAlike_visit path way.leads located chains mirrors
  rw [← mirrors.bench] at course
  revert later met course alike
  generalize staging.whole.visit _ _ _ _ _ _ tour = visited
  generalize Rig.runPick staging.forest staging.runner _ rig = ended
  rintro later met course (⟨_, mirrors⟩ | ⟨bench, _, mirrors⟩)
  · rw [← mirrors.bench] at met course
    exact ⟨⟨_, mirrors, later⟩, met, added, course⟩
  · -- The error is ordinary, so the groups are in order afterwards as well.
    have kept := mirrors met.isOrdinary
    rw [← bench] at met course
    exact ⟨⟨_, kept, later⟩, met, added, course⟩

/-- A case that was handed out has a verdict, whatever was invoked before. -/
theorem Handed.exists_verdict (handed : staging.Handed pick)
    (steady : Steady base staging.whole staging.realizer.engine) :
    ∃ verdict, staging.Meets base verdict
      (Rig.runPick staging.forest staging.runner pick) := by
  obtain ⟨address, here, children, _, _, _, runs⟩ := handed.runs steady
  refine ⟨staging.whole.caseVerdict base address children, fun rig order => ?_⟩
  obtain ⟨after, met, added, course⟩ := runs rig order
  exact ⟨after, course.grows, met⟩

variable (staging base) in
/-- A report foretells how a case ends: it is about that case, and meets a verdict that every
invocation of the case meets. `reported` is the world in which the report is read. -/
structure Foretells (reported : World) (pick : Pick) (report : CaseReport) : Prop where
  path : report.path = pick.path
  verdict : ∃ verdict : Verdict, verdict.Met base report.outcome reported ∧
    staging.Meets base verdict (Rig.runPick staging.forest staging.runner pick)

theorem Foretells.grow {reported later : World} {report : CaseReport}
    (foretells : staging.Foretells base reported pick report) (grown : reported.Grows later) :
    staging.Foretells base later pick report where
  path := foretells.path
  verdict := foretells.verdict.imp fun _ known => ⟨known.1.grow grown, known.2⟩

/-- What is reported of a case foretells how it ends. -/
theorem Handed.foretells (handed : staging.Handed pick)
    (steady : Steady base staging.whole staging.realizer.engine)
    (order : staging.InOrder base rig) :
    ∃ report later,
      Rig.reportPick staging.forest staging.runner pick rig = (.returned report, later) ∧
        staging.InOrder base later ∧ rig.bench.world.Grows later.bench.world ∧
          staging.Foretells base later.bench.world pick report := by
  obtain ⟨verdict, meets⟩ := handed.exists_verdict steady
  obtain ⟨after, grows, met⟩ := meets rig order
  rw [Rig.reportPick, Effect.bind_apply, Rig.capture_apply]
  revert after grows met
  rcases Rig.runPick staging.forest staging.runner pick rig with ⟨outcome, ended⟩
  intro after grows met
  cases outcome with
  | returned _ => exact ⟨⟨pick.path, none⟩, ended, rfl, after, grows, rfl, verdict, met, meets⟩
  | raised error =>
      have told := World.Grows.logComposed debugLevel suiteLogger (caseFailure pick.path error)
        ended.bench.world
      simp only [met.isOrdinary, if_true, Effect.bind_apply, Rig.act_apply]
      exact ⟨⟨pick.path, some error⟩, _, rfl, after.grow told, grows.trans told, rfl, verdict,
        met.grow told, meets⟩

/-- What is reported of several cases foretells how each of them ends. -/
theorem forall₂_foretells (steady : Steady base staging.whole staging.realizer.engine)
    {picks : List Pick} (handed : ∀ pick ∈ picks, staging.Handed pick)
    (order : staging.InOrder base rig) :
    ∃ reports later, Effect.collect (Rig.reportPick staging.forest staging.runner) picks rig =
        (.returned reports, later) ∧
      staging.InOrder base later ∧ rig.bench.world.Grows later.bench.world ∧
        List.Forall₂ (staging.Foretells base later.bench.world) picks reports := by
  induction picks generalizing rig with
  | nil => exact ⟨[], rig, rfl, order, .refl _, .nil⟩
  | cons pick picks ih =>
      rw [List.forall_mem_cons] at handed
      obtain ⟨report, middle, first, after, grows, here⟩ := handed.1.foretells steady order
      obtain ⟨reports, later, rest, last, grown, all⟩ := ih handed.2 after
      refine ⟨report :: reports, later, ?_, last, grows.trans grown, .cons (here.grow grown) all⟩
      rw [Effect.collect_cons, Effect.bind_apply, first]
      simp only [Effect.bind_apply, rest]
      rfl

/-- The groups have come nowhere yet when nothing is prepared. -/
theorem inOrder_reset (stands : staging.Stands rig) (grown : base.Grows rig.bench.world) :
    staging.InOrder base (rig.withSuite staging.runner (staging.suite fun _ => .pending)) :=
  ⟨_, mirrors_reset stands, .fresh grown⟩

/-- A run of the suite foretells how each case ends. -/
theorem runSuite_foretells (steady : Steady base staging.whole staging.realizer.engine)
    (stands : staging.Stands rig) (grown : base.Grows rig.bench.world)
    (progress : GroupPath → Preparation) :
    ∃ reports later, Rig.runSuite staging.forest staging.runner rig = (.returned reports, later) ∧
      rig.bench.world.Grows later.bench.world ∧
        List.Forall₂ (staging.Foretells base later.bench.world) (staging.suite progress).picks
          reports := by
  have order := inOrder_reset stands grown
  obtain ⟨reports, later, collected, ⟨_, mirrors, _⟩, grows, all⟩ :=
    forall₂_foretells steady (fun _ listed => handed_of_mem_suite progress listed) order
  refine ⟨reports, later, ?_, grows, all⟩
  rw [Suite.picks, picksFrom_zero] at collected
  obtain ⟨tour, begun, _⟩ := order
  rw [runSuite_eq_runFrom stands, Suite.generations, Rig.runFrom, Effect.bind_apply,
    runFurther_zero begun.stands, Effect.bind_apply, collected]
  simp only [Effect.pure_apply, Nat.le_zero, Nat.one_ne_zero, if_false, Effect.bind_apply,
    runFrom_one mirrors.stands, List.append_nil]

variable {ledger : Ledger} {chosen : List Pick}

/-- Invoking a case leaves the groups in order, and nothing is run but what serves it. -/
theorem Handed.invoke_adds (handed : staging.Handed pick)
    (steady : Steady base staging.whole staging.realizer.engine)
    (order : staging.InOrder base ledger.rig) :
    staging.InOrder base (Ledger.invoke staging.forest staging.runner pick ledger).2.rig ∧
      Ledger.Adds (staging.Serves pick) ledger
        (Ledger.invoke staging.forest staging.runner pick ledger).2 := by
  have invoked : Ledger.invoke staging.forest staging.runner pick ledger =
    (.returned (), (Ledger.runPick staging.forest staging.runner pick ledger).2) := rfl
  obtain ⟨verdict, meets⟩ := handed.exists_verdict steady
  have after := (meets ledger.rig order).1
  rw [← (Ledger.shadows_runPick staging.forest staging.runner pick ledger).2] at after
  obtain ⟨tour, mirrors, _⟩ := order
  rw [invoked]
  exact ⟨after, handed.adds mirrors⟩

/-- Invoking cases leaves the groups in order, and nothing is run but what serves them. -/
theorem invokeAll_adds (steady : Steady base staging.whole staging.realizer.engine)
    (handed : ∀ pick ∈ chosen, staging.Handed pick) (order : staging.InOrder base ledger.rig) :
    staging.InOrder base (Ledger.invokeAll staging.forest staging.runner chosen ledger).2.rig ∧
      Ledger.Adds (fun deed => ∃ pick ∈ chosen, staging.Serves pick deed) ledger
        (Ledger.invokeAll staging.forest staging.runner chosen ledger).2 := by
  induction chosen generalizing ledger with
  | nil => exact ⟨order, .of_deeds_eq rfl⟩
  | cons pick chosen ih =>
      rw [List.forall_mem_cons] at handed
      obtain ⟨after, first⟩ := handed.1.invoke_adds steady order
      obtain ⟨later, rest⟩ := ih handed.2 after
      exact ⟨later,
        (first.imp fun deed serves => ⟨pick, List.mem_cons_self, serves⟩).trans
          (rest.imp fun deed ⟨other, member, serves⟩ =>
            ⟨other, List.mem_cons_of_mem pick member, serves⟩)⟩

/-- The hook of a group has run at most once if no hook of the group has run twice, for it is
the only one. -/
theorem countP_isHookOf_le_one {deeds : List Deed} (group : NodeRef)
    (nodup : (Deed.positions (0 :: group.address) deeds).Nodup)
    (serve : ∀ deed ∈ deeds, ∃ pick, staging.Serves pick deed) :
    deeds.countP (Deed.isHookOf group) ≤ 1 := by
  have placed : ∀ deed ∈ deeds, deed.isHookOf group →
      (deed.position? (0 :: group.address)).isSome := by
    intro deed member isHook
    obtain ⟨pick, ⟨_, _⟩ | _⟩ := serve deed member
    · obtain rfl := of_decide_eq_true isHook
      simp [Deed.position?]
    · cases isHook
  have first : ∀ position ∈ Deed.positions (0 :: group.address) deeds, position = 0 := by
    intro position member
    obtain ⟨hook, start, listed⟩ := Deed.mem_positions.mp member
    obtain ⟨pick, ⟨_, _⟩⟩ := serve _ listed
    rfl
  -- Positions that are all the first and yet differ: there is one at most.
  rw [List.eq_replicate_of_mem first, List.nodup_replicate, Deed.positions,
    List.length_filterMap_eq_countP] at nodup
  exact Nat.le_trans (List.countP_mono_left placed) nodup

/-- Invoking cases that were handed out is frugal, and the groups are in order then. -/
theorem invokeAll_isFrugal (steady : Steady base staging.whole staging.realizer.engine)
    (stands : staging.Stands rig) (grown : base.Grows rig.bench.world)
    (handed : ∀ pick ∈ chosen, staging.Handed pick) :
    let ledger := (Ledger.invokeAll staging.forest staging.runner chosen
      ⟨(Rig.takePicks staging.runner rig).2, []⟩).2
    staging.InOrder base ledger.rig ∧ ledger.IsFrugal chosen := by
  obtain ⟨progress, isSuite⟩ := stands.isSuite
  obtain ⟨later, settled⟩ :=
    (Rig.settled_takePicks staging.forest isSuite).invokeAll chosen
  have order : staging.InOrder base (Ledger.rig ⟨(Rig.takePicks staging.runner rig).2, []⟩) := by
    rw [Rig.takePicks_of_isSuite isSuite]
    exact inOrder_reset stands grown
  obtain ⟨after, deeds, only, serve⟩ := invokeAll_adds steady handed order
  rw [List.nil_append] at only
  rw [← only] at serve
  refine ⟨after, fun deed member => ?_, fun group => ?_, fun group deed member isHook => ?_⟩
  · obtain ⟨pick, _, serves⟩ := serve deed member
    exact serves.isFed
  · have each := fun deed member => (serve deed member).imp fun _ known => known.2
    exact countP_isHookOf_le_one group (settled.tells _ id).nodup each
  · obtain ⟨pick, member, serves⟩ := serve deed member
    exact ⟨pick, member, serves.isBelow (handed pick member) isHook⟩

end Staging

namespace Realizer

variable {forest : Array SpecTree} {index : Nat} {whole : SpecTree} {realizer : Realizer}
  {name : String} {start realized first second : Rig Runner}

/-- Cases of functions do not depend on one another. The suite is run at `first`, and its cases
are handed out at `second`, in whatever order this happens once the tree is realized. Whatever
cases are invoked then, in any order and any number of times, the next invocation ends as the
run reports of that case. The hook of a group runs at most once, only for a case below the
group, and nothing is read that is not there yet. -/
theorem invocations_end_as_reported (placed : forest[index]? = some whole)
    (complete : whole.losses = []) (conventional : whole.root.isConventional)
    (unheard : whole.listeners = {})
    (fresh : start.IsSuite realizer.runner (Suite.empty name))
    (ended : realizer.realizeRoot whole index start = (.returned (), realized))
    (functional : whole.IsFunctional realized.bench.world)
    (once : realizer.engine.delay.RunsOnce) (harmless : realizer.engine.delay.OnlyGrows)
    (running : Rig.Reached forest realizer.runner realized first)
    (grown : realized.bench.world.Grows first.bench.world)
    (handing : Rig.Reached forest realizer.runner realized second)
    (grows : realized.bench.world.Grows second.bench.world) :
    let base := realized.bench.world
    let reported := (Rig.runSuite forest realizer.runner first).2.bench.world
    let begun := (Rig.takePicks realizer.runner second).2
    ∃ reports picks, (Rig.runSuite forest realizer.runner first).1 = .returned reports ∧
      base.Grows reported ∧ (Rig.takePicks realizer.runner second).1 = .returned picks ∧
        ∀ chosen ⊆ picks,
          let ledger := (Ledger.invokeAll forest realizer.runner chosen ⟨begun, []⟩).2
          ledger.rig = (Rig.invokeAll forest realizer.runner chosen begun).2 ∧
            ledger.IsFrugal chosen ∧
              List.Forall₂ (fun pick report => report.path = pick.path ∧
                report.Describes base reported
                  (Rig.runPick forest realizer.runner pick ledger.rig)) picks reports := by
  intro base reported begun
  let staging : Staging :=
    { forest, index, whole, realizer, name, world := start.bench.world, base := start.cells.size,
      placed, complete, conventional }
  have steady : Steady base staging.whole staging.realizer.engine :=
    ⟨complete, unheard, functional, once, harmless⟩
  have stands : staging.Stands realized := Staging.stands_of_realizeRoot rfl rfl fresh ended
  have before : staging.Stands first := Staging.stands_of_reached stands running
  have standing : staging.Stands second := Staging.stands_of_reached stands handing
  obtain ⟨progress, isSuite⟩ := standing.isSuite
  obtain ⟨reports, later, ran, further, foretell⟩ :=
    Staging.runSuite_foretells steady before grown progress
  have left : reported = later.bench.world := congrArg (fun ended => ended.2.bench.world) ran
  refine ⟨reports, (staging.suite progress).picks, congrArg Prod.fst ran,
    left ▸ grown.trans further, congrArg Prod.fst (Rig.takePicks_of_isSuite isSuite),
    fun chosen listed => ?_⟩
  obtain ⟨order, frugal⟩ := Staging.invokeAll_isFrugal steady standing grows fun pick member =>
    Staging.handed_of_mem_suite progress (listed member)
  refine ⟨(Ledger.shadows_invokeAll forest realizer.runner chosen ⟨begun, []⟩).2, frugal, ?_⟩
  refine foretell.imp fun pick report foretells => ⟨foretells.path, ?_⟩
  obtain ⟨verdict, met, meets⟩ := foretells.verdict
  rw [left]
  exact CaseReport.describes_of_met met (meets _ order).2.2

/-- A subject with a case that passes, one that fails, and one in a group that fails. -/
def mixedTree : SpecTree where
  root :=
    let case (children : List ActionTree) : ActionTree :=
      .node { description := .text "should", variant := .leafCase,
              step := fun _ previous => AssertionEngine.expectation previous } children
    let failing (variant : Variant) (kind : ErrorKind) : ActionNode :=
      { description := .text "failing", variant, step := fun _ _ => Action.raiseNew kind [] }
    .node { description := .text "five", variant := .group, step := fun _ _ => pure (.integer 5) }
      [case [],
        case [.node (failing .chainStep (.expectationFailed (.integer 6) (.integer 5) .null)) []],
        .node (failing .group (.host "ValueError")) [case []]]

/-- The steps of that tree are functions. -/
theorem mixedTree_isFunctional (base : World) : mixedTree.IsFunctional base := by
  let holds (node : ActionNode) : Prop := IsFunction base node.act
  have should := AssertionEngine.isFunction_expectation base
  have five : IsFunction base fun _ => (pure (.integer 5) : Action Value) :=
    .constant base (.integer 5)
  have unmet : IsFunction base fun _ =>
      (Action.raiseNew (.expectationFailed (.integer 6) (.integer 5) .null) [] : Action Value) :=
    .raiseNew base (.expectationFailed (.integer 6) (.integer 5) .null) .nil rfl
  have broken : IsFunction base fun _ =>
      (Action.raiseNew (.host "ValueError") [] : Action Value) :=
    .raiseNew base (.host _) .nil (by decide)
  refine ActionTree.forall_subtree? holds five fun child member => ?_
  simp only [List.mem_cons, List.not_mem_nil, or_false] at member
  rcases member with rfl | rfl | rfl
  · exact ActionTree.forall_subtree? holds should fun _ none => absurd none List.not_mem_nil
  · refine ActionTree.forall_subtree? holds should fun child member => ?_
    cases List.mem_singleton.mp member
    exact ActionTree.forall_subtree? holds unmet fun _ none => absurd none List.not_mem_nil
  · refine ActionTree.forall_subtree? holds broken fun child member => ?_
    cases List.mem_singleton.mp member
    exact ActionTree.forall_subtree? holds should fun _ none => absurd none List.not_mem_nil

/-- That tree is run, and then its cases are handed out. -/
theorem mixedTree_ends_as_reported :
    let realizer : Realizer := ⟨⟨0⟩, ⟨1, .immediate, false⟩⟩
    let start : Rig Runner := { runners := #[.suite (Suite.empty "")] }
    ∃ realized reports picks, realizer.realizeRoot mixedTree 0 start = (.returned (), realized) ∧
      (Rig.runSuite #[mixedTree] realizer.runner realized).1 = .returned reports ∧
        reports.map CaseReport.passed = [true, false, false] ∧
          let again := (Rig.runSuite #[mixedTree] realizer.runner realized).2
          let begun := (Rig.takePicks realizer.runner again).2
          (Rig.takePicks realizer.runner again).1 = .returned picks ∧
            ∀ chosen ⊆ picks,
              let ledger := (Ledger.invokeAll #[mixedTree] realizer.runner chosen ⟨begun, []⟩).2
              ledger.rig = (Rig.invokeAll #[mixedTree] realizer.runner chosen begun).2 ∧
                ledger.IsFrugal chosen ∧
                  List.Forall₂ (fun pick report => report.path = pick.path ∧
                    report.Describes realized.bench.world again.bench.world
                      (Rig.runPick #[mixedTree] realizer.runner pick ledger.rig))
                    picks reports := by
  intro realizer start
  have placed : #[mixedTree][0]? = some mixedTree := rfl
  have conventional : mixedTree.root.isConventional = true := rfl
  have fresh : start.IsSuite realizer.runner (Suite.empty "") := rfl
  have outcome : (realizer.realizeRoot mixedTree 0 start).1 = .returned () := by decide +kernel
  have passed : (match (Rig.runSuite #[mixedTree] realizer.runner
        (realizer.realizeRoot mixedTree 0 start).2).1 with
      | .returned reports => reports.map CaseReport.passed
      | .raised _ => []) = [true, false, false] := by decide +kernel
  rcases ended : realizer.realizeRoot mixedTree 0 start with ⟨ending, realized⟩
  rw [ended] at outcome passed
  obtain rfl : ending = .returned () := outcome
  have functional := mixedTree_isFunctional realized.bench.world
  obtain ⟨_, _, _, grows, _⟩ :=
    invocations_end_as_reported placed rfl conventional rfl fresh ended functional
      Delay.immediate_runsOnce Delay.immediate_onlyGrows .filled (.refl _) .filled (.refl _)
  obtain ⟨reports, picks, ran, _, handed, all⟩ :=
    invocations_end_as_reported placed rfl conventional rfl fresh ended functional
      Delay.immediate_runsOnce Delay.immediate_onlyGrows .filled (.refl _) (.run .filled) grows
  rw [ran] at passed
  exact ⟨realized, reports, picks, rfl, ran, passed, handed, all⟩

end Realizer

end DeferredSpec
