/-
# Members that follow a script

What a member is read as may change from one reading to the next. A script tells what each
reading gives, and nothing but a reading moves it on. An attempt at the expectation that such a
member is equal to a value takes two readings: it passes just if the first one finds the member
and the second one is equal to the value. So a run takes two readings for each attempt, and goes
on to the first attempt of which this holds, or to the end of the budget.
-/

import DeferredSpec.Proofs.Likeness.Runs
import DeferredSpec.Proofs.Readings
import DeferredSpec.Proofs.Titles
import Mathlib.Data.List.Find

namespace DeferredSpec

namespace RetryEngine

/-- An error that is put into words is raised, and nothing that was there is changed. -/
theorem finish_raised (error : ErrorRef) (bench : Bench) :
    bench.world.Grows (finish (.raised error) bench).2.world ∧
      ∃ final, (finish (.raised error) bench).1 = .raised final := by
  rw [finish, Effect.bind_apply, Execution.ofAction_apply]
  cases failure : bench.world.isAssertionFailure error with
  | false =>
      rw [SpecError.reformatted_of_other failure]
      exact ⟨.refl _, error, rfl⟩
  | true =>
      obtain ⟨expected, actual, operator, kind⟩ := ErrorKind.isAssertionFailure_iff.mp failure
      cases wording : SpecError.expectedActual (bench.world.view expected)
          (bench.world.view actual) with
      | ok message =>
          rw [SpecError.reformatted_of_ok kind wording]
          exact ⟨World.Grows.newError _ _, _, rfl⟩
      | error reason =>
          rw [SpecError.reformatted_of_error kind wording]
          exact ⟨World.Grows.newError _ _, _, rfl⟩

/-- A last attempt that passed, and whose label has words, is returned. -/
theorem settle_of_returned (engine : RetryEngine) {node : ActionNode} (count : Nat)
    (first : ErrorRef) {value : Value} {bench : Bench} {label : String}
    (labelled : node.labelText bench.world = (.returned label, bench.world)) :
    engine.settle node count first (.returned value, bench) =
      (.returned value,
        { bench with
          world := bench.world.record ⟨infoLevel, retryLogger, engine.success count label⟩ }) := by
  rw [settle, wrapUp, Effect.bind_apply, Execution.ofAction_apply, labelled]
  rfl

/-- A run whose last attempt passed under a label that has words, or failed an expectation, ends as
that attempt does, and changes nothing that was there after it. -/
theorem run_of_last {engine : RetryEngine} {tree : SpecTree} {address : Address}
    {node : ActionNode} {previous : Value} {bench : Bench} (complete : tree.losses = [])
    (once : engine.delay.RunsOnce) {last : Outcome Value × Bench}
    (decides : engine.trial tree address node previous bench
      (engine.retries tree address node previous bench) = last)
    (labelled : ∀ value, last.1 = .returned value →
      ∃ label, node.labelText last.2.world = (.returned label, last.2.world))
    (fails : ∀ error, last.1 = .raised error → failedExpectation last) :
    let ended := engine.run tree address node previous bench
    last.2.world.Grows ended.2.world ∧
      (∀ value, last.1 = .returned value → ended.1 = .returned value) ∧
      (∀ error, last.1 = .raised error → ∃ final, ended.1 = .raised final) := by
  obtain ⟨outcome, later⟩ := last
  cases eligible : failedExpectation (engine.trial tree address node previous bench 0) &&
      engine.awaits tree address with
  | false =>
      have only : engine.retries tree address node previous bench = 0 := by
        rw [retries, eligible]
        rfl
      rw [only] at decides
      rw [decides] at eligible
      rw [trial] at decides
      rw [run_of_unretried complete decides eligible]
      cases outcome with
      | returned value =>
          refine ⟨.refl _, fun _ => id, ?_⟩
          rintro _ ⟨⟩
      | raised error =>
          have failure : later.world.isAssertionFailure error := fails error rfl
          have ordinary : later.world.isOrdinary error :=
            ErrorKind.isOrdinary_of_isAssertionFailure failure
          rw [accept, if_pos ordinary]
          obtain ⟨grows, raises⟩ := finish_raised error later
          refine ⟨grows, ?_, fun _ _ => raises⟩
          rintro _ ⟨⟩
  | true =>
      obtain ⟨failed, awaits⟩ := Bool.and_eq_true_iff.mp eligible
      rcases started : engine.trial tree address node previous bench 0 with ⟨initial, after⟩
      rw [started] at failed
      cases initial with
      | returned value => cases failed
      | raised first =>
          rw [run_of_retried complete once started failed awaits, decides]
          cases outcome with
          | returned value =>
              obtain ⟨label, said⟩ := labelled value rfl
              rw [settle_of_returned engine _ first said]
              refine ⟨World.Grows.record _ _, fun _ => id, ?_⟩
              rintro _ ⟨⟩
          | raised error =>
              rw [settle_eq_finish engine node _ first (fails error rfl)]
              obtain ⟨grows, raises⟩ := finish_raised error later
              refine ⟨grows, ?_, fun _ _ => raises⟩
              rintro _ ⟨⟩

end RetryEngine

/-- What a number of readings of a member give, one after another; a member that is missing gives
nothing. In a world the script has come to a place, and only a reading moves it on. -/
structure Script [ObjectModel] (subject : Value) (name : String) where
  length : Nat
  reading : Nat → Option Value
  IsAt : Nat → World → Prop
  read : ∀ {place : Nat} {world : World}, IsAt place world → place < length →
    ∃ later, subject.member? name world = (.returned (reading place), later) ∧
      IsAt (place + 1) later
  grow : ∀ {place : Nat} {world later : World}, IsAt place world → world.Grows later →
    IsAt place later

namespace Script

section Attempts

variable [ObjectModel] {subject : Value} {name : String} (script : Script subject name)

/-- Wherever the script has come to, what is said about the subject and a value has words, and
whether the last reading is equal to the value is known. -/
structure IsWorded (value : Value) (equals : Nat → Bool) : Prop where
  showsSubject : ∀ {place : Nat} {world : World}, script.IsAt place world →
    (Action.render subject world).1.isReturned
  showsContext : ∀ {place : Nat} {world : World} (identity : Nat), script.IsAt place world →
    (Action.describe (.assertion identity subject false) world).1.isReturned
  showsArguments : ∀ {place : Nat} {world : World}, script.IsAt place world →
    (Action.renderAll [.text name, value] world).1.isReturned
  compares : ∀ {place : Nat} {world : World}, script.IsAt (place + 1) world →
    ((script.reading place).getD .null).isEqual value world = (.returned (equals place), world)

/-- An attempt that begins at a place passes: the first reading finds the member, and the second
one is equal to the value. -/
def meets (equals : Nat → Bool) (place : Nat) : Bool :=
  (script.reading place).isSome && equals (place + 1)

/-- The number of the attempt that decides a run whose first attempt begins at a place: the first
one that passes, or the last one of the budget. -/
def deciding (equals : Nat → Bool) (start budget : Nat) : Nat :=
  ((List.range (budget + 1)).find? fun number => script.meets equals (start + 2 * number)).getD
    budget

/-- The place at which the deciding attempt begins. -/
def decidingPlace (equals : Nat → Bool) (start budget : Nat) : Nat :=
  start + 2 * script.deciding equals start budget

/-- The deciding attempt lies within the budget. -/
theorem deciding_le (equals : Nat → Bool) (start budget : Nat) :
    script.deciding equals start budget ≤ budget := by
  rw [deciding]
  cases found : (List.range (budget + 1)).find? fun number =>
      script.meets equals (start + 2 * number) with
  | none => exact le_rfl
  | some number => exact Nat.lt_succ_iff.mp (List.mem_range.mp (List.mem_of_find?_eq_some found))

/-- An attempt that has begun at a place has ended two readings on: it returns a context over the
second reading if it passes, and has failed an expectation if it does not. -/
structure EndsAt (equals : Nat → Bool) (place : Nat) (ended : Outcome Value × World) : Prop where
  isAt : script.IsAt (place + 2) ended.2
  passed : script.meets equals place = true →
    ∃ fresh, ended.1 = .returned (.assertion fresh ((script.reading (place + 1)).getD .null) false)
  failed : script.meets equals place = false →
    ∃ error, ended.1 = .raised error ∧ ended.2.Has (.error error) ∧
      ended.2.isAssertionFailure error

/-- A run that began at a place has taken two readings for each attempt up to the deciding one, has
waited between them, and ends as the deciding attempt does. -/
structure Concludes (equals : Nat → Bool) (engine : RetryEngine) (start : Nat) (bench : Bench)
    (ended : Outcome Value × Bench) : Prop where
  delays : ended.2.delays = bench.delays + script.deciding equals start engine.maxRetries
  isAt : script.IsAt (script.decidingPlace equals start engine.maxRetries + 2) ended.2.world
  passed : script.meets equals (script.decidingPlace equals start engine.maxRetries) = true →
    ∃ fresh, ended.1 = .returned (.assertion fresh
      ((script.reading (script.decidingPlace equals start engine.maxRetries + 1)).getD .null) false)
  failed : script.meets equals (script.decidingPlace equals start engine.maxRetries) = false →
    ∃ error, ended.1 = .raised error

variable {script} {value : Value} {equals : Nat → Bool} {place : Nat} {world later : World}

theorem EndsAt.grow {outcome : Outcome Value} (ends : script.EndsAt equals place (outcome, world))
    (grows : world.Grows later) : script.EndsAt equals place (outcome, later) where
  isAt := script.grow ends.isAt grows
  passed := ends.passed
  failed misses := by
    obtain ⟨error, raised, there, failure⟩ := ends.failed misses
    refine ⟨error, raised, grows.has there, ?_⟩
    rw [World.isAssertionFailure, grows.errorAt there]
    exact failure

theorem readTwice_of_isAt (isAt : script.IsAt place world) (within : place + 2 ≤ script.length) :
    ∃ later, CallPredicate.readTwice subject name world =
        (.returned ((script.reading place).isSome, (script.reading (place + 1)).getD .null),
          later) ∧
      script.IsAt (place + 2) later := by
  obtain ⟨between, first, moved⟩ := script.read isAt (by omega)
  obtain ⟨later, second, onward⟩ := script.read moved (by omega)
  refine ⟨later, ?_, onward⟩
  rw [CallPredicate.readTwice, Effect.bind_apply, first]
  simp only [Effect.bind_apply, second]
  rfl

/-- The call of `property` with a name and a value. -/
def propertyLink (name : String) (value : Value) : Link where
  name := "property"
  arguments := some [.text name, value]

/-- A word without effect. -/
def haveLink : Link where
  name := "have"

/-- A member that a context has, and that is of the right kind, is looked up without further
ado. -/
theorem checkedMember_of_member {context found : Value} {word : String} {kind : MemberKind}
    (has : context.member word = pure found)
    (suits : AssertionEngine.kindFault? kind found = none) :
    AssertionEngine.checkedMember context (.text word) kind = pure found := by
  have named : context.memberNamed (.text word) = pure found := has
  funext world
  rw [AssertionEngine.checkedMember, named, Effect.bind_apply]
  simp only [Effect.attempt_apply, Effect.pure_apply, suits]

theorem checkedMember_property (identity : Nat) (subject : Value) :
    AssertionEngine.checkedMember (.assertion identity subject false) (.text "property")
      .function = pure (.method (.assertion identity subject false) "property") := by
  have known : ChainWord.ofName? (propertyLink "" .null).name = some (.called .property) := by
    decide +kernel
  apply checkedMember_of_member
  · refine (Link.member_of_ofName? known identity subject false).trans ?_
    rw [Value.contextMember, known]
    rfl
  · rfl

/-- A word without effect goes on with the same context. -/
theorem act_haveLink (identity : Nat) :
    (haveLink.node .chainStep).act (.assertion identity subject false) =
      pure (.assertion identity subject false) := by
  have known : ChainWord.ofName? haveLink.name = some .link := by decide +kernel
  have found : AssertionEngine.checkedMember (.assertion identity subject false)
      (.text haveLink.name) .property = pure (.assertion identity subject false) := by
    apply checkedMember_of_member
    · refine (Link.member_of_ofName? known identity subject false).trans ?_
      rw [Value.contextMember, known]
    · rfl
  exact found

theorem EndsAt.failedExpectation_eq {ended : Outcome Value × Bench}
    (ends : script.EndsAt equals place (worldOf ended)) :
    failedExpectation ended = !script.meets equals place := by
  obtain ⟨outcome, bench⟩ := ended
  cases meets : script.meets equals place with
  | true =>
      obtain ⟨fresh, rfl⟩ := ends.passed meets
      rfl
  | false =>
      obtain ⟨error, rfl, -, failure⟩ := ends.failed meets
      exact failure

theorem EndsAt.failedExpectation_of_raised {ended : Outcome Value × Bench} {error : ErrorRef}
    (ends : script.EndsAt equals place (worldOf ended)) (raised : ended.1 = .raised error) :
    failedExpectation ended := by
  rw [ends.failedExpectation_eq]
  cases meets : script.meets equals place with
  | false => rfl
  | true =>
      obtain ⟨fresh, passed⟩ := ends.passed meets
      cases passed.symm.trans raised

namespace IsWorded

variable (worded : script.IsWorded value equals)

include worded

/-- The value itself has words. -/
theorem render_value (isAt : script.IsAt place world) :
    ∃ text, Action.render value world = (.returned text, world) := by
  apply (Action.onlyAsks_render value).exists_returned
  have said := worded.showsArguments isAt
  rw [Action.renderAll, Effect.bind_apply, Effect.read_apply] at said
  rw [Action.render, Effect.bind_apply, Action.view, Effect.read_apply]
  cases shown : (world.view value).render with
  | ok text => simp only [shown]; rfl
  | error reason =>
      have unsaid : Snapshot.renderAll ([.text name, value].map world.view) = .error reason := by
        simp only [Snapshot.renderAll, List.map_cons, List.map_nil, List.mapM_cons, shown]
        rfl
      simp only [unsaid] at said
      cases said

/-- What the last reading comes to is found without touching the world. -/
theorem judge_apply (isAt : script.IsAt (place + 1) world) (rendered : String) (there : Bool) :
    ∃ finding, CallPredicate.judge rendered (.text name) [value] there
        ((script.reading place).getD .null) world = (.returned finding, world) ∧
      finding.holds = (there && equals place) := by
  obtain ⟨text, shown⟩ := worded.render_value isAt
  obtain ⟨quoted, displayed⟩ : ∃ quoted, Action.display (.text name) world =
      (.returned quoted, world) := ⟨_, rfl⟩
  rw [CallPredicate.judge]
  cases there with
  | true =>
      rw [if_pos rfl, Effect.bind_apply, worded.compares isAt]
      simp only [Effect.bind_apply, displayed, shown]
      exact ⟨_, rfl, rfl⟩
  | false =>
      rw [if_neg Bool.false_ne_true, pure_bind]
      simp only [Effect.bind_apply, displayed, shown]
      exact ⟨_, rfl, rfl⟩

/-- A call of `property` at a place of the script takes two readings. -/
theorem endsAt_call (plain : ∀ ref, subject ≠ .table ref) (self : Value)
    (isAt : script.IsAt place world) (within : place + 2 ≤ script.length) :
    script.EndsAt equals place
      (CallPredicate.property.call self subject false [.text name, value] world) := by
  obtain ⟨rendered, shown⟩ :=
    (Action.onlyAsks_render subject).exists_returned (worded.showsSubject isAt)
  obtain ⟨later, looked, moved⟩ := readTwice_of_isAt isAt within
  obtain ⟨finding, judged, holds⟩ :=
    worded.judge_apply moved rendered (script.reading place).isSome
  have verdict : finding.passes false = script.meets equals place := by
    rw [Finding.passes, holds, meets, Bool.bne_false]
  rw [CallPredicate.call_property, CallPredicate.lookUp_text plain, CallPredicate.propertyBy,
    Effect.bind_apply, shown]
  simp only [Effect.bind_apply, looked, judged]
  cases meets : script.meets equals place with
  | true =>
      rw [meets] at verdict
      rw [Finding.settle_of_passes verdict]
      exact {
        isAt := script.grow moved (World.Grows.newIdentity later)
        passed := fun _ => ⟨later.identities, rfl⟩
        failed := fun misses => by rw [meets] at misses; cases misses }
  | false =>
      rw [meets] at verdict
      simp only [Finding.settle_of_not_passes verdict]
      refine {
        isAt := script.grow moved (World.Grows.newError _ later)
        passed := fun passes => by rw [meets] at passes; cases passes
        failed := fun _ => ⟨_, rfl, ?_, ?_⟩ }
      · simp [World.Has, World.newError]
      · rw [World.isAssertionFailure, World.errorAt_newError]
        rfl

/-- What is logged before a call can be put into words. -/
theorem exists_invocationMessage (identity : Nat) (isAt : script.IsAt place world) :
    ∃ message, AssertionEngine.invocationMessage (.assertion identity subject false)
      (.text "property") [.text name, value] world = (.returned message, world) := by
  obtain ⟨shown, described⟩ := (Action.onlyAsks_describe (.assertion identity subject false))
    |>.exists_returned (worded.showsContext identity isAt)
  obtain ⟨texts, rendered⟩ := (Action.onlyAsks_renderAll [.text name, value])
    |>.exists_returned (worded.showsArguments isAt)
  rw [AssertionEngine.invocationMessage, Effect.bind_apply, described]
  simp only [Effect.bind_apply, rendered]
  exact ⟨_, rfl⟩

/-- The step of the call takes two readings. -/
theorem endsAt_act (plain : ∀ ref, subject ≠ .table ref) (identity : Nat)
    (isAt : script.IsAt place world) (within : place + 2 ≤ script.length) :
    script.EndsAt equals place
      (((propertyLink name value).node .chainStep).act (.assertion identity subject false)
        world) := by
  obtain ⟨message, said⟩ := worded.exists_invocationMessage identity isAt
  have step : ((propertyLink name value).node .chainStep).act (.assertion identity subject false) =
      AssertionEngine.standard.invoke (.assertion identity subject false) (.text "property")
        (some [.text name, value]) := rfl
  have found := checkedMember_property identity subject
  rw [step, AssertionEngine.invoke, Effect.bind_apply, said]
  simp only [AssertionEngine.standard, found]
  exact worded.endsAt_call plain (.assertion identity subject false)
    (script.grow isAt (World.Grows.record world ⟨debugLevel, handleLogger, message⟩)) within

/-- The label of the call can be put into words. -/
theorem exists_labelText (isAt : script.IsAt place world) :
    ∃ label, ((propertyLink name value).node .chainStep).labelText world =
      (.returned label, world) := by
  obtain ⟨texts, rendered⟩ := (Action.onlyAsks_renderAll [.text name, value])
    |>.exists_returned (worded.showsArguments isAt)
  have described : ((propertyLink name value).node .chainStep).label world =
      (.returned (.text ("property(" ++ texts ++ ")")), world) := by
    have word : Action.plain (.text "property") world = (.returned "property", world) := rfl
    show (Action.plain (.text "property") >>= fun description =>
      Action.renderAll [.text name, value] >>= fun rendered =>
        pure (Value.text (description ++ "(" ++ rendered ++ ")"))) world = _
    simp only [Effect.bind_apply, word, rendered]
    rfl
  rw [ActionNode.labelText, Effect.bind_apply, described]
  exact ⟨_, rfl⟩

end IsWorded

end Attempts

section Runs

variable [ObjectModel]

/-- The entry to an assertion that asks for retries. -/
def eventualNode : ActionNode := { SpecTree.entryNode with description := .text shouldEventually }

/-- The nodes below the subject of a chain that expects a member to be equal to a value sooner or
later. -/
def chainNodes (name : String) (value : Value) : List ActionNode :=
  [eventualNode, haveLink.node .chainStep, (propertyLink name value).node .chainStep]

/-- The tree of a subject with such a chain. -/
def tree (description : String) (factory : Action Value) (name : String) (value : Value) :
    SpecTree :=
  .straight (SpecTree.subjectNode description factory) (chainNodes name value)

/-- The address of the end of the chain. -/
def chainEnd : Address := ActionTree.downTo 3

/-- The chain lies below an entry that asks for retries. -/
theorem awaits_chainEnd (engine : RetryEngine) (description : String) (factory : Action Value)
    (name : String) (value : Value) :
    engine.awaits (tree description factory name value) chainEnd = true := by
  rw [RetryEngine.awaits, List.any_eq_true]
  refine ⟨([0], eventualNode), ?_, ?_⟩
  · exact List.mem_cons_of_mem _ List.mem_cons_self
  · rfl

variable {subject : Value} {name : String} (script : Script subject name)

/-- A factory hands out the subject, wherever the script has come to, and does not move it on. -/
def IsMadeBy (factory : Action Value) : Prop :=
  ∀ (place : Nat) (world : World), script.IsAt place world →
    ∃ later, factory world = (.returned subject, later) ∧ script.IsAt place later

variable {script} (description : String) {factory : Action Value} {value : Value}
  {equals : Nat → Bool} {engine : RetryEngine} {start : Nat} {world : World} {bench : Bench}
  (plain : ∀ ref, subject ≠ .table ref) (worded : script.IsWorded value equals)
  (made : script.IsMadeBy factory)

include plain worded made

/-- The whole way from the subject to the end of the chain takes two readings. -/
theorem endsAt_actAlong (isAt : script.IsAt start world) (within : start + 2 ≤ script.length) :
    script.EndsAt equals start
      (ActionNode.actAlong (SpecTree.subjectNode description factory :: chainNodes name value)
        .null world) := by
  obtain ⟨later, makes, still⟩ := made start world isAt
  have handed : (SpecTree.subjectNode description factory).act .null world =
      (.returned subject, later) := makes
  have opened : eventualNode.act subject later =
      (.returned (.assertion later.identities subject false), later.newIdentity.2) := rfl
  have last : ActionNode.actAlong [haveLink.node .chainStep,
      (propertyLink name value).node .chainStep] (.assertion later.identities subject false) =
        ((propertyLink name value).node .chainStep).act
          (.assertion later.identities subject false) := by
    rw [ActionNode.actAlong, act_haveLink, pure_bind]
    exact bind_pure _
  rw [chainNodes, ActionNode.actAlong, Effect.bind_apply, handed]
  simp only
  rw [ActionNode.actAlong, Effect.bind_apply, opened]
  simp only
  rw [last]
  exact worded.endsAt_act plain later.identities
    (script.grow still (World.Grows.newIdentity later)) within

theorem endsAt_executeAlong (bench : Bench) (isAt : script.IsAt start bench.world)
    (within : start + 2 ≤ script.length) :
    script.EndsAt equals start
      (worldOf ((tree description factory name value).executeAlong
        ((tree description factory name value).root.trail chainEnd) .null bench)) := by
  obtain ⟨outcome, left⟩ := SpecTree.executeAlong_eq_actAlong
    (show (tree description factory name value).losses = [] from rfl) rfl
    ((tree description factory name value).root.trail chainEnd) .null bench
  rw [worldOf, outcome, left]
  exact endsAt_actAlong description plain worded made isAt within

/-- A delay around the whole way takes none, whatever it adds to the world. -/
theorem endsAt_around (bench : Bench) (harmless : engine.delay.OnlyGrows)
    (isAt : script.IsAt start bench.world) (within : start + 2 ≤ script.length) :
    script.EndsAt equals start
      (worldOf (engine.delay.around
        ((tree description factory name value).executeAlong
          ((tree description factory name value).root.trail chainEnd) .null) bench)) := by
  obtain ⟨earlier, later⟩ := harmless bench.world
  rw [Delay.around]
  revert earlier later
  rcases engine.delay.approach bench.world with ⟨world, onward⟩
  intro earlier later
  exact (endsAt_executeAlong description plain worded made { bench with world }
    (script.grow isAt earlier) within).grow (later _ _)

/-- A further attempt takes two readings. -/
theorem endsAt_retrial (harmless : engine.delay.OnlyGrows) (number : Nat)
    (isAt : script.IsAt start bench.world) (within : start + 2 ≤ script.length) :
    script.EndsAt equals start
      (worldOf (engine.retrial (tree description factory name value) chainEnd number bench)) := by
  have told := World.Grows.record bench.world
    ⟨infoLevel, retryLogger, engine.announcement number⟩
  rw [RetryEngine.retrial]
  exact endsAt_around description plain worded made
    (Bench.happened .delayed { bench with world := bench.world.record _ }) harmless
    (script.grow isAt told) within

/-- Every attempt takes two readings, from where the one before has left the script. -/
theorem endsAt_trial (harmless : engine.delay.OnlyGrows) (isAt : script.IsAt start bench.world)
    (identity : Nat) {number : Nat} (within : start + 2 * (number + 1) ≤ script.length) :
    script.EndsAt equals (start + 2 * number)
      (worldOf (engine.trial (tree description factory name value) chainEnd
        ((propertyLink name value).node .chainStep) (.assertion identity subject false) bench
        number)) := by
  induction number with
  | zero =>
      obtain ⟨outcome, left⟩ := SpecTree.execute_eq_act
        (show (tree description factory name value).losses = [] from rfl) rfl chainEnd
        ((propertyLink name value).node .chainStep) (.assertion identity subject false) bench
      rw [RetryEngine.trial, worldOf, outcome, left]
      exact worded.endsAt_act plain identity isAt within
  | succ number ih =>
      rw [RetryEngine.trial]
      exact endsAt_retrial description plain worded made harmless (number + 1)
        (ih (by omega)).isAt (by omega)

/-- The attempts that are made are those up to the deciding one. -/
theorem retries_eq_deciding (harmless : engine.delay.OnlyGrows)
    (isAt : script.IsAt start bench.world) (identity : Nat)
    (within : start + 2 * (engine.maxRetries + 1) ≤ script.length) :
    engine.retries (tree description factory name value) chainEnd
        ((propertyLink name value).node .chainStep) (.assertion identity subject false) bench =
      script.deciding equals start engine.maxRetries := by
  have fails {number : Nat} (allowed : number ≤ engine.maxRetries) :=
    (endsAt_trial description plain worded made harmless isAt identity
      (show start + 2 * (number + 1) ≤ script.length by omega)).failedExpectation_eq
  have first := fails (Nat.zero_le _)
  have others : (List.range' 1 engine.maxRetries).find? (fun number =>
      !failedExpectation (engine.trial (tree description factory name value) chainEnd
        ((propertyLink name value).node .chainStep) (.assertion identity subject false) bench
        number)) =
      (List.range' 1 engine.maxRetries).find? fun number =>
        script.meets equals (start + 2 * number) := by
    apply List.find?_congr
    intro number among
    rw [List.mem_range'_1] at among
    rw [fails (by omega), Bool.not_not]
  rw [RetryEngine.retries, awaits_chainEnd, Bool.and_true, deciding, List.range_eq_range',
    List.range'_succ, List.find?_cons, first, others]
  cases script.meets equals (start + 2 * 0) <;> rfl

/-- A run takes two readings for each attempt, and ends as the deciding attempt does. -/
theorem concludes_run (harmless : engine.delay.OnlyGrows) (once : engine.delay.RunsOnce)
    (isAt : script.IsAt start bench.world) (identity : Nat)
    (within : start + 2 * (engine.maxRetries + 1) ≤ script.length) :
    script.Concludes equals engine start bench
      (engine.run (tree description factory name value) chainEnd
        ((propertyLink name value).node .chainStep) (.assertion identity subject false) bench) := by
  have complete : (tree description factory name value).losses = [] := rfl
  have retried := retries_eq_deciding description plain worded made harmless isAt identity within
  have allowed := script.deciding_le equals start engine.maxRetries
  have last := endsAt_trial description plain worded made harmless isAt identity
    (show start + 2 * (script.deciding equals start engine.maxRetries + 1) ≤ script.length by omega)
  obtain ⟨grows, returns, raises⟩ := RetryEngine.run_of_last complete once
    (congrArg (engine.trial _ _ _ _ bench) retried)
    (fun _ _ => worded.exists_labelText last.isAt)
    (fun _ raised => last.failedExpectation_of_raised raised)
  refine ⟨?_, script.grow last.isAt grows, ?_, ?_⟩
  · exact (RetryEngine.run_concludes_iff complete once).1.trans
      (congrArg (bench.delays + ·) retried)
  · intro meets
    obtain ⟨fresh, passed⟩ := last.passed meets
    exact ⟨fresh, returns _ passed⟩
  · intro misses
    obtain ⟨error, failed, -⟩ := last.failed misses
    exact raises error failed

end Runs

section Gauges

open Samples

/-- A gauge with integers to read, of which some were read. -/
def gaugeCell (items : List Int) (place : Nat) : ObjectCell where
  className := "Gauge"
  fields := [("reads", .integer place), ("_readings", .tuple (items.map .integer))]
  texts := ["Gauge(reads=", ")"]
  shown := ["reads"]

/-- The reading of a gauge at a place; the last one repeats. -/
def gaugeReading (first : Int) (rest : List Int) (place : Nat) : Int :=
  (first :: rest).getD (min place rest.length) first

variable {ref : ObjectRef} {first : Int} {rest items : List Int} {place : Nat} {world : World}

theorem itemAt_gauge (first : Int) (rest : List Int) (place : Nat) :
    itemAt ((first :: rest).map Value.integer)
        (min (place : Int) (((first :: rest).map Value.integer).length - 1)) =
      pure (.integer (gaugeReading first rest place)) := by
  have index : min (place : Int) (((first :: rest).map Value.integer).length - 1) =
      (min place rest.length : Nat) := by
    rw [List.length_map, List.length_cons]
    omega
  have bound : min place rest.length < (first :: rest).length :=
    Nat.lt_succ_of_le (Nat.min_le_right place rest.length)
  have there : ((first :: rest).map Value.integer)[min place rest.length]? =
      some (.integer (gaugeReading first rest place)) := by
    rw [List.getElem?_map, gaugeReading, List.getD_eq_getElem?_getD,
      List.getElem?_eq_getElem bound]
    rfl
  have ahead : ¬ ((min place rest.length : Nat) : Int) < 0 := by omega
  rw [index, itemAt, if_neg ahead, if_neg ahead, Int.toNat_natCast, there]

theorem objectAt_of_getElem? {cell : ObjectCell} (found : world.objects[ref.index]? = some cell) :
    world.objectAt ref = cell := by
  rw [World.objectAt, found]
  rfl

/-- Taking a reading of a gauge counts it. -/
theorem gaugeValue_apply
    (found : world.objects[ref.index]? = some (gaugeCell (first :: rest) place)) :
    gaugeValue ref world =
      (.returned (.integer (gaugeReading first rest place)),
        world.setObject ref (gaugeCell (first :: rest) (place + 1))) := by
  have cell := objectAt_of_getElem? found
  have readings : ref.field "_readings" world =
      (.returned (.tuple ((first :: rest).map .integer)), world) := by
    rw [ObjectRef.field, Effect.read_apply, cell]
    rfl
  have reads : ref.field "reads" world = (.returned (.integer place), world) := by
    rw [ObjectRef.field, Effect.read_apply, cell]
    rfl
  have counted : ref.setField "reads" (.integer (place + 1)) world =
      (.returned (), world.setObject ref (gaugeCell (first :: rest) (place + 1))) := by
    rw [ObjectRef.setField, Effect.modify_apply, cell]
    rfl
  rw [gaugeValue, Effect.bind_apply, readings]
  simp only [Effect.bind_apply, reads, pure_bind, Value.asInteger?, Option.getD_some]
  rw [itemAt_gauge]
  simp only [Effect.pure_apply, counted]

/-- A gauge that has been read a number of times is shown with this number. -/
theorem view_gauge (found : world.objects[ref.index]? = some (gaugeCell items place)) :
    world.view (.object ref) =
      .object ref "Gauge" ["Gauge(reads=", ")"] [.integer place] none := by
  have cell := objectAt_of_getElem? found
  show World.follow world (world.size + 1) [] (.object ref) = _
  rw [World.follow, if_neg (by simp)]
  simp only [cell]
  rfl

/-- Integers are equal in every world just if they are the same. -/
theorem isEqual_integer (one other : Int) (world : World) :
    (Value.integer one).isEqual (.integer other) world =
      (.returned (decide (one = other)), world) := by
  have related : (Snapshot.integer one).equals false (.integer other) =
      decide (one = other) := by
    simp only [Snapshot.equals, Snapshot.number?, Snapshot.relateNumbers, Extended.lt_rational,
      decide_eq_true_eq, Rat.intCast_lt_intCast]
    rcases lt_trichotomy one other with below | rfl | above
    · rw [if_pos below, decide_eq_false below.ne]
      rfl
    · rw [if_neg (lt_irrefl _), if_neg (lt_irrefl _), decide_eq_true rfl]
      rfl
    · rw [if_neg above.not_gt, if_pos above, decide_eq_false above.ne']
      rfl
  show (Outcome.returned ((Snapshot.integer one).equals false (.integer other)), world) = _
  rw [related]

/-- An integer with not too many digits can be written. -/
theorem integerText_eq_ok {value : Int} (brief : value.natAbs < Nat.pow 10 Snapshot.digitLimit) :
    Snapshot.integerText value = .ok (toString value) := by
  have written : (decide (value.natAbs.log2 < 14284) ||
      decide (value.natAbs < Nat.pow 10 Snapshot.digitLimit)) = true := by
    rw [decide_eq_true brief, Bool.or_true]
  rw [Snapshot.integerText, if_pos written]

/-- A gauge that was not read too often can be written. -/
theorem exists_written_gauge
    (found : world.objects[ref.index]? = some (gaugeCell items place))
    (short : place < Nat.pow 10 Snapshot.digitLimit) :
    ∃ text, (world.view (.object ref)).written = .foreign (.ok text) := by
  have counted : Snapshot.integerText place = .ok (toString (place : Int)) :=
    integerText_eq_ok short
  rw [view_gauge found, Snapshot.written, Snapshot.writtenAll, Snapshot.writtenAll,
    Snapshot.written, counted]
  exact ⟨_, rfl⟩

theorem member?_gauge
    (found : world.objects[ref.index]? = some (gaugeCell (first :: rest) place)) :
    (Value.object ref).member? "value" world =
      (.returned (some (.integer (gaugeReading first rest place))),
        world.setObject ref (gaugeCell (first :: rest) (place + 1))) := by
  have cell := objectAt_of_getElem? found
  have computed : (Value.object ref).member "value" world = gaugeValue ref world := by
    rw [Value.member, if_neg (by decide +kernel), Value.objectMember, Effect.bind_apply,
      Effect.read_apply, cell]
    rfl
  rw [Value.member?, Effect.bind_apply, Effect.attempt_apply, computed, gaugeValue_apply found]
  rfl

/-- What the readings of a gauge give, as long as it is not read more than a number of times. -/
def gauge (ref : ObjectRef) (first : Int) (rest : List Int) (length : Nat) :
    Script (.object ref) "value" where
  length := length
  reading place := some (.integer (gaugeReading first rest place))
  IsAt place world :=
    place ≤ length ∧ world.objects[ref.index]? = some (gaugeCell (first :: rest) place)
  read isAt within :=
    ⟨_, member?_gauge isAt.2, within,
      Array.getElem?_setIfInBounds_self_of_lt (Array.getElem?_eq_some_iff.mp isAt.2).1⟩
  grow isAt grows :=
    ⟨isAt.1, (grows.objects _ (Array.getElem?_eq_some_iff.mp isAt.2).1).trans isAt.2⟩

/-- What is said about a gauge and an integer has words, as long as neither the number of its
readings nor the integer has too many digits to be written. -/
theorem gauge_isWorded (ref : ObjectRef) (first : Int) (rest : List Int) {length : Nat}
    {value : Int} (short : length < Nat.pow 10 Snapshot.digitLimit)
    (brief : value.natAbs < Nat.pow 10 Snapshot.digitLimit) :
    (gauge ref first rest length).IsWorded (.integer value)
      fun number => decide (gaugeReading first rest number = value) where
  showsSubject isAt := by
    obtain ⟨text, written⟩ := exists_written_gauge isAt.2 (isAt.1.trans_lt short)
    rw [Action.render, Effect.bind_apply, Action.view, Effect.read_apply]
    simp only [Snapshot.render, written]
    rfl
  showsContext {place world} identity isAt := by
    obtain ⟨text, written⟩ := exists_written_gauge isAt.2 (isAt.1.trans_lt short)
    have shown : (world.view (.assertion identity (.object ref) false)).display =
        .ok (Snapshot.assertionText false (Quoted.json text)) := by
      show (Snapshot.written (.assertion identity (world.view (.object ref)) false)).shown = _
      rw [Snapshot.written, written]
      rfl
    rw [Action.describe, Effect.bind_apply, Action.view, Effect.read_apply]
    have described : (world.view (.assertion identity (.object ref) false)).describe =
        (world.view (.assertion identity (.object ref) false)).display.map _ := rfl
    simp only [described, shown]
    rfl
  showsArguments {place world} isAt := by
    have shown : Snapshot.render (.integer value) = .ok (toString value) := by
      rw [Snapshot.render, Snapshot.written, integerText_eq_ok brief]
      rfl
    show (Action.ofWording (Snapshot.renderAll [.text "value", .integer value]) world).1.isReturned
    rw [Snapshot.renderAll, List.mapM_cons, List.mapM_cons, shown]
    rfl
  compares _ := isEqual_integer _ _ _

end Gauges

section Members

variable [ObjectModel] (subject : Value) (name : String)

/-- One reading would do for a call of `property` just if the subject cannot be shown or the
member is steady. Where the member follows a script, a run of the expectation that it is equal to
a value takes two readings for each attempt: it waits until there is an attempt of which the first
reading finds the member and the second one is equal to the value, or until the budget is used up,
and goes on over the second reading. -/
theorem readings_of_property (plain : ∀ ref, subject ≠ .table ref) :
    (∀ world, CallPredicate.ReadsOnce subject name world ↔
      (Action.render subject world).1.isReturned = false ∨
        CallPredicate.IsSteady subject name world) ∧
    ∀ (script : Script subject name) (value : Value) (equals : Nat → Bool) (description : String)
        (factory : Action Value) (engine : RetryEngine) (start identity : Nat) (bench : Bench),
      script.IsWorded value equals → script.IsMadeBy factory → engine.delay.OnlyGrows →
      engine.delay.RunsOnce → script.IsAt start bench.world →
      start + 2 * (engine.maxRetries + 1) ≤ script.length →
      script.Concludes equals engine start bench
        (engine.run (tree description factory name value) chainEnd
          ((propertyLink name value).node .chainStep) (.assertion identity subject false)
          bench) := by
  refine ⟨CallPredicate.readsOnce_iff plain name, ?_⟩
  intro script value equals description factory engine start identity bench worded made harmless
    once isAt within
  exact concludes_run description plain worded made harmless once isAt identity within

end Members

section Samples

open Samples

/-- A bench with a gauge that reads one, two, and then only one. -/
def waveringBench : Bench where
  world := (construct "Gauge" ([1, 2, 1, 1].map .integer) {}).2

/-- A gauge reads one at first, and two when it is read again: the expectation that it reads one
fails at first, and passes at the first retry. -/
theorem readings_of_wavering_gauge :
    let subject : Value := .object ⟨0⟩
    let engine : RetryEngine := ⟨3, .immediate, false⟩
    let script := gauge ⟨0⟩ 1 [2, 1, 1] 8
    let equals := fun number => decide (gaugeReading 1 [2, 1, 1] number = 1)
    let ended := engine.run (tree "gauge" (pure subject) "value" (.integer 1)) chainEnd
      ((propertyLink "value" (.integer 1)).node .chainStep) (.assertion 0 subject false)
      waveringBench
    (∀ ref, subject ≠ .table ref) ∧
      (CallPredicate.ReadsOnce subject "value" waveringBench.world ↔
        (Action.render subject waveringBench.world).1.isReturned = false ∨
          CallPredicate.IsSteady subject "value" waveringBench.world) ∧
      script.IsWorded (.integer 1) equals ∧ script.IsMadeBy (pure subject) ∧
      engine.delay.OnlyGrows ∧ engine.delay.RunsOnce ∧ script.IsAt 0 waveringBench.world ∧
      0 + 2 * (engine.maxRetries + 1) ≤ script.length ∧
      script.Concludes equals engine 0 waveringBench ended ∧
      script.deciding equals 0 engine.maxRetries = 1 := by
  intro subject engine script equals ended
  have plain : ∀ ref, subject ≠ .table ref := nofun
  have worded : script.IsWorded (.integer 1) equals :=
    gauge_isWorded ⟨0⟩ 1 [2, 1, 1] (by decide +kernel) (by decide +kernel)
  have made : script.IsMadeBy (pure subject) := fun _ world isAt => ⟨world, rfl, isAt⟩
  have isAt : script.IsAt 0 waveringBench.world := ⟨Nat.zero_le _, rfl⟩
  obtain ⟨steady, runs⟩ := readings_of_property subject "value" plain
  refine ⟨plain, steady _, worded, made, Delay.immediate_onlyGrows, Delay.immediate_runsOnce, isAt,
    le_rfl, ?_, by decide +kernel⟩
  exact runs script (.integer 1) equals "gauge" (pure subject) engine 0 0 waveringBench worded made
    Delay.immediate_onlyGrows Delay.immediate_runsOnce isAt le_rfl

/-- The world of a gauge that reads one, and then only two. -/
def risingWorld : World := (construct "Gauge" ([1, 2].map .integer) {}).2

/-- One reading finds that the gauge reads one; the call fails. -/
theorem not_readsOnce_of_rising_gauge :
    ¬ CallPredicate.ReadsOnce (.object ⟨0⟩) "value" risingWorld := by
  intro once
  have fails : (CallPredicate.property.call (.assertion 0 (.object ⟨0⟩) false) (.object ⟨0⟩) false
      [.text "value", .integer 1] risingWorld).1.isReturned = false := by decide +kernel
  have passes : (CallPredicate.propertyBy (CallPredicate.readOnce (.object ⟨0⟩) "value")
      (.object ⟨0⟩) false (.text "value") [.integer 1] risingWorld).1.isReturned = true := by
    decide +kernel
  rw [once _ false [.integer 1], passes] at fails
  cases fails

end Samples

end Script

end DeferredSpec
