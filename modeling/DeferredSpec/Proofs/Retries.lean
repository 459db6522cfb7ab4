/-
# What a retried step comes to

The attempts at a step form a sequence: the step is executed once, and every further
attempt executes the whole path from the root in the world that the one before has left,
with the delay around it. A run makes attempts until one ends otherwise than with a
failed expectation or the budget is spent; the last of them decides. A run keeps what
this promises just if it can put into words what it says about the last attempt: the
label of a step that passed in the end, and what a failed expectation expected and
found.
-/

import DeferredSpec.Proofs.Delays
import DeferredSpec.Proofs.Histories
import DeferredSpec.Retry.Engine

namespace DeferredSpec

/-- Whether something ended with a failed expectation. -/
def failedExpectation {α : Type} (ended : Outcome α × Bench) : Bool :=
  match ended.1 with
  | .returned _ => false
  | .raised error => ended.2.world.isAssertionFailure error

namespace RetryEngine

section Attempts

variable (engine : RetryEngine) (tree : SpecTree) (address : Address)

/-- Whether the node at an address, or one above it, asks for retries. -/
def awaits : Bool :=
  (tree.root.trail address).any fun entry =>
    entry.2.isDescribedBy [shouldEventually] ||
      engine.eventualByDefault && entry.2.isDescribedBy [should]

/-- A further attempt: it is announced, and the delay is called with the whole path from
the root, which starts from nothing. -/
def retrial (number : Nat) : Execution Value := do
  logInfo (engine.announcement number)
  Effect.modify (Bench.happened .delayed)
  engine.delay.around (tree.executeAlong (tree.root.trail address) .null)

/-- A further attempt under a delay that may do anything: it is announced, and the delay is
called with the retry. -/
def endeavour (number : Nat) : Execution Value := do
  logInfo (engine.announcement number)
  engine.attemptRetry tree address

variable (node : ActionNode) (previous : Value) (bench : Bench)

/-- The attempts at a node under a delay that may do anything, each with the bench that it
leaves to the next. -/
def attempted : Nat → Outcome Value × Bench
  | 0 => tree.execute address node previous bench
  | number + 1 => engine.endeavour tree address (number + 1) (attempted number).2

/-- The number of the last attempt, if the first one is retried: the first that ends
otherwise than with a failed expectation, or the budget. -/
def decisive : Nat :=
  ((List.range' 1 engine.maxRetries).find? fun number =>
    !failedExpectation (engine.attempted tree address node previous bench number)).getD
      engine.maxRetries

/-- The attempts at a node, each with the bench that it leaves to the next. -/
def trial : Nat → Outcome Value × Bench
  | 0 => tree.execute address node previous bench
  | number + 1 => engine.retrial tree address (number + 1) (trial number).2

/-- How many retries are made: none, if the first attempt is not one to be retried, and
otherwise the budget, or less if an attempt before ends without a failed expectation. -/
def retries : Nat :=
  if failedExpectation (engine.trial tree address node previous bench 0) &&
      engine.awaits tree address then
    ((List.range' 1 engine.maxRetries).find? fun number =>
      !failedExpectation (engine.trial tree address node previous bench number)).getD
        engine.maxRetries
  else 0

end Attempts

/-- What is promised of a run. `count` retries were made; the first attempt and the last
ended as given. A value is returned as it is. A failed expectation is raised as a copy
with the final message. Any other error is raised itself, and has the first failure as
its cause if it was met in a retry and had no cause. -/
def Concludes (count : Nat) (first last ended : Outcome Value × Bench) : Prop :=
  match last.1 with
  | .returned value => ended.1 = .returned value
  | .raised error =>
      if last.2.world.isAssertionFailure error then
        ∃ final message, ended.1 = .raised final ∧
          ended.2.world.errorAt final =
            { last.2.world.errorAt error with arguments := [.text message] } ∧
          ∀ expected actual operator,
            (last.2.world.errorAt error).kind = .expectationFailed expected actual operator →
              SpecError.expectedActual (last.2.world.view expected) (last.2.world.view actual) =
                .ok message
      else
        ended.1 = .raised error ∧
          (error.index < last.2.world.errors.size →
            ended.2.world.errorAt error =
              { last.2.world.errorAt error with
                cause :=
                  if 0 < count ∧ last.2.world.isOrdinary error then
                    (last.2.world.errorAt error).cause.or first.1.error?
                  else (last.2.world.errorAt error).cause })

/-- Whether what a run says about the last attempt can be put into words. -/
def Expressible (node : ActionNode) (count : Nat) (last : Outcome Value × Bench) : Prop :=
  match last.1 with
  | .returned _ => 0 < count → (node.labelText last.2.world).1.isReturned
  | .raised error => ∀ expected actual operator,
      (last.2.world.errorAt error).kind = .expectationFailed expected actual operator →
        ∃ message, SpecError.expectedActual (last.2.world.view expected)
          (last.2.world.view actual) = .ok message

section Run

variable {engine : RetryEngine} {tree : SpecTree} {address : Address} {node : ActionNode}
  {previous : Value} {bench : Bench}

theorem isEventual_eq_awaits (complete : tree.losses = []) :
    engine.isEventual tree address = engine.awaits tree address := by
  rw [isEventual, awaits, SpecTree.isBelow, SpecTree.isBelow,
    SpecTree.trail_of_losses_eq_nil complete]
  induction tree.root.trail address with
  | nil => simp
  | cons entry rest ih =>
      simp only [List.any_cons, ← ih]
      cases engine.eventualByDefault <;> cases entry.2.isDescribedBy [shouldEventually] <;>
        simp [Bool.or_left_comm]

@[simp] theorem logInfo_apply (message : String) (bench : Bench) :
    logInfo message bench =
      (.returned (),
        { bench with world := bench.world.record ⟨infoLevel, retryLogger, message⟩ }) := rfl

/-- With a delay that runs the retry once, a further attempt is one run of the path. -/
theorem endeavour_eq_retrial (complete : tree.losses = []) (once : engine.delay.RunsOnce)
    (number : Nat) : engine.endeavour tree address number = engine.retrial tree address number := by
  funext bench
  rw [endeavour, retrial, attemptRetry, SpecTree.rerun, SpecTree.trail_of_losses_eq_nil complete]
  simp only [Effect.bind_apply, logInfo, Execution.ofAction_apply, Effect.modify_apply,
    Action.log, once.perform]
  rcases engine.delay.around _ _ with ⟨outcome, later⟩
  cases outcome <;> rfl

theorem attempted_eq_trial (complete : tree.losses = []) (once : engine.delay.RunsOnce)
    (number : Nat) :
    engine.attempted tree address node previous bench number =
      engine.trial tree address node previous bench number := by
  induction number with
  | zero => rw [attempted, trial]
  | succ number ih => rw [attempted, trial, ih, endeavour_eq_retrial complete once]

/-- What retrying ends with when an attempt is the last. A step that passed is told by its
label. -/
def wrapUp (engine : RetryEngine) (node : ActionNode) (number : Nat)
    (last : Outcome Value × Bench) : Outcome (Outcome Value) × Bench :=
  match last with
  | (.returned value, bench) =>
      (do
        let label ← Execution.ofAction node.labelText
        logInfo (engine.success number label)
        pure (Outcome.returned value) : Execution (Outcome Value)) bench
  | (.raised error, bench) =>
      if bench.world.isAssertionFailure error then (.returned (.raised error), bench)
      else if bench.world.isOrdinary error then
        (do
          logInfo (engine.surrender number)
          pure (Outcome.raised error) : Execution (Outcome Value)) bench
      else (.raised error, bench)

/-- Retrying goes on to the first attempt that ends otherwise than with a failed
expectation, or to the end of the budget. -/
theorem retryFrom_eq (remaining number : Nat)
    (failed : failedExpectation (engine.attempted tree address node previous bench number)) :
    engine.retryFrom tree address node remaining (number + 1)
        (engine.attempted tree address node previous bench number).1
        (engine.attempted tree address node previous bench number).2 =
      let last := ((List.range' (number + 1) remaining).find? fun later =>
        !failedExpectation (engine.attempted tree address node previous bench later)).getD
          (number + remaining)
      engine.wrapUp node last (engine.attempted tree address node previous bench last) := by
  induction remaining generalizing number with
  | zero =>
      rcases ended : engine.attempted tree address node previous bench number with ⟨outcome, later⟩
      rw [ended] at failed
      cases outcome with
      | returned value => cases failed
      | raised error =>
          have failure : later.world.isAssertionFailure error = true := failed
          simp [retryFrom, ended, wrapUp, failure]
  | succ remaining ih =>
      have next : engine.attempted tree address node previous bench (number + 1) =
          engine.endeavour tree address (number + 1)
            (engine.attempted tree address node previous bench number).2 := by
        rw [attempted]
      simp only [endeavour, Effect.bind_apply, logInfo_apply] at next
      have onward := ih (number + 1)
      rw [Nat.add_right_comm number 1 remaining, Nat.add_assoc number remaining 1] at onward
      rw [retryFrom, List.range'_succ, List.find?_cons]
      simp only [Effect.bind_apply, logInfo_apply]
      rw [Execution.capture_apply, ← next]
      rcases ended : engine.attempted tree address node previous bench (number + 1) with ⟨outcome, later⟩
      rw [ended] at onward
      cases outcome with
      | returned value =>
          have passed : failedExpectation ((.returned value, later) : Outcome Value × Bench) = false :=
            rfl
          simp only [passed, Bool.not_false, Option.getD_some, ended]
          rfl
      | raised error =>
          have same : failedExpectation ((.raised error, later) : Outcome Value × Bench) =
            later.world.isAssertionFailure error := rfl
          rw [same] at onward ⊢
          cases failure : later.world.isAssertionFailure error with
          | true =>
              have ordinary : later.world.isOrdinary error :=
                ErrorKind.isOrdinary_of_isAssertionFailure failure
              simp only [ordinary, if_true, Bool.not_true, Effect.bind_apply,
                FailureKind.ask_of_isAssertionFailure failure]
              exact onward failure
          | false =>
              simp only [Bool.not_false, Option.getD_some, ended, wrapUp, failure]
              cases ordinary : later.world.isOrdinary error with
              | true =>
                  simp only [if_true, Effect.bind_apply,
                    FailureKind.ask_of_not_isAssertionFailure failure]
                  rfl
              | false => rfl

/-- Every further attempt calls the delay once. -/
theorem trial_delays (number : Nat) :
    (engine.trial tree address node previous bench number).2.delays = bench.delays + number := by
  induction number with
  | zero =>
      rw [trial]
      exact tree.execute_delays address node previous bench
  | succ number ih =>
      rw [trial, retrial]
      simp only [Effect.bind_apply, logInfo_apply, Effect.modify_apply, Delay.around]
      rw [← Nat.add_assoc, ← ih]
      exact (tree.executeAlong_delays _ _ _).trans (Bench.delays_happened_delayed _)

/-- A failed expectation is raised in its final wording, if there is one. -/
theorem finish_concludes_iff {count : Nat} {first : Outcome Value × Bench} {error : ErrorRef}
    {bench : Bench} (failure : bench.world.isAssertionFailure error) :
    Concludes count first (.raised error, bench) (finish (.raised error) bench) ↔
      Expressible node count (.raised error, bench) := by
  obtain ⟨expected, actual, operator, kind⟩ := ErrorKind.isAssertionFailure_iff.mp failure
  rw [finish, Effect.bind_apply, Execution.ofAction_apply]
  simp only [Concludes, Expressible, failure, if_true]
  cases worded : SpecError.expectedActual (bench.world.view expected)
      (bench.world.view actual) with
  | ok message =>
      have stated : ∀ other found sign,
          (bench.world.errorAt error).kind = .expectationFailed other found sign →
            SpecError.expectedActual (bench.world.view other) (bench.world.view found) =
              .ok message := by
        intro other found sign same
        rw [kind] at same
        cases same
        exact worded
      rw [SpecError.reformatted_of_ok kind worded]
      constructor
      · exact fun _ other found sign same => ⟨message, stated other found sign same⟩
      · exact fun _ => ⟨_, message, rfl, World.errorAt_newError _ _, stated⟩
  | error reason =>
      constructor
      · rintro ⟨_, message, _, _, stated⟩
        rw [stated _ _ _ kind] at worded
        cases worded
      · intro expressible
        obtain ⟨message, stated⟩ := expressible _ _ _ kind
        rw [stated] at worded
        cases worded

theorem finish_delays (outcome : Outcome Value) (bench : Bench) :
    (finish outcome bench).2.delays = bench.delays := by
  cases outcome with
  | returned value => rfl
  | raised error =>
      rw [finish, Effect.bind_apply, Execution.ofAction_apply]
      cases (SpecError.reformatted error bench.world).1 <;> rfl

theorem mayRetry_apply (complete : tree.losses = []) (error : ErrorRef) (world : World) :
    engine.mayRetry tree address error world =
      (.returned (world.isAssertionFailure error && engine.awaits tree address), world) := by
  rw [mayRetry, Effect.bind_apply, FailureKind.ask, Effect.read_apply, FailureKind.classify]
  cases world.isAssertionFailure error with
  | true =>
      simp only [if_true, Bool.true_and, askEventual, SpecTree.require_of_losses_eq_nil complete,
        pure_bind, isEventual_eq_awaits complete]
      rfl
  | false => rfl

/-- What a run does with the last outcome of its retries. -/
def decide (first : ErrorRef) (last : Outcome Value) : Execution Value :=
  match last with
  | .returned value => pure value
  | .raised error => do
      match ← Execution.ofAction (FailureKind.ask error) with
      | .assertion => finish (.raised error)
      | .other => do
          Execution.ofAction (keepCause error first)
          Effect.raise error

theorem expressible_of_other {count : Nat} {error : ErrorRef} {later : Bench}
    (other : later.world.isAssertionFailure error = false) :
    Expressible node count (.raised error, later) := by
  intro expected actual operator kind
  rw [World.isAssertionFailure, kind] at other
  cases other

/-- The world in which an error has its cause, or else the given one. -/
def keptCause (error cause : ErrorRef) (world : World) : World :=
  match (world.errorAt error).cause with
  | some _ => world
  | none => world.setCause error cause

theorem keepCause_apply (error cause : ErrorRef) (world : World) :
    keepCause error cause world = (.returned (), keptCause error cause world) := by
  rw [keepCause, Effect.bind_apply, Effect.read_apply, keptCause]
  dsimp only
  cases (world.errorAt error).cause <;> rfl

theorem errorAt_keptCause {error cause : ErrorRef} {world : World}
    (placed : error.index < world.errors.size) :
    (keptCause error cause world).errorAt error =
      { world.errorAt error with cause := (world.errorAt error).cause.or (some cause) } := by
  unfold keptCause
  split
  next known held => rw [held, Option.some_or, ← held]
  next held =>
    rw [held]
    simp [World.setCause, World.errorAt, placed]

/-- How a run that retried ends, given the last attempt. -/
def settle (engine : RetryEngine) (node : ActionNode) (count : Nat) (first : ErrorRef)
    (last : Outcome Value × Bench) : Outcome Value × Bench :=
  match engine.wrapUp node count last with
  | (.returned outcome, bench) => decide first outcome bench
  | (.raised error, bench) => (.raised error, bench)

/-- An attempt that failed otherwise than by an assertion raises its error, with the first
failure as its cause unless it has one. -/
theorem settle_of_other (engine : RetryEngine) (node : ActionNode) (count : Nat)
    (first : ErrorRef) {error : ErrorRef} {bench : Bench}
    (other : bench.world.isAssertionFailure error = false)
    (ordinary : bench.world.isOrdinary error) :
    engine.settle node count first (.raised error, bench) =
      (.raised error,
        { bench with
          world := keptCause error first
            (bench.world.record ⟨infoLevel, retryLogger, engine.surrender count⟩) }) := by
  generalize messages : bench.world.record
    ⟨infoLevel, retryLogger, engine.surrender count⟩ = told
  have wraps : engine.wrapUp node count (.raised error, bench) =
      (.returned (.raised error), { bench with world := told }) := by
    simp only [wrapUp, other, ordinary, if_true, ← messages]
    rfl
  have toldOther : told.isAssertionFailure error = false := by
    rw [← messages]
    exact other
  rw [settle, wraps]
  simp only [decide]
  rw [Effect.bind_apply, FailureKind.ask_of_not_isAssertionFailure toldOther]
  simp only [Effect.bind_apply, Execution.ofAction_apply, keepCause_apply]
  rfl

/-- An error that no handler takes ends a run at once. -/
theorem settle_of_stopping (engine : RetryEngine) (node : ActionNode) (count : Nat)
    (first : ErrorRef) {error : ErrorRef} {bench : Bench}
    (stopping : bench.world.isOrdinary error = false) :
    engine.settle node count first (.raised error, bench) = (.raised error, bench) := by
  have other : bench.world.isAssertionFailure error = false :=
    Bool.eq_false_iff.mpr fun failure => by
      have ordinary : bench.world.isOrdinary error :=
        ErrorKind.isOrdinary_of_isAssertionFailure failure
      rw [ordinary] at stopping
      cases stopping
  simp [settle, wrapUp, other, stopping]

/-- A run that retried keeps the promise if what is said of the last attempt has words. -/
theorem settle_concludes_iff {count : Nat} {first : ErrorRef} {later : Bench}
    {last : Outcome Value × Bench} (retried : failedExpectation last ∨ 0 < count) :
    (engine.settle node count first last).2.delays = last.2.delays ∧
      (Concludes count (.raised first, later) last (engine.settle node count first last) ↔
        Expressible node count last) := by
  obtain ⟨outcome, bench⟩ := last
  cases outcome with
  | returned value =>
      have some : 0 < count := retried.resolve_left (fun failed => by cases failed)
      simp only [settle, wrapUp, Effect.bind_apply, Execution.ofAction_apply, Concludes,
        Expressible, some]
      rcases node.labelText bench.world with ⟨told, after⟩
      cases told with
      | returned label => exact ⟨rfl, by simp [Outcome.isReturned, decide]⟩
      | raised error => exact ⟨rfl, by simp [Outcome.isReturned]⟩
  | raised error =>
      cases failure : bench.world.isAssertionFailure error with
      | true =>
          simp only [settle, wrapUp, failure, if_true, decide, Effect.bind_apply,
            FailureKind.ask_of_isAssertionFailure failure]
          exact ⟨finish_delays _ _, finish_concludes_iff failure⟩
      | false =>
          have expressible : Expressible node count (.raised error, bench) :=
            expressible_of_other failure
          have some : 0 < count :=
            retried.resolve_left (fun failed => by simp [failedExpectation, failure] at failed)
          simp only [expressible, iff_true, Concludes, failure, Bool.false_eq_true, if_false]
          cases ordinary : bench.world.isOrdinary error with
          | false =>
              rw [settle_of_stopping engine node count first ordinary]
              exact ⟨rfl, rfl, fun _ => by simp⟩
          | true =>
              rw [settle_of_other engine node count first failure ordinary]
              refine ⟨rfl, rfl, fun placed => ?_⟩
              simp only [some, and_self, if_true, Outcome.error?]
              exact errorAt_keptCause placed

/-- A run that may retry wraps up with its last attempt, whatever the delay does. -/
theorem run_of_mayRetry {first : ErrorRef} {later : Bench}
    (started : tree.execute address node previous bench = (.raised first, later))
    (failure : later.world.isAssertionFailure first)
    (retried : engine.mayRetry tree address first later.world = (.returned true, later.world)) :
    engine.run tree address node previous bench =
      engine.settle node (engine.decisive tree address node previous bench) first
        (engine.attempted tree address node previous bench
          (engine.decisive tree address node previous bench)) := by
  have ordinary : later.world.isOrdinary first :=
    ErrorKind.isOrdinary_of_isAssertionFailure failure
  have initial : engine.attempted tree address node previous bench 0 = (.raised first, later) := by
    rw [attempted, started]
  have failed : failedExpectation (engine.attempted tree address node previous bench 0) := by
    rw [initial]
    exact failure
  have onward := retryFrom_eq engine.maxRetries 0 failed
  simp only [Nat.zero_add] at onward
  rw [initial] at onward
  rw [run, Effect.bind_apply, Execution.capture_apply, started]
  simp only [ordinary, if_true, Effect.bind_apply, Execution.ofAction_apply, retried, onward,
    settle, decisive]
  rcases engine.wrapUp node _ _ with ⟨outcome, after⟩
  cases outcome with
  | raised error => rfl
  | returned last => cases last <;> rfl

/-- A run that retries wraps up with its last attempt. -/
theorem run_of_retried (complete : tree.losses = []) (once : engine.delay.RunsOnce)
    {first : ErrorRef} {later : Bench}
    (started : engine.trial tree address node previous bench 0 = (.raised first, later))
    (failure : later.world.isAssertionFailure first) (awaits : engine.awaits tree address) :
    engine.run tree address node previous bench =
      engine.settle node (engine.retries tree address node previous bench) first
        (engine.trial tree address node previous bench
          (engine.retries tree address node previous bench)) := by
  have failed : failedExpectation (engine.trial tree address node previous bench 0) := by
    rw [started]
    exact failure
  have count : engine.retries tree address node previous bench =
      engine.decisive tree address node previous bench := by
    simp only [retries, failed, awaits, Bool.and_self, if_true, decisive,
      attempted_eq_trial complete once]
  rw [count, ← attempted_eq_trial complete once]
  rw [trial] at started
  refine run_of_mayRetry started failure ?_
  rw [mayRetry_apply complete, failure, awaits]
  rfl

/-- How a run that does not retry ends, given the only attempt. -/
def accept (started : Outcome Value × Bench) : Outcome Value × Bench :=
  match started with
  | (.returned value, bench) => (.returned value, bench)
  | (.raised error, bench) =>
      if bench.world.isOrdinary error then finish (.raised error) bench
      else (.raised error, bench)

theorem run_of_unretried (complete : tree.losses = []) {started : Outcome Value × Bench}
    (executed : tree.execute address node previous bench = started)
    (unretried : (failedExpectation started && engine.awaits tree address) = false) :
    engine.run tree address node previous bench = accept started := by
  obtain ⟨outcome, later⟩ := started
  rw [run, Effect.bind_apply, Execution.capture_apply, executed]
  cases outcome with
  | returned value => rfl
  | raised error =>
      have declined : (later.world.isAssertionFailure error && engine.awaits tree address) = false :=
        unretried
      cases ordinary : later.world.isOrdinary error with
      | false => simp [accept, ordinary]
      | true =>
          simp only [if_true, Effect.bind_apply, Execution.ofAction_apply,
            mayRetry_apply complete, declined, accept, ordinary]
          rfl

theorem finish_of_other {error : ErrorRef} {later : Bench}
    (other : later.world.isAssertionFailure error = false) :
    finish (.raised error) later = (.raised error, later) := by
  rw [finish, Effect.bind_apply, Execution.ofAction_apply, SpecError.reformatted_of_other other]
  rfl

/-- A run whose first attempt is not retried keeps the promise if what is said of that
attempt has words. -/
theorem unretried_concludes_iff (complete : tree.losses = [])
    {started : Outcome Value × Bench}
    (executed : tree.execute address node previous bench = started)
    (unretried : (failedExpectation started && engine.awaits tree address) = false) :
    (engine.run tree address node previous bench).2.delays = started.2.delays ∧
      (Concludes 0 started started (engine.run tree address node previous bench) ↔
        Expressible node 0 started) := by
  obtain ⟨outcome, later⟩ := started
  rw [run_of_unretried complete executed unretried]
  cases outcome with
  | returned value => simp [accept, Concludes, Expressible]
  | raised error =>
      cases failure : later.world.isAssertionFailure error with
      | true =>
          have ordinary : later.world.isOrdinary error :=
            ErrorKind.isOrdinary_of_isAssertionFailure failure
          simp only [accept, ordinary, if_true]
          exact ⟨finish_delays _ _, finish_concludes_iff failure⟩
      | false =>
          have expressible : Expressible node 0 (.raised error, later) :=
            expressible_of_other failure
          simp only [accept, finish_of_other failure, ite_self, expressible, iff_true]
          simp [Concludes, failure]

/-- What a run with a delay that runs the retry once comes to: the delay is called once for
each retry, and the outcome of the last attempt is what the run ends with, just if what is
said of that attempt can be put into words. -/
theorem run_concludes_iff (complete : tree.losses = []) (once : engine.delay.RunsOnce) :
    (engine.run tree address node previous bench).2.delays =
        bench.delays + engine.retries tree address node previous bench ∧
      (Concludes (engine.retries tree address node previous bench)
          (engine.trial tree address node previous bench 0)
          (engine.trial tree address node previous bench
            (engine.retries tree address node previous bench))
          (engine.run tree address node previous bench) ↔
        Expressible node (engine.retries tree address node previous bench)
          (engine.trial tree address node previous bench
            (engine.retries tree address node previous bench))) := by
  cases eligible : failedExpectation (engine.trial tree address node previous bench 0) &&
      engine.awaits tree address with
  | false =>
      have none : engine.retries tree address node previous bench = 0 := by
        rw [retries, eligible]
        rfl
      rw [none, Nat.add_zero]
      have first : engine.trial tree address node previous bench 0 =
        tree.execute address node previous bench := by rw [trial]
      have delays := tree.execute_delays address node previous bench
      rw [first] at eligible ⊢
      rw [← delays]
      exact unretried_concludes_iff complete rfl eligible
  | true =>
      obtain ⟨failed, awaits⟩ := Bool.and_eq_true_iff.mp eligible
      rcases started : engine.trial tree address node previous bench 0 with ⟨outcome, later⟩
      rw [started] at failed
      cases outcome with
      | returned value => cases failed
      | raised first =>
          rw [run_of_retried complete once started failed awaits, ← trial_delays]
          refine settle_concludes_iff ?_
          rcases Nat.eq_zero_or_pos (engine.retries tree address node previous bench) with
            none | some
          · rw [none, started]
            exact .inl failed
          · exact .inr some

/-- A subject that is executed once. -/
theorem run_concludes_iff_of_subject :
    let engine : RetryEngine := ⟨1, .immediate, false⟩
    let tree := SpecTree.subject "five" (pure (.integer 5))
    let node := tree.root.here
    tree.losses = [] ∧ engine.delay.RunsOnce ∧
      (engine.run tree [] node .null {}).2.delays =
        (default : Bench).delays + engine.retries tree [] node .null {} ∧
      (Concludes (engine.retries tree [] node .null {}) (engine.trial tree [] node .null {} 0)
          (engine.trial tree [] node .null {} (engine.retries tree [] node .null {}))
          (engine.run tree [] node .null {}) ↔
        Expressible node (engine.retries tree [] node .null {})
          (engine.trial tree [] node .null {} (engine.retries tree [] node .null {}))) :=
  ⟨rfl, Delay.immediate_runsOnce, run_concludes_iff rfl Delay.immediate_runsOnce⟩

end Run

/-- The expectation that something is three. It was called with an object that displays no
text. -/
def unwritableStep : ActionNode where
  description := .text "equal"
  step := fun _ previous =>
    match previous with
    | .integer 3 => pure previous
    | other => do
        let error ← SpecError.expectationFailed (.text "") (.integer 3) other .null
        Effect.raise error
  variant := .chainStep
  arguments := some [.object ⟨0⟩]

/-- A subject that makes three, with the expectation below an eventual entry. -/
def unwritableTree : SpecTree where
  root :=
    .node
      { description := .text "count", step := fun _ _ => pure (.integer 3), variant := .group }
      [.node
        { description := .text shouldEventually, step := fun _ previous => pure previous,
          variant := .leafCase }
        [.single unwritableStep]]

/-- The bench with the object that displays no text. -/
def unwritableBench : Bench where
  world :=
    { objects := #[{ className := "Tricky", fields := [], texts := [], shown := [],
                     misfit := some "int" }] }

/-- An expectation that holds at the first retry is reported as failed, for its label
cannot be composed. -/
theorem run_breaks_promise :
    let engine : RetryEngine := ⟨1, .immediate, false⟩
    let retries := engine.retries unwritableTree [0, 0] unwritableStep (.integer 0) unwritableBench
    let trial := engine.trial unwritableTree [0, 0] unwritableStep (.integer 0) unwritableBench
    unwritableTree.losses = [] ∧ engine.delay.RunsOnce ∧
      unwritableTree.root.subtree? [0, 0] = some (.single unwritableStep) ∧
      ¬ Concludes retries (trial 0) (trial retries)
          (engine.run unwritableTree [0, 0] unwritableStep (.integer 0) unwritableBench) := by
  intro engine retries trial
  have count : retries = 1 := rfl
  have passed : (trial 1).1 = .returned (.integer 3) := rfl
  have failed : (engine.run unwritableTree [0, 0] unwritableStep (.integer 0)
      unwritableBench).1.isReturned = false := by decide +kernel
  refine ⟨rfl, Delay.immediate_runsOnce, rfl, fun concludes => ?_⟩
  rw [count] at concludes
  simp only [Concludes, passed] at concludes
  rw [concludes] at failed
  cases failed

end RetryEngine

end DeferredSpec
