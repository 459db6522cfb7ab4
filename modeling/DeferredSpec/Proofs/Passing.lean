/-
# What passes under a delay that may do anything

A delay may run the retry it is handed once, several times or not at all, keep errors of the retry
to itself, and raise errors of its own. All that it cannot do is to make up a result: an attempt
passes just with what the last completed run of the retry in it has returned, and such a run ends
with an execution of the step itself. So a step that passes has passed on its own account, and the
delay is called no more often than the budget allows.
-/

import DeferredSpec.Proofs.Masking
import DeferredSpec.Proofs.Nodes
import DeferredSpec.Proofs.Titles

namespace DeferredSpec

/-- The returned value, if there is one. -/
def Outcome.value? {α : Type} : Outcome α → Option α
  | .returned value => some value
  | .raised _ => none

namespace Delay

variable {α : Type}

/-- The runs of a retry that a delay makes, in order, each with the bench that it leaves. -/
def runs (retry : Execution α) : Delay → Bench → List (Outcome α × Bench)
  | .finish, _ => []
  | .act action next, bench =>
      match action bench.world with
      | (.returned _, world) => runs retry next { bench with world }
      | (.raised _, _) => []
  | .look next, bench => runs retry (next bench.world) bench
  | .callback next, bench =>
      retry bench :: runs retry (next (retry bench).1.error?) (retry bench).2

/-- What the last of several runs that has returned has returned. -/
def lastReturned (made : List (Outcome α × Bench)) : Option α :=
  (made.filterMap fun run => run.1.value?).getLast?

theorem lastReturned_cons (run : Outcome α × Bench) (made : List (Outcome α × Bench)) :
    lastReturned (run :: made) = (lastReturned made).or run.1.value? := by
  rw [lastReturned, List.filterMap_cons]
  cases run.1.value? with
  | none => rw [Option.or_none, lastReturned]
  | some value => rw [List.getLast?_cons, lastReturned]; cases List.getLast? _ <;> rfl

/-- Behind the last run that has returned there are none but failed ones. -/
theorem exists_of_lastReturned {made : List (Outcome α × Bench)} {value : α}
    (last : lastReturned made = some value) :
    ∃ earlier run later, made = earlier ++ run :: later ∧ run.1 = .returned value ∧
      ∀ other ∈ later, other.1.isReturned = false := by
  induction made with
  | nil => cases last
  | cons run made ih =>
      rw [lastReturned_cons] at last
      cases behind : lastReturned made with
      | some other =>
          rw [behind] at last
          cases last
          obtain ⟨earlier, final, later, rfl, returned, failed⟩ := ih behind
          exact ⟨run :: earlier, final, later, rfl, returned, failed⟩
      | none =>
          rw [behind, Option.none_or] at last
          refine ⟨[], run, made, rfl, ?_, fun other member => ?_⟩
          · rcases run with ⟨outcome, bench⟩
            cases outcome <;> cases last
            rfl
          · rw [lastReturned, List.getLast?_eq_none_iff, List.filterMap_eq_nil_iff] at behind
            have none := behind other member
            rcases other with ⟨outcome, bench⟩
            cases outcome with
            | returned value => cases none
            | raised error => rfl

/-- Every run of the retry is the retry, begun on some bench. -/
theorem exists_of_mem_runs {retry : Execution α} {delay : Delay} {bench : Bench}
    {run : Outcome α × Bench} (member : run ∈ delay.runs retry bench) :
    ∃ start, run = retry start := by
  induction delay generalizing bench with
  | finish => cases member
  | act action next ih =>
      rw [runs] at member
      split at member
      · exact ih member
      · cases member
  | look next ih => exact ih bench.world member
  | callback next ih =>
      rw [runs] at member
      rcases List.mem_cons.mp member with rfl | later
      · exact ⟨bench, rfl⟩
      · exact ih _ later

/-- A delay that ends without an error ends with what the last completed run has returned. -/
theorem eq_lastReturned_of_perform {retry : Execution α} {delay : Delay}
    {latest final : Option α} {bench later : Bench}
    (ended : delay.perform retry latest bench = (.returned final, later)) :
    final = (lastReturned (delay.runs retry bench)).or latest := by
  induction delay generalizing latest bench with
  | finish =>
      cases ended
      rfl
  | act action next ih =>
      obtain ⟨_, middle, acted, onward⟩ := Effect.bind_eq_returned_iff.mp ended
      rw [Execution.ofAction_apply] at acted
      rcases done : action bench.world with ⟨outcome, world⟩
      rw [done] at acted
      cases acted
      rw [runs, done]
      exact ih onward
  | look next ih => exact ih bench.world ended
  | callback next ih =>
      rw [perform, Effect.bind_apply, Effect.attempt_apply] at ended
      rw [runs, lastReturned_cons, Option.or_assoc]
      rcases tried : retry bench with ⟨outcome, middle⟩
      rw [tried] at ended
      cases outcome with
      | returned value => exact ih none ended
      | raised error => exact ih (some error) ended

/-- A delay calls no further delay if the retry calls none. -/
theorem delays_perform {retry : Execution α}
    (quiet : ∀ bench, (retry bench).2.delays = bench.delays) (delay : Delay) (latest : Option α)
    (bench : Bench) : (delay.perform retry latest bench).2.delays = bench.delays := by
  induction delay generalizing latest bench with
  | finish => rfl
  | act action next ih =>
      rw [perform, Effect.bind_apply, Execution.ofAction_apply]
      cases (action bench.world).1 with
      | returned _ => exact ih latest _
      | raised error => rfl
  | look next ih => exact ih bench.world latest bench
  | callback next ih =>
      rw [perform, Effect.bind_apply, Effect.attempt_apply]
      have before := quiet bench
      rcases tried : retry bench with ⟨outcome, middle⟩
      rw [tried] at before
      cases outcome with
      | returned value => exact (ih none (some value) middle).trans before
      | raised error => exact (ih (some error) latest middle).trans before

end Delay

namespace SpecTree

variable {tree : SpecTree} {address : Address} {node : ActionNode}

theorem fromLast_concat {α : Type} (test : α → Bool) (entries : List α) (last : α) :
    fromLast test (entries ++ [last]) =
      if test last then [last] else fromLast test entries ++ [last] := by
  induction entries with
  | nil => simp [fromLast]
  | cons entry entries ih =>
      rw [List.cons_append, fromLast, fromLast, List.any_append, ih]
      by_cases met : test last
      · simp [met]
      · cases before : entries.any test <;> simp [met]

/-- The way to a node ends with the node, also where part of the way above it is lost. -/
theorem exists_trail_concat (known : tree.root.nodeAt? address = some node) :
    ∃ above, tree.trail address = above ++ [(address, node)] := by
  have whole : ∃ above, tree.root.trail address = above ++ [(address, node)] := by
    rcases List.eq_nil_or_concat address with rfl | ⟨parent, index, rfl⟩
    · cases known
      exact ⟨[], rfl⟩
    · rw [List.concat_eq_append] at known ⊢
      obtain ⟨found, located, rfl⟩ := ActionTree.exists_subtree? known
      obtain ⟨around, above, listed⟩ := ActionTree.exists_parent located
      exact ⟨_, ActionTree.trail_concat above listed⟩
  obtain ⟨above, same⟩ := whole
  rw [trail, same, fromLast_concat]
  split
  · exact ⟨[], rfl⟩
  · exact ⟨_, rfl⟩

theorem delays_rerun (tree : SpecTree) (address : Address) (bench : Bench) :
    (tree.rerun address bench).2.delays = bench.delays :=
  tree.executeAlong_delays _ _ bench

/-- The last of several nodes executed in turn gives the result. -/
theorem exists_previous_of_executeAlong {above : List (Address × ActionNode)}
    {previous value : Value} {bench later : Bench}
    (ended : tree.executeAlong (above ++ [(address, node)]) previous bench =
      (.returned value, later)) :
    ∃ result middle, tree.execute address node result middle = (.returned value, later) := by
  induction above generalizing previous bench with
  | nil =>
      obtain ⟨result, left, executed, finished⟩ := Effect.bind_eq_returned_iff.mp ended
      cases finished
      exact ⟨previous, bench, executed⟩
  | cons entry above ih =>
      obtain ⟨result, left, _, onward⟩ := Effect.bind_eq_returned_iff.mp ended
      exact ih onward

/-- A rerun that returns ends with an execution of the node, and returns the result of it. -/
theorem back?_history_of_rerun (known : tree.root.nodeAt? address = some node) {value : Value}
    {bench later : Bench} (ended : tree.rerun address bench = (.returned value, later)) :
    ∃ previous, later.history.back? = some (.executed address previous (.returned value)) := by
  obtain ⟨above, way⟩ := exists_trail_concat known
  rw [rerun, way] at ended
  obtain ⟨previous, middle, executed⟩ := exists_previous_of_executeAlong ended
  have added := tree.execute_history address node previous middle
  rw [executed] at added
  exact ⟨previous, by rw [added, Array.back?_push]⟩

end SpecTree

namespace RetryEngine

variable (engine : RetryEngine) (tree : SpecTree) (address : Address)

/-- The runs of the retry that the delay makes in a further attempt. -/
def callbacks (number : Nat) (bench : Bench) : List (Outcome Value × Bench) :=
  engine.delay.runs (tree.rerun address)
    ((logInfo (engine.announcement number) bench).2.happened .delayed)

/-- The last run of a retry that was completed returned a value, which is the result of an
execution of the node at the address. -/
def CompletedLast (address : Address) (value : Value) (made : List (Outcome Value × Bench)) :
    Prop :=
  ∃ earlier run later, made = earlier ++ run :: later ∧ run.1 = .returned value ∧
    (∃ previous, run.2.history.back? = some (.executed address previous (.returned value))) ∧
    ∀ other ∈ later, other.1.isReturned = false

variable {engine tree address} {node : ActionNode} {previous : Value} {bench : Bench}

/-- An attempt passes with what the last completed run of the retry has returned. -/
theorem lastReturned_of_endeavour {number : Nat} {value : Value}
    (passed : (engine.endeavour tree address number bench).1 = .returned value) :
    Delay.lastReturned (engine.callbacks tree address number bench) = some value := by
  have ended := Effect.apply_of_outcome passed
  obtain ⟨_, _, announced, tried⟩ := Effect.bind_eq_returned_iff.mp ended
  cases announced
  obtain ⟨_, _, called, tried⟩ := Effect.bind_eq_returned_iff.mp tried
  cases called
  obtain ⟨latest, _, performed, finished⟩ := Effect.bind_eq_returned_iff.mp tried
  have last := Delay.eq_lastReturned_of_perform performed
  rw [Option.or_none] at last
  cases latest with
  | none => cases finished
  | some found =>
      cases finished
      exact last.symm

/-- Every further attempt calls the delay once, however it ends. -/
theorem delays_endeavour (number : Nat) (bench : Bench) :
    (engine.endeavour tree address number bench).2.delays = bench.delays + 1 := by
  have performed := Delay.delays_perform (tree.delays_rerun address) engine.delay none
    ((logInfo (engine.announcement number) bench).2.happened .delayed)
  rw [Bench.delays_happened_delayed] at performed
  simp only [logInfo_apply] at performed
  simp only [endeavour, attemptRetry, Effect.bind_apply, logInfo_apply, Effect.modify_apply]
  generalize engine.delay.perform (tree.rerun address) none _ = ended at performed ⊢
  obtain ⟨outcome, later⟩ := ended
  cases outcome with
  | raised error => exact performed
  | returned latest => cases latest <;> exact performed

theorem delays_attempted (number : Nat) :
    (engine.attempted tree address node previous bench number).2.delays =
      bench.delays + number := by
  induction number with
  | zero =>
      rw [attempted]
      exact tree.execute_delays address node previous bench
  | succ number ih => rw [attempted, delays_endeavour, ih, Nat.add_assoc]

theorem decisive_le : engine.decisive tree address node previous bench ≤ engine.maxRetries := by
  rw [decisive]
  cases found : (List.range' 1 engine.maxRetries).find? _ with
  | none => exact Nat.le_refl _
  | some number =>
      have member := List.mem_range'_1.mp (List.mem_of_find?_eq_some found)
      rw [Option.getD_some]
      omega

/-- Before the last attempt there are none but failed expectations. -/
theorem failedExpectation_of_lt_decisive
    (failed : failedExpectation (engine.attempted tree address node previous bench 0))
    {number : Nat} (earlier : number < engine.decisive tree address node previous bench) :
    failedExpectation (engine.attempted tree address node previous bench number) := by
  rcases Nat.eq_zero_or_pos number with rfl | further
  · exact failed
  · rw [decisive] at earlier
    cases found : (List.range' 1 engine.maxRetries).find? _ with
    | none =>
        rw [found, Option.getD_none] at earlier
        rw [List.find?_eq_none] at found
        simpa using found number (List.mem_range'_1.mpr ⟨further, Nat.lt_add_left 1 earlier⟩)
    | some last =>
        rw [found, Option.getD_some] at earlier
        simpa using (List.find?_range'_eq_some.mp found).2.2 number further earlier

open Execution (IsUnrecorded)

theorem isUnrecorded_finish (outcome : Outcome Value) : IsUnrecorded (finish outcome) := by
  cases outcome with
  | returned value => exact .pure value
  | raised error => exact (IsUnrecorded.ofAction _).bind fun _ _ => rfl

theorem isUnrecorded_decide (first : ErrorRef) (last : Outcome Value) :
    IsUnrecorded (decide first last) := by
  cases last with
  | returned value => exact .pure value
  | raised error =>
      refine (IsUnrecorded.ofAction _).bind fun kind => ?_
      cases kind with
      | assertion => exact isUnrecorded_finish _
      | other => exact (IsUnrecorded.ofAction _).bind fun _ _ => rfl

/-- Settling executes nothing. -/
theorem history_settle (engine : RetryEngine) (node : ActionNode) (count : Nat) (first : ErrorRef)
    (last : Outcome Value × Bench) :
    (engine.settle node count first last).2.history = last.2.history := by
  have wrapped : (engine.wrapUp node count last).2.history = last.2.history := by
    rcases last with ⟨outcome, bench⟩
    cases outcome with
    | returned value =>
        exact ((IsUnrecorded.ofAction _).bind fun _ =>
          (IsUnrecorded.ofAction _).bind fun _ => .pure _) bench
    | raised error =>
        rw [wrapUp]
        split
        · rfl
        · split
          · exact ((IsUnrecorded.ofAction _).bind fun _ => .pure _) bench
          · rfl
  rw [settle]
  generalize engine.wrapUp node count last = ended at wrapped
  obtain ⟨outcome, bench⟩ := ended
  cases outcome with
  | returned outcome => exact (isUnrecorded_decide first outcome bench).trans wrapped
  | raised error => exact wrapped

/-- To put a failed expectation into words is not to pass. -/
theorem not_isReturned_finish (error : ErrorRef) (bench : Bench) :
    (finish (.raised error) bench).1.isReturned = false := by
  rw [finish, Effect.bind_apply, Execution.ofAction_apply]
  cases (SpecError.reformatted error bench.world).1 <;> rfl

/-- What is returned in the end is what the last attempt has returned. -/
theorem eq_returned_of_settle {count : Nat} {first : ErrorRef} {last : Outcome Value × Bench}
    {value : Value} (settled : (engine.settle node count first last).1 = .returned value) :
    last.1 = .returned value := by
  rcases last with ⟨outcome, there⟩
  cases outcome with
  | returned found =>
      simp only [settle, wrapUp, Effect.bind_apply, Execution.ofAction_apply] at settled
      generalize node.labelText there.world = told at settled
      obtain ⟨label, after⟩ := told
      cases label with
      | returned label => exact settled
      | raised error => cases settled
  | raised error =>
      cases ordinary : there.world.isOrdinary error with
      | false =>
          rw [settle_of_stopping engine node count first ordinary] at settled
          cases settled
      | true =>
          cases failure : there.world.isAssertionFailure error with
          | false =>
              rw [settle_of_other engine node count first failure ordinary] at settled
              cases settled
          | true =>
              have failed := not_isReturned_finish error there
              simp only [settle, wrapUp, failure, if_true, decide, Effect.bind_apply,
                FailureKind.ask_of_isAssertionFailure failure] at settled
              rw [settled] at failed
              cases failed

/-- Whether a failure is retried is told without touching anything. -/
theorem onlyAsks_mayRetry (error : ErrorRef) :
    Action.OnlyAsks (engine.mayRetry tree address error) := by
  refine (Action.OnlyAsks.read _).bind fun kind => ?_
  cases kind with
  | assertion =>
      exact (tree.onlyAsks_require address _ _).bind fun _ => Action.OnlyAsks.pure _
  | other => exact Action.OnlyAsks.pure false

/-- A run passes at once, or settles its retries, or fails with nothing further executed. -/
theorem run_cases (engine : RetryEngine) (tree : SpecTree) (address : Address) (node : ActionNode)
    (previous : Value) (bench : Bench) :
    let started := tree.execute address node previous bench
    let ended := engine.run tree address node previous bench
    let last := engine.decisive tree address node previous bench
    (started.1.isReturned ∧ ended = started) ∨
      (failedExpectation started ∧ ∃ first, ended =
        engine.settle node last first (engine.attempted tree address node previous bench last)) ∨
      (ended.1.isReturned = false ∧ ended.2.history = started.2.history) := by
  intro started ended last
  rcases executed : tree.execute address node previous bench with ⟨outcome, later⟩
  have begun : started = (outcome, later) := executed
  cases outcome with
  | returned value =>
      refine .inl ⟨by rw [begun]; rfl, ?_⟩
      rw [begun]
      simp only [ended, run, Effect.bind_apply, Execution.capture_apply, executed]
      rfl
  | raised first =>
      rw [begun]
      right
      cases ordinary : later.world.isOrdinary first with
      | false =>
          refine .inr ?_
          simp only [ended, run, Effect.bind_apply, Execution.capture_apply, executed, ordinary]
          exact ⟨rfl, rfl⟩
      | true =>
          rcases asked : engine.mayRetry tree address first later.world with ⟨answer, after⟩
          cases answer with
          | raised error =>
              refine .inr ?_
              simp only [ended, run, Effect.bind_apply, Execution.capture_apply, executed, ordinary,
                if_true, Execution.ofAction_apply, asked, and_true]
              rfl
          | returned retries =>
              obtain rfl := onlyAsks_mayRetry first _ _ _ asked
              cases retries with
              | true =>
                  have failure := isAssertionFailure_of_mayRetry asked
                  exact .inl ⟨failure, first, run_of_mayRetry executed failure asked⟩
              | false =>
                  refine .inr ?_
                  simp only [ended, run, Effect.bind_apply, Execution.capture_apply, executed,
                    ordinary, if_true, Execution.ofAction_apply, asked]
                  exact ⟨not_isReturned_finish first later,
                    isUnrecorded_finish (.raised first) later⟩

/-- What holds of a run under whatever delay. -/
structure PassesOnlyResults (engine : RetryEngine) (tree : SpecTree) (address : Address)
    (node : ActionNode) (previous : Value) (bench : Bench) : Prop where
  /-- The delay is called no more often than the budget allows. -/
  bounded : (engine.run tree address node previous bench).2.delays ≤
    bench.delays + engine.maxRetries
  /-- An attempt in which no run of the retry is completed does not pass. -/
  unmet : ∀ number,
    (∀ run ∈ engine.callbacks tree address (number + 1)
        (engine.attempted tree address node previous bench number).2, run.1.isReturned = false) →
      (engine.attempted tree address node previous bench (number + 1)).1.isReturned = false
  /-- What is returned is the result of the first execution, or else that of the last completed
  run of the retry in the attempt that ends the loop, behind none but failed expectations. -/
  result : ∀ value, (engine.run tree address node previous bench).1 = .returned value →
    engine.run tree address node previous bench = tree.execute address node previous bench ∨
      ∃ number < engine.maxRetries,
        (∀ earlier ≤ number,
          failedExpectation (engine.attempted tree address node previous bench earlier)) ∧
        (engine.attempted tree address node previous bench (number + 1)).1 = .returned value ∧
        (engine.run tree address node previous bench).2.history =
          (engine.attempted tree address node previous bench (number + 1)).2.history ∧
        CompletedLast address value (engine.callbacks tree address (number + 1)
          (engine.attempted tree address node previous bench number).2)

/-- A run executes what one of the attempts within the budget has executed in all. -/
theorem exists_history_run (engine : RetryEngine) (tree : SpecTree) (address : Address)
    (node : ActionNode) (previous : Value) (bench : Bench) :
    ∃ number ≤ engine.maxRetries,
      (engine.run tree address node previous bench).2.history =
        (engine.attempted tree address node previous bench number).2.history := by
  rcases engine.run_cases tree address node previous bench with
    ⟨_, same⟩ | ⟨_, first, settled⟩ | ⟨_, same⟩
  · exact ⟨0, Nat.zero_le _, congrArg (·.2.history) same⟩
  · exact ⟨_, decisive_le,
      (congrArg (·.2.history) settled).trans (history_settle engine node _ first _)⟩
  · exact ⟨0, Nat.zero_le _, same⟩

/-- The delay is called no more often than the budget allows. -/
theorem delays_run_le (engine : RetryEngine) (tree : SpecTree) (address : Address)
    (node : ActionNode) (previous : Value) (bench : Bench) :
    (engine.run tree address node previous bench).2.delays ≤ bench.delays + engine.maxRetries := by
  obtain ⟨number, allowed, same⟩ := engine.exists_history_run tree address node previous bench
  have counted :
      (engine.run tree address node previous bench).2.delays = bench.delays + number := by
    rw [Bench.delays, same]
    exact delays_attempted number
  rw [counted]
  exact Nat.add_le_add_left allowed _

/-- An attempt in which no run of the retry is completed does not return. -/
theorem not_isReturned_attempted {number : Nat}
    (uncompleted : ∀ run ∈ engine.callbacks tree address (number + 1)
      (engine.attempted tree address node previous bench number).2, run.1.isReturned = false) :
    (engine.attempted tree address node previous bench (number + 1)).1.isReturned = false := by
  cases returned : (engine.attempted tree address node previous bench (number + 1)).1 with
  | raised error => rfl
  | returned value =>
      obtain ⟨_, run, _, split, passed, _⟩ :=
        Delay.exists_of_lastReturned (lastReturned_of_endeavour returned)
      have failed := uncompleted run (List.mem_iff_append.mpr ⟨_, _, split⟩)
      rw [passed] at failed
      cases failed

/-- An attempt that returns a value has it from the run of the retry that it completed last, which
ended with an execution of the node. -/
theorem completedLast_of_attempted (known : tree.root.nodeAt? address = some node) {number : Nat}
    {value : Value}
    (returned : (engine.attempted tree address node previous bench (number + 1)).1 =
      .returned value) :
    CompletedLast address value (engine.callbacks tree address (number + 1)
      (engine.attempted tree address node previous bench number).2) := by
  obtain ⟨earlier, run, later, split, completed, unfinished⟩ :=
    Delay.exists_of_lastReturned (lastReturned_of_endeavour returned)
  obtain ⟨start, rerun⟩ := Delay.exists_of_mem_runs (List.mem_iff_append.mpr ⟨_, _, split⟩)
  have own := SpecTree.back?_history_of_rerun known (Effect.apply_of_outcome (rerun ▸ completed))
  exact ⟨earlier, run, later, split, completed, rerun ▸ own, unfinished⟩

/-- No delay makes a failing step pass. -/
theorem run_passesOnlyResults (known : tree.root.nodeAt? address = some node) :
    engine.PassesOnlyResults tree address node previous bench := by
  refine ⟨engine.delays_run_le tree address node previous bench,
    fun number => not_isReturned_attempted, fun value passed => ?_⟩
  rcases engine.run_cases tree address node previous bench with
    ⟨_, same⟩ | ⟨failed, first, settled⟩ | ⟨failed, _⟩
  · exact .inl same
  · right
    have within := (decisive_le : engine.decisive tree address node previous bench ≤ _)
    have returned := eq_returned_of_settle ((congrArg (·.1) settled).symm.trans passed)
    rcases last : engine.decisive tree address node previous bench with _ | number
    -- The budget is spent at once, so the failure of the first execution stands.
    · rw [last] at returned
      simp only [failedExpectation, attempted] at failed returned
      rw [returned] at failed
      cases failed
    · rw [last] at returned settled within
      refine ⟨number, within, fun before notLater => ?_, returned,
        (congrArg (·.2.history) settled).trans (history_settle engine node _ first _),
        completedLast_of_attempted known returned⟩
      refine failedExpectation_of_lt_decisive failed ?_
      rw [last]
      exact Nat.lt_succ_of_le notLater
  · rw [passed] at failed
    cases failed

/-- A delay that runs the retry three times and keeps the errors of it to itself. -/
def insistent : Delay := .callback fun _ => .callback fun _ => .callback fun _ => .finish

/-- Five when the clock stands at three, and otherwise four. -/
def glimpsed : Action Value := do
  let now ← Effect.read World.clock
  pure (.integer (if now = 3 then 5 else 4))

/-- The step passes with its result in the second run of the retry, though the third one fails. -/
theorem run_passesOnlyResults_of_insistent :
    let engine : RetryEngine := ⟨1, insistent, false⟩
    let tree := turningTree glimpsed
    let started := tree.execute [0, 0, 0] equalFive turnedContext turnedBench
    tree.root.nodeAt? [0, 0, 0] = some equalFive ∧ started.1.isReturned = false ∧
      (engine.callbacks tree [0, 0, 0] 1 started.2).map (·.1.isReturned) = [false, true, false] ∧
      (engine.run tree [0, 0, 0] equalFive turnedContext turnedBench).1.isReturned ∧
      engine.PassesOnlyResults tree [0, 0, 0] equalFive turnedContext turnedBench := by
  intro engine tree started
  have known : tree.root.nodeAt? [0, 0, 0] = some equalFive := rfl
  exact ⟨known, by decide +kernel, by decide +kernel, by decide +kernel,
    run_passesOnlyResults known⟩

end RetryEngine

end DeferredSpec
