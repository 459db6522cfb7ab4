/-
# The failure behind a broken retry

A run that retries may end with an error that is no failed expectation. Such an error is
the failure of the last attempt, and the first failure becomes its cause, unless the error
has a cause already or is one that no handler of ordinary errors takes. So the first
failure is found behind the raised error just if the error was free to take it as its cause,
or led to it before.
-/

import DeferredSpec.Proofs.Retries
import DeferredSpec.Samples.Objects
import Mathlib.Logic.Relation

namespace DeferredSpec

namespace Outcome

variable {α : Type} {outcome : Outcome α} {error : ErrorRef}

theorem eq_raised_of_error? (raised : outcome.error? = some error) : outcome = .raised error := by
  cases outcome with
  | returned value => cases raised
  | raised other =>
      cases raised
      rfl

end Outcome

namespace World

/-- Whether an error carries another one as its cause. -/
def IsCausedBy (world : World) (error cause : ErrorRef) : Prop :=
  (world.errorAt error).cause = some cause

/-- Whether one comes from an error to another by going on to the cause, any number of
times. -/
def LeadsTo (world : World) : ErrorRef → ErrorRef → Prop :=
  Relation.ReflTransGen world.IsCausedBy

variable {world : World} {error first : ErrorRef}

theorem leadsTo_setCause (placed : error.index < world.errors.size) :
    (world.setCause error first).LeadsTo error first := by
  refine .single ?_
  simp [IsCausedBy, setCause, errorAt, placed]

theorem setCause_of_not_placed (free : ¬ error.index < world.errors.size) :
    world.setCause error first = world := by
  rw [setCause, Array.setIfInBounds_eq_of_size_le (Nat.le_of_not_lt free)]

theorem placed_of_isAssertionFailure (failure : world.isAssertionFailure error) :
    error.index < world.errors.size := by
  refine Decidable.byContradiction fun free => ?_
  have absent : world.errors[error.index]? = none := Array.getElem?_eq_none (Nat.le_of_not_lt free)
  rw [isAssertionFailure, errorAt, absent] at failure
  cases failure

end World

namespace RetryEngine

/-- No failure is lost when an error is raised in the end: it is the failure of the last
attempt, and leads to the failure of the first one. -/
structure KeepsBoth (first error : ErrorRef) (last : Outcome Value × Bench) (final : Bench) :
    Prop where
  ended : last.1 = .raised error
  leads : final.world.LeadsTo error first

section Run

variable {engine : RetryEngine} {tree : SpecTree} {address : Address} {node : ActionNode}
  {previous : Value} {bench : Bench}

/-- An error takes a cause if it is there and has none, and then leads to it. -/
theorem leadsTo_keptCause {error first : ErrorRef} {world : World} :
    (keptCause error first world).LeadsTo error first ↔
      (error.index < world.errors.size ∧ (world.errorAt error).cause = none) ∨
        world.LeadsTo error first := by
  unfold keptCause
  split
  next known held => simp [held]
  next held =>
    by_cases placed : error.index < world.errors.size
    · simp only [placed, held, and_self, true_or, iff_true]
      exact World.leadsTo_setCause placed
    · simp [World.setCause_of_not_placed placed, placed]

/-- Only failed expectations are retried. -/
theorem isAssertionFailure_of_mayRetry {error : ErrorRef} {world later : World}
    (retried : engine.mayRetry tree address error world = (.returned true, later)) :
    world.isAssertionFailure error := by
  refine Decidable.byContradiction fun other => ?_
  have asked : FailureKind.ask error world = (.returned .other, world) := by
    simp [FailureKind.ask, FailureKind.classify, other]
  rw [mayRetry, Effect.bind_apply, asked] at retried
  cases retried

/-- A failed expectation is not what comes out of putting it into words. -/
theorem ne_of_finish {failed error : ErrorRef} {later final : Bench}
    (failure : later.world.isAssertionFailure failed)
    (ended : finish (.raised failed) later = (.raised error, final))
    (other : final.world.isAssertionFailure error = false) : failed ≠ error := by
  obtain ⟨expected, actual, operator, kind⟩ := ErrorKind.isAssertionFailure_iff.mp failure
  rw [finish, Effect.bind_apply, Execution.ofAction_apply] at ended
  cases worded : SpecError.expectedActual (later.world.view expected)
      (later.world.view actual) with
  | ok message =>
      have copied := World.errorAt_newError
        { later.world.errorAt failed with arguments := [.text message] } later.world
      rw [SpecError.reformatted_of_ok kind worded] at ended
      cases ended
      -- The copy is a failed expectation itself.
      have same : (later.world.newError
          { later.world.errorAt failed with arguments := [.text message] }).2.isAssertionFailure
            ⟨later.world.errors.size⟩ = true := by
        rw [World.isAssertionFailure]
        exact (congrArg (fun cell => cell.kind.isAssertionFailure) copied).trans failure
      rw [same] at other
      cases other
  | error reason =>
      rw [SpecError.reformatted_of_error kind worded] at ended
      cases ended
      rintro rfl
      exact Nat.lt_irrefl _ (World.placed_of_isAssertionFailure failure)

/-- What is asked of an error that is raised behind a last attempt for the first failure to
be kept: the last attempt raised it, and it could take the first failure as its cause or led
to it before. An ordinary error without a cause can. -/
def CanKeep (first error : ErrorRef) (last : Outcome Value × Bench) : Prop :=
  last.1 = .raised error ∧
    (last.2.world.isOrdinary error ∧ error.index < last.2.world.errors.size ∧
        (last.2.world.errorAt error).cause = none ∨
      last.2.world.LeadsTo error first)

/-- What settling does about the failures, by how the last attempt ended. -/
theorem settle_keepsBoth_iff {count : Nat} {first error : ErrorRef} {final : Bench}
    {last : Outcome Value × Bench}
    (settled : engine.settle node count first last = (.raised error, final))
    (other : final.world.isAssertionFailure error = false) :
    (last.1.isReturned = false → failedExpectation last = false → last.1 = .raised error) ∧
      (KeepsBoth first error last final ↔ CanKeep first error last) := by
  obtain ⟨outcome, there⟩ := last
  cases outcome with
  | returned value =>
      refine ⟨fun raised => (by cases raised), fun keeps => ?_, fun able => ?_⟩
      · cases keeps.ended
      · cases able.1
  | raised failed =>
      cases failure : there.world.isAssertionFailure failed with
      | true =>
          have finished : finish (.raised failed) there = (.raised error, final) := by
            simpa only [settle, wrapUp, failure, if_true, decide, Effect.bind_apply,
              FailureKind.ask_of_isAssertionFailure failure] using settled
          have apart : (.raised failed : Outcome Value) ≠ .raised error := fun same =>
            ne_of_finish failure finished other (Outcome.raised.inj same)
          refine ⟨fun _ unfailed => ?_, fun keeps => absurd keeps.ended apart,
            fun able => absurd able.1 apart⟩
          simp [failedExpectation, failure] at unfailed
      | false =>
          cases ordinary : there.world.isOrdinary failed with
          | true =>
              rw [settle_of_other engine node count first failure ordinary] at settled
              cases settled
              refine ⟨fun _ _ => rfl, fun keeps => ⟨rfl, ?_⟩, fun able => ⟨rfl, ?_⟩⟩
              · have kept := leadsTo_keptCause.mp keeps.leads
                simp only [ordinary, true_and]
                exact kept
              · have free := able.2
                simp only [ordinary, true_and] at free
                exact leadsTo_keptCause.mpr free
          | false =>
              rw [settle_of_stopping engine node count first ordinary] at settled
              cases settled
              refine ⟨fun _ _ => rfl, fun keeps => ⟨rfl, .inr keeps.leads⟩,
                fun able => ⟨rfl, ?_⟩⟩
              simpa [ordinary] using able.2

/-- What becomes of the first failure when a run that retried raises an error that is no
failed expectation: if the last attempt broke off, its error is the one that is raised, and
both failures are kept just if that error could take the first failure as its cause or led to it
before. -/
theorem run_keepsBoth_iff {first error : ErrorRef} {later final : Bench}
    (started : tree.execute address node previous bench = (.raised first, later))
    (retried : engine.mayRetry tree address first later.world = (.returned true, later.world))
    (ended : engine.run tree address node previous bench = (.raised error, final))
    (other : final.world.isAssertionFailure error = false) :
    let last := engine.attempted tree address node previous bench
      (engine.decisive tree address node previous bench)
    (last.1.isReturned = false → failedExpectation last = false → last.1 = .raised error) ∧
      (KeepsBoth first error last final ↔ CanKeep first error last) := by
  rw [run_of_mayRetry started (isAssertionFailure_of_mayRetry retried) retried] at ended
  exact settle_keepsBoth_iff ended other

end Run

/-- Something that makes four as long as the clock has not moved, and moves it. -/
def turning (onward : Action Value) : Action Value := do
  let now ← Effect.read World.clock
  Effect.modify (World.tick 1)
  if now = 0 then pure (.integer 4) else onward

/-- The expectation that something equals five. -/
def equalFive : ActionNode where
  description := .text "equal"
  step := fun arguments previous =>
    AssertionEngine.standard.invoke previous (.text "equal") arguments
  variant := .chainStep
  arguments := some [.integer 5]

/-- The real part of something that turns, which should equal five in the end. -/
def turningTree (onward : Action Value) : SpecTree where
  root :=
    .node
      { description := .text "count", step := fun _ _ => turning onward, variant := .group }
      [.node
        { description := .text "real", variant := .group,
          step := fun arguments previous =>
            AssertionEngine.standard.invoke previous (.text "real") arguments }
        [.node
          { description := .text shouldEventually, variant := .leafCase,
            step := fun _ previous => AssertionEngine.standard.expect previous }
          [.single equalFive]]]

/-- The bench on which it made four, and a context over that. -/
def turnedBench : Bench where
  world := { identities := 1, clock := 1 }

/-- The context that the expectation finds there. -/
def turnedContext : Value := .assertion 0 (.integer 4) false

/-- An attempt that breaks with an error of its own keeps the first failure. -/
theorem run_keepsBoth_iff_of_valueError :
    let engine : RetryEngine := ⟨1, .immediate, false⟩
    let tree := turningTree (Action.raiseNew (.host "ValueError") [])
    let started := tree.execute [0, 0, 0] equalFive turnedContext turnedBench
    let ended := engine.run tree [0, 0, 0] equalFive turnedContext turnedBench
    let last := engine.attempted tree [0, 0, 0] equalFive turnedContext turnedBench
      (engine.decisive tree [0, 0, 0] equalFive turnedContext turnedBench)
    started = (.raised ⟨0⟩, started.2) ∧
      engine.mayRetry tree [0, 0, 0] ⟨0⟩ started.2.world = (.returned true, started.2.world) ∧
      ended = (.raised ⟨1⟩, ended.2) ∧ ended.2.world.isAssertionFailure ⟨1⟩ = false ∧
      CanKeep ⟨0⟩ ⟨1⟩ last ∧
      (last.1.isReturned = false → failedExpectation last = false → last.1 = .raised ⟨1⟩) ∧
      (KeepsBoth ⟨0⟩ ⟨1⟩ last ended.2 ↔ CanKeep ⟨0⟩ ⟨1⟩ last) := by
  intro engine tree started ended last
  have failed : started.1 = .raised ⟨0⟩ := Outcome.eq_raised_of_error? (by decide +kernel)
  have begun : started = (.raised ⟨0⟩, started.2) := Effect.apply_of_outcome failed
  have retried : engine.mayRetry tree [0, 0, 0] ⟨0⟩ started.2.world =
      (.returned true, started.2.world) := by
    have eligible : (started.2.world.isAssertionFailure ⟨0⟩ &&
      engine.awaits tree [0, 0, 0]) = true := by decide +kernel
    rw [mayRetry_apply rfl, eligible]
  have broken : ended.1 = .raised ⟨1⟩ := Outcome.eq_raised_of_error? (by decide +kernel)
  have finished : ended = (.raised ⟨1⟩, ended.2) := Effect.apply_of_outcome broken
  have other : ended.2.world.isAssertionFailure ⟨1⟩ = false := by decide +kernel
  have able : CanKeep ⟨0⟩ ⟨1⟩ last :=
    ⟨Outcome.eq_raised_of_error? (by decide +kernel), .inl (by decide +kernel)⟩
  exact ⟨begun, retried, finished, other, able, run_keepsBoth_iff begun retried finished other⟩

/-- An attempt that breaks on a missing member loses the first failure: the error about the
member has the failed look-up as its cause. -/
theorem run_loses_first_failure :
    let engine : RetryEngine := ⟨1, .immediate, false⟩
    let tree := turningTree (pure .null)
    let started := tree.execute [0, 0, 0] equalFive turnedContext turnedBench
    let ended := engine.run tree [0, 0, 0] equalFive turnedContext turnedBench
    let last := engine.attempted tree [0, 0, 0] equalFive turnedContext turnedBench
      (engine.decisive tree [0, 0, 0] equalFive turnedContext turnedBench)
    tree.root.subtree? [0, 0, 0] = some (.single equalFive) ∧ started.1 = .raised ⟨0⟩ ∧
      engine.mayRetry tree [0, 0, 0] ⟨0⟩ started.2.world = (.returned true, started.2.world) ∧
      ended.1 = .raised ⟨2⟩ ∧ ended.2.world.isAssertionFailure ⟨2⟩ = false ∧
      last.1 = .raised ⟨2⟩ ∧ ¬ ended.2.world.LeadsTo ⟨2⟩ ⟨0⟩ ∧
      ¬ KeepsBoth ⟨0⟩ ⟨2⟩ last ended.2 := by
  intro engine tree started ended last
  have retried : engine.mayRetry tree [0, 0, 0] ⟨0⟩ started.2.world =
      (.returned true, started.2.world) := by
    have eligible : (started.2.world.isAssertionFailure ⟨0⟩ &&
      engine.awaits tree [0, 0, 0]) = true := by decide +kernel
    rw [mayRetry_apply rfl, eligible]
  have missing : (ended.2.world.errorAt ⟨2⟩).cause = some ⟨1⟩ := by decide +kernel
  have lookedUp : (ended.2.world.errorAt ⟨1⟩).cause = none := by decide +kernel
  have lost : ¬ ended.2.world.LeadsTo ⟨2⟩ ⟨0⟩ := by
    intro leads
    obtain same | ⟨cause, carried, leads⟩ := leads.cases_head
    · cases same
    rw [World.IsCausedBy, missing] at carried
    cases carried
    obtain same | ⟨cause, carried, leads⟩ := leads.cases_head
    · cases same
    rw [World.IsCausedBy, lookedUp] at carried
    cases carried
  exact ⟨rfl, Outcome.eq_raised_of_error? (by decide +kernel), retried,
    Outcome.eq_raised_of_error? (by decide +kernel), by decide +kernel,
    Outcome.eq_raised_of_error? (by decide +kernel), lost, fun keeps => lost keeps.leads⟩

end RetryEngine

end DeferredSpec
