/-
# Retries

A step of an assertion chain is executed once, and again while it fails, as long
as the failure is an assertion failure below an eventual entry and the budget
lasts. A retry starts over from the root. The failure of the last attempt is the
one that counts; a failed expectation is raised with a message that states what
was expected and what was found, and any other failure carries the first one as
its cause unless it has a cause already.
-/

import DeferredSpec.Retry.Delay
import DeferredSpec.Tree.Handle

namespace DeferredSpec

/-- The two kinds of failures. -/
inductive FailureKind
  | assertion
  | other
  deriving DecidableEq, Repr

namespace FailureKind

/-- The word for a kind. -/
def word : FailureKind → String
  | .assertion => "assertion"
  | .other => "other"

/-- Only failed expectations are assertion failures. -/
def classify (world : World) (error : ErrorRef) : FailureKind :=
  if world.isAssertionFailure error then .assertion else .other

/-- Tell which kind of failure an error is. -/
def ask (error : ErrorRef) : Action FailureKind := Effect.read fun world => classify world error

theorem ask_of_isAssertionFailure {error : ErrorRef} {bench : Bench}
    (failure : bench.world.isAssertionFailure error = true) :
    Execution.ofAction (ask error) bench = (.returned .assertion, bench) := by
  simp [ask, classify, failure]

theorem ask_of_not_isAssertionFailure {error : ErrorRef} {bench : Bench}
    (other : bench.world.isAssertionFailure error = false) :
    Execution.ofAction (ask error) bench = (.returned .other, bench) := by
  simp [ask, classify, other]

end FailureKind

/-- How chain steps are retried. -/
structure RetryEngine where
  maxRetries : Nat
  delay : Delay
  eventualByDefault : Bool

/-- The logger of retries. -/
def retryLogger : String := "fluentspec.retry"

namespace RetryEngine

/-- How often a step is retried unless told otherwise. -/
def defaultMaxRetries : Nat := 5

/-- An engine with a budget that must not be negative. -/
def make (maxRetries : Int) (delay : Delay) (eventualByDefault : Bool) : Action RetryEngine :=
  if maxRetries < 0 then Action.fail .negativeRetries
  else pure ⟨maxRetries.toNat, delay, eventualByDefault⟩

/-- Whether failures at an address may be retried. -/
def isEventual (engine : RetryEngine) (tree : SpecTree) (address : Address) : Bool :=
  tree.isBelow address [shouldEventually]
    || (engine.eventualByDefault && tree.isBelow address [should])

/-- Ask whether failures at an address may be retried, which a node tells by what it lies
below. -/
def askEventual (engine : RetryEngine) (tree : SpecTree) (address : Address) : Action Bool := do
  tree.require address .ancestry (.notCallable nothingType)
  pure (engine.isEventual tree address)

/-- One attempt: call the delay, and return what the last completed run from the root
returned. A delay that never completed a run fails the attempt. -/
def attemptRetry (engine : RetryEngine) (tree : SpecTree) (address : Address) :
    Execution Value := do
  Effect.modify (Bench.happened .delayed)
  let latest ← engine.delay.perform (tree.rerun address) none
  match latest with
  | some value => pure value
  | none => Execution.ofAction (Action.fail .noCallbackRun)

/-- Whether a failure is one that is retried. -/
def mayRetry (engine : RetryEngine) (tree : SpecTree) (address : Address) (error : ErrorRef) :
    Action Bool := do
  match ← FailureKind.ask error with
  | .assertion => engine.askEventual tree address
  | .other => pure false

/-- Log a message about retries. -/
def logInfo (message : String) : Execution Unit :=
  Execution.ofAction (Action.log infoLevel retryLogger message)

/-- The number of an attempt, out of all that may be made. -/
def ordinal (engine : RetryEngine) (number : Nat) : String :=
  toString number ++ "/" ++ toString engine.maxRetries

/-- What is logged before an attempt. -/
def announcement (engine : RetryEngine) (number : Nat) : String :=
  "Assertion failed; retrying... " ++ engine.ordinal number

/-- What is logged of an attempt that passed. -/
def success (engine : RetryEngine) (number : Nat) (label : String) : String :=
  "Assertion passed on retry " ++ engine.ordinal number ++ ": " ++ label

/-- What is logged of an attempt that failed otherwise than by an assertion. -/
def surrender (engine : RetryEngine) (number : Nat) : String :=
  "Retry " ++ engine.ordinal number ++ " failed with a non-assertion error; giving up"

/-- Retry until an attempt returns, fails otherwise than by an assertion, or the
budget is spent. `number` is the number of the next attempt, `remaining` how many
are left, `latest` how the one before ended. -/
def retryFrom (engine : RetryEngine) (tree : SpecTree) (address : Address) (node : ActionNode) :
    Nat → Nat → Outcome Value → Execution (Outcome Value)
  | 0, _, latest => pure latest
  | remaining + 1, number, _ => do
      logInfo (engine.announcement number)
      let outcome ← (engine.attemptRetry tree address).capture
      match outcome with
      | .returned value => do
          let label ← Execution.ofAction node.labelText
          logInfo (engine.success number label)
          pure (.returned value)
      | .raised error => do
          match ← Execution.ofAction (FailureKind.ask error) with
          | .other => do
              logInfo (engine.surrender number)
              pure (.raised error)
          | .assertion => retryFrom engine tree address node remaining (number + 1) (.raised error)

/-- Give an error a cause unless it has one. -/
def keepCause (error cause : ErrorRef) : Action Unit := do
  let cell ← Effect.read fun world => world.errorAt error
  match cell.cause with
  | some _ => pure ()
  | none => Effect.modify (World.setCause error cause)

/-- End with an outcome; a failed expectation is raised in its final wording. -/
def finish (outcome : Outcome Value) : Execution Value :=
  match outcome with
  | .returned value => pure value
  | .raised error => do
      let final ← Execution.ofAction (SpecError.reformatted error)
      Effect.raise final

/-- Execute a chain step, retrying it where that is allowed. -/
def run (engine : RetryEngine) (tree : SpecTree) (address : Address) (node : ActionNode)
    (previous : Value) : Execution Value := do
  let outcome ← (tree.execute address node previous).capture
  match outcome with
  | .returned value => pure value
  | .raised first => do
      let retries ← Execution.ofAction (engine.mayRetry tree address first)
      if retries then do
        let last ← engine.retryFrom tree address node engine.maxRetries 1 (.raised first)
        match last with
        | .returned value => pure value
        | .raised error => do
            match ← Execution.ofAction (FailureKind.ask error) with
            | .assertion => finish (.raised error)
            | .other => do
                Execution.ofAction (keepCause error first)
                Effect.raise error
      else finish (.raised first)

end RetryEngine

end DeferredSpec
