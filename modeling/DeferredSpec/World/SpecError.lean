/-
# Errors of specifications

The errors that specifications raise on their own account: failed expectations,
members that are missing or of the wrong kind, second calls of one handle, and
settings that cannot be used. Each composes its message from its details when it is
made; a detail without a text keeps the error from being made.
-/

import DeferredSpec.World.CaseForm
import DeferredSpec.World.Iteration

namespace DeferredSpec

/-- What a member is expected to be. -/
inductive MemberKind
  | function
  | property
  deriving DecidableEq, Repr

namespace MemberKind

/-- The word for a kind. -/
def word : MemberKind → String
  | .function => "function"
  | .property => "property"

end MemberKind

namespace SpecError

/-- The message of a final assertion failure. -/
def expectedActual (expected actual : Snapshot) : Wording := do
  let expected ← expected.render
  let actual ← actual.render
  pure ("expected: " ++ expected ++ "   actual: " ++ actual)

/-- The message about a member that is missing or of the wrong kind. -/
def missingMemberMessage (owner member kind reason : Value) : Action String := do
  let kind ← CaseForm.capitalized.apply kind
  let kind ← Action.plain kind
  let member ← Action.plain member
  let reason ← Action.plain reason
  let type ← Action.typeName owner
  let owner ← Action.render owner
  pure (kind ++ " '" ++ member ++ "' " ++ reason ++ " on " ++ type ++ " " ++ owner)

/-- The message about a second call. Arguments are whatever the given values hold. -/
def invocationMessage (description recorded attempted : Value) : Action String := do
  let description ← Action.plain description
  let first ← recorded.iterate
  let first ← Action.renderAll first
  let second ← attempted.iterate
  let second ← Action.renderAll second
  pure ("'" ++ description ++ "' was already called with (" ++ first
    ++ "); cannot call it again with (" ++ second ++ ")")

/-- The sentence about a setting that cannot be used. -/
def configurationSentence (setting shown reason : String) : String :=
  "Invalid value for " ++ setting ++ ": " ++ shown ++ " (" ++ reason ++ ")"

/-- The message about a setting that cannot be used. -/
def configurationMessage (setting value reason : Value) : Action String := do
  let setting ← Action.plain setting
  let shown ← Action.display value
  let reason ← Action.plain reason
  pure (configurationSentence setting shown reason)

/-- Why a member is missing, where nothing more particular is known. -/
def doesNotExist : String := "does not exist"

/-- Make an error object. -/
def make (kind : ErrorKind) (message : Value) : Action ErrorRef :=
  Effect.update (World.newError { kind, arguments := [message], cause := none })

/-- A failed expectation. -/
def expectationFailed (message expected actual operator : Value) : Action ErrorRef :=
  make (.expectationFailed expected actual operator) message

/-- A member that is missing or of the wrong kind. -/
def missingMember (owner member kind reason : Value) : Action ErrorRef := do
  let message ← missingMemberMessage owner member kind reason
  make (.missingMember owner member kind reason) (.text message)

/-- A second call of one handle. -/
def invocation (description recorded attempted : Value) : Action ErrorRef := do
  let message ← invocationMessage description recorded attempted
  make (.invocation description recorded attempted) (.text message)

/-- A setting that cannot be used. -/
def configuration (setting value reason : Value) : Action ErrorRef := do
  let message ← configurationMessage setting value reason
  make (.configuration setting value reason) (.text message)

/-- A copy of a failed expectation whose message states what was expected and what
was found; the cause is kept. Other errors are left as they are. -/
def reformatted (error : ErrorRef) : Action ErrorRef := do
  let cell ← Effect.read fun world => world.errorAt error
  match cell.kind with
  | .expectationFailed expected actual _ => do
      let wording ← Effect.read fun world =>
        expectedActual (world.view expected) (world.view actual)
      let message ← Action.ofWording wording
      Effect.update (World.newError { cell with arguments := [.text message] })
  | _ => pure error

section Reformatted

variable {error : ErrorRef} {world : World} {expected actual operator : Value}

theorem reformatted_of_ok {message : String}
    (kind : (world.errorAt error).kind = .expectationFailed expected actual operator)
    (worded : expectedActual (world.view expected) (world.view actual) = .ok message) :
    reformatted error world =
      (.returned ⟨world.errors.size⟩,
        (world.newError { world.errorAt error with arguments := [.text message] }).2) := by
  simp only [reformatted, Effect.bind_apply, Effect.read_apply, kind, worded, Action.ofWording,
    Effect.pure_apply, Effect.update_apply]
  rfl

theorem reformatted_of_error {reason : Unwritable}
    (kind : (world.errorAt error).kind = .expectationFailed expected actual operator)
    (worded : expectedActual (world.view expected) (world.view actual) = .error reason) :
    reformatted error world = Action.fail (.unwritable reason) world := by
  simp only [reformatted, Effect.bind_apply, Effect.read_apply, kind, worded, Action.ofWording]
  rfl

theorem reformatted_of_other (other : world.isAssertionFailure error = false) :
    reformatted error world = (.returned error, world) := by
  rw [World.isAssertionFailure] at other
  rw [reformatted, Effect.bind_apply, Effect.read_apply]
  cases known : (world.errorAt error).kind with
  | expectationFailed expected actual operator =>
      rw [known] at other
      cases other
  | _ => simp only [known, Effect.pure_apply]

end Reformatted

end SpecError

end DeferredSpec
