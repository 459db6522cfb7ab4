/-
# Assertion engines

An engine opens assertion chains and looks members up with a check of their kind.
The standard engine opens plain contexts and turns every missing member into an
error that says which kind was wanted.
-/

import DeferredSpec.Assertion.Predicate

namespace DeferredSpec

/-- What the steps of a specification need from assertions. -/
structure AssertionEngine where
  /-- Open a chain over a value. -/
  expect : Value → Action Value
  /-- Look a member up, checking its kind. -/
  lookUp : Value → Value → MemberKind → Action Value

namespace AssertionEngine

/-- Open a context over a value. -/
def expectation (subject : Value) : Action Value := do
  let identity ← Effect.update World.newIdentity
  pure (.assertion identity subject false)

/-- Why a member that is there is of the wrong kind, if it is. -/
def kindFault? (kind : MemberKind) (member : Value) : Option String :=
  match kind with
  | .function => if member.isCallable then none else some "is not callable"
  | .property => if member.isCallable then some "is a function, not a plain value" else none

variable [ObjectModel]

/-- Read a member and check its kind. An error about a missing member passes
through; any other error of the attribute family becomes the cause of one. -/
def checkedMember (owner name : Value) (kind : MemberKind) : Action Value := do
  let outcome ← (owner.memberNamed name).attempt
  match outcome with
  | .returned member =>
      match kindFault? kind member with
      | none => pure member
      | some reason => do
          let error ← SpecError.missingMember owner name (.text kind.word) (.text reason)
          Effect.raise error
  | .raised cause => do
      let cell ← Effect.read fun world => world.errorAt cause
      match cell.kind with
      | .missingMember .. => Effect.raise cause
      | other =>
          if other.isIn .attribute then do
            let error ← SpecError.missingMember owner name (.text kind.word)
              (.text SpecError.doesNotExist)
            Effect.modify (World.setCause error cause)
            Effect.raise error
          else Effect.raise cause

/-- The engine that specifications use unless told otherwise. -/
def standard : AssertionEngine where
  expect := expectation
  lookUp := checkedMember

end AssertionEngine

/-- The logger of handles and member calls. -/
def handleLogger : String := "fluentspec.proxy"

namespace AssertionEngine

variable [ObjectModel]

/-- What is logged when a member of a context is called. -/
def invocationMessage (context name : Value) (arguments : List Value) : Action String := do
  let shown ← Action.describe context
  let rendered ← Action.renderAll arguments
  let name ← Action.plain name
  pure ("invoking " ++ shown ++ "." ++ name ++ "(" ++ rendered ++ ")")

/-- Look a member up on the previous result: call it if arguments were recorded,
even none, and read it otherwise. -/
def invoke (engine : AssertionEngine) (context name : Value) (arguments : Option (List Value)) :
    Action Value :=
  match arguments with
  | some arguments => do
      let message ← invocationMessage context name arguments
      Action.log debugLevel handleLogger message
      let function ← engine.lookUp context name .function
      function.call arguments
  | none => engine.lookUp context name .property

end AssertionEngine

end DeferredSpec
