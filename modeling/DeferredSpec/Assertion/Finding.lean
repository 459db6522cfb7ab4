/-
# Findings

A predicate examines a subject and arrives at a finding: whether it holds, the
sentence to say if it does not, the sentence to say if it should not, and what was
expected and found. The polarity of the context decides which of the two is a
failure; no predicate looks at it.
-/

import DeferredSpec.Operation.Conversion
import DeferredSpec.World.SpecError

namespace DeferredSpec

/-- What a predicate found out about a subject. -/
structure Finding where
  holds : Bool
  message : String
  negatedMessage : String
  expected : Value
  actual : Value
  operator : String

namespace Finding

/-- Whether a context of the given polarity accepts the finding. -/
def passes (negated : Bool) (finding : Finding) : Bool := finding.holds != negated

/-- Accept a finding, or raise a failed expectation. -/
def settle (negated : Bool) (finding : Finding) : Action Unit :=
  if finding.passes negated then pure ()
  else do
    let message := if negated then finding.negatedMessage else finding.message
    let error ← SpecError.expectationFailed (.text message) finding.expected finding.actual
      (.text finding.operator)
    Effect.raise error

@[simp] theorem passes_not (negated : Bool) (finding : Finding) :
    finding.passes (!negated) = !finding.passes negated := by
  cases negated <;> simp [passes]

end Finding

/-- A predicate that is examined when it is read. -/
inductive PropertyPredicate
  | ok
  | isTrue
  | isFalse
  | isNull
  | empty
  deriving DecidableEq, Repr

namespace PropertyPredicate

/-- The name of a predicate. -/
def name : PropertyPredicate → String
  | .ok => "ok"
  | .isTrue => "true"
  | .isFalse => "false"
  | .isNull => "none"
  | .empty => "empty"

variable [ObjectModel]

/-- Examine a subject. A subject without a length fails `empty` in either polarity. -/
def examine (predicate : PropertyPredicate) (subject : Value) : Action Finding := do
  let rendered ← Action.render subject
  match predicate with
  | .ok => do
      let holds ← subject.truth
      pure ⟨holds, "expected " ++ rendered ++ " to be truthy",
        "expected " ++ rendered ++ " to be falsy", .boolean true, subject, predicate.name⟩
  | .isTrue =>
      let holds := match subject with
        | .boolean value => value
        | _ => false
      pure ⟨holds, "expected " ++ rendered ++ " to be true",
        "expected " ++ rendered ++ " not to be true", .boolean true, subject, predicate.name⟩
  | .isFalse =>
      let holds := match subject with
        | .boolean value => !value
        | _ => false
      pure ⟨holds, "expected " ++ rendered ++ " to be false",
        "expected " ++ rendered ++ " not to be false", .boolean false, subject, predicate.name⟩
  | .isNull =>
      let holds := match subject with
        | .null => true
        | _ => false
      pure ⟨holds, "expected " ++ rendered ++ " to be None",
        "expected " ++ rendered ++ " not to be None", .null, subject, predicate.name⟩
  | .empty => do
      let sized ← Effect.read fun world => subject.isSized world
      if sized then do
        let length ← subject.length
        pure ⟨length == 0, "expected " ++ rendered ++ " to be empty",
          "expected " ++ rendered ++ " not to be empty", .integer 0, .integer length,
          predicate.name⟩
      else do
        let error ← SpecError.expectationFailed
          (.text ("expected " ++ rendered ++ " to have a length")) (.text "sized") subject
          (.text predicate.name)
        Effect.raise error

end PropertyPredicate

end DeferredSpec
