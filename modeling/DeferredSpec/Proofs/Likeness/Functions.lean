/-
# Steps that are functions

A step is a function of what it is given if it ends alike wherever it is run: given what is
alike it returns what is alike, or raises errors that are alike and ordinary, in any two worlds
that grew out of the same base. It may make new things, which get other names in other worlds,
but it changes nothing that is there. Functions one after another are a function, and the final
wording keeps errors alike.
-/

import DeferredSpec.Assertion.Engine
import DeferredSpec.Proofs.Likeness.Views
import DeferredSpec.Retry.Engine

namespace DeferredSpec

/-- Two steps have ended alike, each in its own world. -/
inductive EndsAlike (base : World) : Outcome Value × World → Outcome Value × World → Prop
  | returned {first second : World} {one other : Value}
      (alike : Alike base first one second other) :
      EndsAlike base (.returned one, first) (.returned other, second)
  | raised {first second : World} {error another : ErrorRef}
      (alike : Alike base first (.error error) second (.error another))
      (ordinary : second.isOrdinary another) :
      EndsAlike base (.raised error, first) (.raised another, second)

/-- What an action does with a value depends on that value alone, as far as can be told in
worlds that grew out of a base. -/
def IsFunction (base : World) (act : Value → Action Value) : Prop :=
  ∀ first one second other, base.Grows first → base.Grows second →
    Alike base first one second other →
      first.Grows (act one first).2 ∧ second.Grows (act other second).2 ∧
        EndsAlike base (act one first) (act other second)

section Functions

variable {base : World} {one other : Outcome Value × World}

/-- What has ended alike is still so when the worlds grow. -/
theorem EndsAlike.grow (ends : EndsAlike base one other) {later after : World}
    (grown : one.2.Grows later) (also : other.2.Grows after) :
    EndsAlike base (one.1, later) (other.1, after) := by
  cases ends with
  | returned alike => exact .returned (alike.grow grown also)
  | @raised first second error another alike ordinary =>
      refine .raised (alike.grow grown also) ?_
      rw [World.isOrdinary, also.errorAt (Alike.has alike).2]
      exact ordinary

/-- What is raised is ordinary. -/
theorem EndsAlike.isOrdinary {error : ErrorRef} {world : World}
    (ends : EndsAlike base one (.raised error, world)) : world.isOrdinary error := by
  cases ends with
  | raised _ ordinary => exact ordinary

protected theorem IsFunction.pure (base : World) : IsFunction base fun value => pure value :=
  fun first _ second _ _ _ alike => ⟨.refl first, .refl second, .returned alike⟩

/-- Functions one after another are a function. -/
theorem IsFunction.bind {act further : Value → Action Value} (function : IsFunction base act)
    (also : IsFunction base further) : IsFunction base fun value => act value >>= further := by
  intro first one second other grown grows alike
  obtain ⟨start, begun, ends⟩ := function first one second other grown grows alike
  simp only [Effect.bind_apply]
  revert start begun ends
  generalize act one first = left
  generalize act other second = right
  rintro start begun (alike | ⟨alike, ordinary⟩)
  · obtain ⟨later, after, ends⟩ := also _ _ _ _ (grown.trans start) (grows.trans begun) alike
    exact ⟨start.trans later, begun.trans after, ends⟩
  · exact ⟨start, begun, .raised alike ordinary⟩

end Functions

/-- Errors that are made alike are raised alike if they are ordinary. -/
theorem endsAlike_newError {base first second : World} {names : Renaming}
    (relates : names.Relates base first second) (grown : base.Grows first)
    (grows : base.Grows second) {cell another : ErrorCell} (same : cell.Matches names another)
    (ordinary : another.kind.isOrdinary) :
    EndsAlike base (.raised ⟨first.errors.size⟩, (first.newError cell).2)
      (.raised ⟨second.errors.size⟩, (second.newError another).2) := by
  refine .raised (Alike.newError relates grown grows same) ?_
  show ((second.newError another).2.errorAt (second.newError another).1).kind.isOrdinary = true
  rw [World.errorAt_newError]
  exact ordinary

/-- A value without names in it is the same everywhere. -/
theorem IsFunction.constant (base : World) {value : Value} (same : value.Matches .none value) :
    IsFunction base fun _ => pure value :=
  fun first _ second _ _ _ _ =>
    ⟨.refl first, .refl second, .returned ⟨.none, Renaming.relates_none base first second, same⟩⟩

/-- So is an ordinary error that is made without names in it. -/
theorem IsFunction.raiseNew (base : World) {kind : ErrorKind} {arguments : List Value}
    (same : kind.Matches .none kind) (also : Value.MatchesAll .none arguments arguments)
    (ordinary : kind.isOrdinary) : IsFunction base fun _ => Action.raiseNew kind arguments :=
  fun first _ second _ grown grows _ =>
    ⟨.newError _ first, .newError _ second,
      endsAlike_newError (Renaming.relates_none base first second) grown grows
        ⟨same, also, .nil, .nil⟩ ordinary⟩

/-- Opening a context over a value is a function of that value: the context gets an identity of
its own each time, but is alike. -/
theorem AssertionEngine.isFunction_expectation (base : World) :
    IsFunction base AssertionEngine.expectation := by
  rintro first one second other grown grows ⟨names, relates, same⟩
  have renamed := relates.newIdentity grown grows
  refine ⟨.newIdentity first, .newIdentity second, .returned ⟨_, renamed, ?_⟩⟩
  exact .assertion false (.inr ⟨rfl, rfl⟩) (same.widen (Renaming.within_withIdentity names _ _))

/-- Where there are no words, the same fault is raised everywhere. -/
theorem endsAlike_unwritable {base first second : World} {names : Renaming}
    (relates : names.Relates base first second) (grown : base.Grows first)
    (grows : base.Grows second) (reason : Unwritable) :
    EndsAlike base (Action.fail (.unwritable reason) first)
      (Action.fail (.unwritable reason) second) := by
  have ordinary : (Fault.unwritable reason).kind.isOrdinary := by
    cases reason with
    | tooManyDigits => decide
    | _ => exact show (ErrorKind.host "TypeError").isOrdinary = true by decide
  cases reason <;> exact endsAlike_newError relates grown grows
    ⟨.host _, .cons (.text _) .nil, .nil, .nil⟩ ordinary

namespace SpecError

theorem expectedActual_nameless (expected actual : Snapshot) :
    expectedActual expected.nameless actual.nameless = expectedActual expected actual := by
  rw [expectedActual, expectedActual, Snapshot.render_nameless, Snapshot.render_nameless]

end SpecError

namespace RetryEngine

/-- What is raised or returned in the end, given how a step ended. -/
def word (outcome : Outcome Value) : Action Value :=
  match outcome with
  | .returned value => pure value
  | .raised error => do
      let final ← SpecError.reformatted error
      Effect.raise final

theorem finish_apply (outcome : Outcome Value) (bench : Bench) :
    finish outcome bench =
      ((word outcome bench.world).1, { bench with world := (word outcome bench.world).2 }) := by
  cases outcome with
  | returned value => rfl
  | raised error =>
      rw [finish, word, Effect.bind_apply, Effect.bind_apply, Execution.ofAction_apply]
      rcases SpecError.reformatted error bench.world with ⟨final, later⟩
      cases final <;> rfl

theorem word_of_other {error : ErrorRef} {world : World}
    (other : world.isAssertionFailure error = false) :
    word (.raised error) world = (.raised error, world) := by
  rw [word, Effect.bind_apply, SpecError.reformatted_of_other other]
  rfl

/-- What ends alike is put into words alike, whether that succeeds or not. -/
theorem word_alike {base : World} {one other : Outcome Value × World}
    (grown : base.Grows one.2) (grows : base.Grows other.2) (ends : EndsAlike base one other) :
    one.2.Grows (word one.1 one.2).2 ∧ other.2.Grows (word other.1 other.2).2 ∧
      EndsAlike base (word one.1 one.2) (word other.1 other.2) := by
  cases ends with
  | @returned first second one other alike => exact ⟨.refl first, .refl second, .returned alike⟩
  | @raised first second error another alike ordinary =>
      have kinds := Alike.isAssertionFailure alike
      cases failure : first.isAssertionFailure error with
      | false =>
          rw [failure] at kinds
          rw [word_of_other failure, word_of_other kinds]
          exact ⟨.refl first, .refl second, .raised alike ordinary⟩
      | true =>
          rw [failure] at kinds
          obtain ⟨names, relates, same⟩ := Alike.errorAt alike
          obtain ⟨expected, actual, operator, kind⟩ := ErrorKind.isAssertionFailure_iff.mp failure
          obtain ⟨desired, found, sign, known⟩ := ErrorKind.isAssertionFailure_iff.mp kinds
          have content := same.kind
          rw [kind, known] at content
          cases content with
          | expectationFailed one two three =>
              have wording : SpecError.expectedActual (second.view desired) (second.view found) =
                  SpecError.expectedActual (first.view expected) (first.view actual) := by
                have left := World.looks_eq relates one
                have right := World.looks_eq relates two
                rw [World.looks, World.looks] at left right
                rw [← SpecError.expectedActual_nameless, ← left, ← right,
                  SpecError.expectedActual_nameless]
              simp only [word, Effect.bind_apply]
              cases worded : SpecError.expectedActual (first.view expected) (first.view actual) with
              | ok message =>
                  rw [worded] at wording
                  rw [SpecError.reformatted_of_ok kind worded,
                    SpecError.reformatted_of_ok known wording]
                  have ordinary : (second.errorAt another).kind.isOrdinary :=
                    ErrorKind.isOrdinary_of_isAssertionFailure kinds
                  exact ⟨.newError _ first, .newError _ second,
                    endsAlike_newError relates grown grows
                      ⟨same.kind, .cons (.text message) .nil, same.cause, same.details⟩ ordinary⟩
              | error reason =>
                  rw [worded] at wording
                  rw [SpecError.reformatted_of_error kind worded,
                    SpecError.reformatted_of_error known wording]
                  exact ⟨.newError _ first, .newError _ second,
                    endsAlike_unwritable relates grown grows reason⟩

end RetryEngine

end DeferredSpec
