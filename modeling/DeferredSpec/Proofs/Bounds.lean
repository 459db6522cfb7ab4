/-
# Strict and loose bounds

`not_.above` and `most` tell a reader the same, and so do `not_.below` and `least`. They ask
different questions, though, which have opposite answers just for values that are ordered
without gaps: numbers, texts, and sequences of them, but no sets and no NaNs. Behind the same
answer lies the same sentence, so that the two fail alike in everything but the name of the
predicate. The sentence needs the texts of both values; an integer may have too many digits
for one.
-/

import DeferredSpec.Proofs.Comparisons

namespace DeferredSpec

namespace CallPredicate

/-- The loose bound that a strict one turns into, and how the strict one compares. -/
def opposite? : CallPredicate → Option (OrderTest × CallPredicate)
  | .above => some (.above, .most)
  | .below => some (.below, .least)
  | _ => none

variable {strict loose : CallPredicate} {test : OrderTest} {subject bound : Value} {world : World}

/-- Opposite bounds compare by complements, and swap their sentences. -/
theorem comparison?_of_opposite? (opposed : strict.opposite? = some (test, loose)) :
    ∃ holding failing, strict.comparison? = some (test, holding, failing) ∧
      loose.comparison? = some (test.complement, failing, holding) := by
  cases strict <;> cases opposed <;> exact ⟨_, _, rfl, rfl⟩

/-- The error of a predicate that fails at a bound with a message. -/
def refusal (predicate : CallPredicate) (subject bound : Value) (message : String) : ErrorCell where
  kind := .expectationFailed bound subject (.text predicate.name)
  arguments := [.text message]
  cause := none

section Agreement

variable [ObjectModel]

/-- A negated strict bound and a loose one agree: both pass, or both fail with the same message,
expected value and actual value. -/
def AgreesTurned (strict loose : CallPredicate) (subject bound : Value) (identity : Nat)
    (world : World) : Prop :=
  let turned := subject.expecting identity world [Link.negation, strict.link [bound]]
  let plain := subject.expecting identity world [loose.link [bound]]
  turned.1.isReturned ∧ plain.1.isReturned ∨
    ∃ message, RaisesCell turned (strict.refusal subject bound message) ∧
      RaisesCell plain (loose.refusal subject bound message)

/-- Ends that agree are decided. -/
theorem not_agreesTurned_of_not_isDecided {identity : Nat}
    (undecided : ¬ IsDecided (subject.expecting identity world [loose.link [bound]])) :
    ¬ AgreesTurned strict loose subject bound identity world := by
  rintro (⟨-, passes⟩ | ⟨message, -, fails⟩)
  · exact undecided (.inl passes)
  · exact undecided (.inr (fails.failsExpectation rfl))

/-- **Opposite bounds.** Where linear values can be compared, a strict bound behind a negation
and the opposite loose bound both pass, or both fail with the same message, expected value and
actual value, just if both values have a text. -/
theorem agreesTurned_iff (opposed : strict.opposite? = some (test, loose))
    (linear : (world.view subject).isLinear = true)
    (boundLinear : (world.view bound).isLinear = true)
    (compares : (subject.compare test bound world).1.isReturned) (identity : Nat) :
    AgreesTurned strict loose subject bound identity world ↔
      (Action.render subject world).1.isReturned ∧ (Action.render bound world).1.isReturned := by
  obtain ⟨holding, failing, known, looseKnown⟩ := comparison?_of_opposite? opposed
  obtain ⟨holds, compared⟩ := (Value.onlyAsks_compare _ _ _).exists_returned compares
  have complement := Value.compare_complement linear boundLinear compared
  constructor
  · intro agrees
    refine Decidable.byContradiction fun unwritable => ?_
    refine not_agreesTurned_of_not_isDecided ?_ agrees
    rw [Value.expecting_link]
    exact not_isDecided_bound looseKnown complement unwritable identity false
  · rintro ⟨subjectShown, boundShown⟩
    obtain ⟨rendered, subjectShown⟩ := Action.render_isReturned_iff.mp subjectShown
    obtain ⟨limit, boundShown⟩ := Action.render_isReturned_iff.mp boundShown
    have plain := follow_bound loose looseKnown subjectShown boundShown complement identity false
    have turned := follow_bound strict known (by rwa [World.view_newIdentity])
      (by rwa [World.view_newIdentity]) (Value.compare_newIdentity compared)
      world.newIdentity.1 true
    rw [AgreesTurned, Value.expecting_link, Value.expecting_negation]
    cases holds with
    | false => exact .inl ⟨turned.returned rfl, plain.returned rfl⟩
    | true =>
        exact .inr ⟨"expected " ++ rendered ++ failing ++ limit, turned.failed rfl,
          plain.failed rfl⟩

end Agreement

/-- A nested pair lies below a longer one whose second member comes later: both bounds refuse
it. -/
theorem agreesTurned_of_nested_pairs :
    let subject : Value := .tuple [.boolean true, .tuple [.text "a", .bytes [7]]]
    let bound : Value := .tuple [.integer 1, .tuple [.text "b"], .null]
    below.opposite? = some (.below, least) ∧
      (World.view {} subject).isLinear = true ∧ (World.view {} bound).isLinear = true ∧
      (subject.compare .below bound {}).1.isReturned ∧
      AgreesTurned below least subject bound 0 {} := by
  intro subject bound
  have linear : (World.view {} subject).isLinear = true := by decide +kernel
  have boundLinear : (World.view {} bound).isLinear = true := by decide +kernel
  have compares : (subject.compare .below bound {}).1.isReturned = true := by decide +kernel
  refine ⟨rfl, linear, boundLinear, compares, ?_⟩
  apply (agreesTurned_iff rfl linear boundLinear compares 0).mpr
  decide +kernel

/-- A number that is too long to be written is at least zero and not below zero, but neither of
the two bounds accepts it. -/
theorem not_agreesTurned_of_longNumber :
    (World.view {} .longNumber).isLinear = true ∧
      (World.view {} (.integer 0)).isLinear = true ∧
      (Value.longNumber.compare .below (.integer 0) {}).1 = .returned false ∧
      ¬ AgreesTurned below least .longNumber (.integer 0) 0 {} := by
  obtain ⟨_, atLeast⟩ := (Value.onlyAsks_compare .atLeast .longNumber (.integer 0)).exists_returned
    (show (Value.compare _ _ _ {}).1.isReturned = true by decide +kernel)
  refine ⟨by decide +kernel, by decide +kernel, by decide +kernel, ?_⟩
  apply not_agreesTurned_of_not_isDecided
  rw [Value.expecting_link]
  exact not_isDecided_bound rfl atLeast (by decide +kernel) 0 false

end CallPredicate

end DeferredSpec
