/-
# Spans

A span asks whether the lower bound is at most the subject, where the lower bound on its own
asks whether the subject is at least the bound, and it asks for the upper bound only if the
first answer was yes. That makes no difference: a comparison from the other side has the same
answer, and none where there is none, as long as sets and tables hold different keys. So a span
passes just where both of its bounds do, provided that all three values have a text; an integer
may have too many digits for one.
-/

import DeferredSpec.Proofs.Comparisons

namespace DeferredSpec

namespace CallPredicate

section Joining

variable [ObjectModel]

variable {subject low high : Value} {world : World}

/-- A span whose values have texts finds whether both answers are yes. -/
theorem examine_within {above below : Bool}
    (subjectShown : (Action.render subject world).1.isReturned)
    (lowShown : (Action.render low world).1.isReturned)
    (highShown : (Action.render high world).1.isReturned)
    (fromLow : low.compare .atMost subject world = (.returned above, world))
    (upToHigh : subject.compare .atMost high world = (.returned below, world)) :
    ∃ finding later, within.examine subject [low, high] world = (.returned finding, later) ∧
      finding.holds = (above && below) := by
  obtain ⟨rendered, subjectShown⟩ := Action.render_isReturned_iff.mp subjectShown
  obtain ⟨lower, lowShown⟩ := Action.render_isReturned_iff.mp lowShown
  obtain ⟨upper, highShown⟩ := Action.render_isReturned_iff.mp highShown
  simp only [examine, examineWithin, Effect.bind_apply, Action.render_of_ok subjectShown,
    Action.render_of_ok lowShown, Action.render_of_ok highShown, fromLow]
  cases above with
  | true =>
      rw [if_pos rfl, Effect.bind_apply, upToHigh]
      exact ⟨_, _, rfl, rfl⟩
  | false => exact ⟨_, _, rfl, rfl⟩

/-- Where a text is missing a span is left undecided. -/
theorem not_isDecided_within
    (unwritable : ¬ ((Action.render subject world).1.isReturned ∧
      (Action.render low world).1.isReturned ∧ (Action.render high world).1.isReturned))
    (identity : Nat) (negated : Bool) :
    ¬ IsDecided
      ((within.link [low, high]).follow (.assertion identity subject negated) world) := by
  have examined : ∃ reason,
      within.examine subject [low, high] world = Action.fail (.unwritable reason) world := by
    rw [examine, examineWithin]
    rcases Action.render_bind subject _ world with raised | ⟨rendered, subjectShown, onward⟩
    · exact raised
    rw [onward]
    rcases Action.render_bind low _ world with raised | ⟨lower, lowShown, onward⟩
    · exact raised
    rw [onward]
    rcases Action.render_bind high _ world with raised | ⟨upper, highShown, -⟩
    · exact raised
    exact absurd ⟨subjectShown, lowShown, highShown⟩ unwritable
  obtain ⟨reason, raised⟩ := examined
  rw [follow_link_of_raised raised rfl nofun]
  exact not_isDecided_of_unwritable

/-- What is promised of a span: in either polarity it fails nothing but its expectation, it
passes just where both of its bounds pass, and turned it passes just where one of them fails. -/
structure JoinsBounds (subject low high : Value) (identity : Nat) (world : World) : Prop where
  decided : IsDecided (subject.expecting identity world [within.link [low, high]])
  turned_decided :
    IsDecided (subject.expecting identity world [Link.negation, within.link [low, high]])
  passes_iff : (subject.expecting identity world [within.link [low, high]]).1.isReturned ↔
    (subject.expecting identity world [least.link [low]]).1.isReturned ∧
      (subject.expecting identity world [most.link [high]]).1.isReturned
  turned_passes_iff :
    (subject.expecting identity world [Link.negation, within.link [low, high]]).1.isReturned ↔
      FailsExpectation (subject.expecting identity world [least.link [low]]) ∨
        FailsExpectation (subject.expecting identity world [most.link [high]])

/-- **Spans and bounds.** Where a subject can be compared with both bounds on its own side, a
span keeps what is promised of it just if the subject and the bounds have texts. -/
theorem joinsBounds_iff (sound : (world.view subject).isSound = true)
    (lowSound : (world.view low).isSound = true)
    (comparesLow : (subject.compare .atLeast low world).1.isReturned)
    (comparesHigh : (subject.compare .atMost high world).1.isReturned) (identity : Nat) :
    JoinsBounds subject low high identity world ↔
      (Action.render subject world).1.isReturned ∧ (Action.render low world).1.isReturned ∧
        (Action.render high world).1.isReturned := by
  constructor
  · intro joins
    refine Decidable.byContradiction fun unwritable => ?_
    apply not_isDecided_within unwritable identity false
    rw [← Value.expecting_link]
    exact joins.decided
  · rintro ⟨subjectShown, lowShown, highShown⟩
    obtain ⟨above, fromLow⟩ := (Value.onlyAsks_compare _ _ _).exists_returned comparesLow
    obtain ⟨below, upToHigh⟩ := (Value.onlyAsks_compare _ _ _).exists_returned comparesHigh
    have mirrored := Value.compare_mirror sound lowSound fromLow
    -- the span finds both answers together, in front of a negation and behind it
    obtain ⟨found, _, examined, both⟩ :=
      examine_within subjectShown lowShown highShown mirrored upToHigh
    have plain := follow_link_of_returned examined rfl nofun identity false
    obtain ⟨turnedFound, _, turnedExamined, turnedBoth⟩ :=
      examine_within (Action.render_newIdentity subjectShown)
        (Action.render_newIdentity lowShown) (Action.render_newIdentity highShown)
        (Value.compare_newIdentity mirrored) (Value.compare_newIdentity upToHigh)
    have turned := follow_link_of_returned turnedExamined rfl nofun world.newIdentity.1 true
    -- each bound finds its own answer
    obtain ⟨rendered, subjectShown⟩ := Action.render_isReturned_iff.mp subjectShown
    obtain ⟨lower, lowShown⟩ := Action.render_isReturned_iff.mp lowShown
    obtain ⟨upper, highShown⟩ := Action.render_isReturned_iff.mp highShown
    have atLeast := follow_bound least rfl subjectShown lowShown fromLow identity false
    have atMost := follow_bound most rfl subjectShown highShown upToHigh identity false
    constructor
    · rw [Value.expecting_link]
      exact plain.isDecided
    · rw [Value.expecting_negation]
      exact turned.isDecided
    · rw [Value.expecting_link, Value.expecting_link, Value.expecting_link, plain.isReturned_iff,
        atLeast.isReturned_iff, atMost.isReturned_iff, passes_boundFinding, passes_boundFinding,
        Finding.passes, both]
      cases above <;> cases below <;> decide
    · rw [Value.expecting_negation, Value.expecting_link, Value.expecting_link,
        turned.isReturned_iff, atLeast.failsExpectation_iff, atMost.failsExpectation_iff,
        passes_boundFinding, passes_boundFinding, Finding.passes, turnedBoth]
      cases above <;> cases below <;> decide

end Joining

/-- A pair with a set behind its number lies between a pair that begins with a smaller number
and the same pair with one member more, whose set is written the other way round. -/
theorem joinsBounds_of_nested_sets :
    let subject : Value := .tuple [.integer 2, .set [.integer 1, .text "a"]]
    let low : Value := .tuple [.boolean true, .float (.nan 0)]
    let high : Value := .tuple [.integer 2, .set [.text "a", .boolean true], .null]
    (World.view {} subject).isSound = true ∧ (World.view {} low).isSound = true ∧
      (subject.compare .atLeast low {}).1.isReturned ∧
      (subject.compare .atMost high {}).1.isReturned ∧
      JoinsBounds subject low high 0 {} := by
  intro subject low high
  have sound : (World.view {} subject).isSound = true := by decide +kernel
  have lowSound : (World.view {} low).isSound = true := by decide +kernel
  have comparesLow : (subject.compare .atLeast low {}).1.isReturned = true := by decide +kernel
  have comparesHigh : (subject.compare .atMost high {}).1.isReturned = true := by decide +kernel
  refine ⟨sound, lowSound, comparesLow, comparesHigh, ?_⟩
  apply (joinsBounds_iff sound lowSound comparesLow comparesHigh 0).mpr
  decide +kernel

/-- A number that is too long to be written is at least zero and not at most one, but a span
from zero to one meets another error than a failed expectation at it. -/
theorem not_joinsBounds_of_longNumber :
    (World.view {} .longNumber).isSound = true ∧ (World.view {} (.integer 0)).isSound = true ∧
      (Value.longNumber.compare .atLeast (.integer 0) {}).1 = .returned true ∧
      (Value.longNumber.compare .atMost (.integer 1) {}).1 = .returned false ∧
      ¬ JoinsBounds .longNumber (.integer 0) (.integer 1) 0 {} := by
  have unwritable : ¬ ((Action.render Value.longNumber {}).1.isReturned ∧
      (Action.render (.integer 0) {}).1.isReturned ∧
      (Action.render (.integer 1) {}).1.isReturned) := by decide +kernel
  refine ⟨by decide +kernel, by decide +kernel, by decide +kernel, by decide +kernel, ?_⟩
  intro joins
  apply not_isDecided_within unwritable 0 false
  rw [← Value.expecting_link]
  exact joins.decided

end CallPredicate

end DeferredSpec
