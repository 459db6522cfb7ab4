/-
# Predicates ignore the log

Reading a word of an assertion context and calling its predicates do not look at the log. So
no member of any value does when it is read, and no value does when it is called.
-/

import DeferredSpec.Assertion.Predicate
import DeferredSpec.Proofs.Unlogged.Members

namespace DeferredSpec

open DeferredSpec.Action

theorem Finding.ignoresLog_settle (negated : Bool) (finding : Finding) :
    IgnoresLog (finding.settle negated) :=
  .ite (.pure ()) ((SpecError.ignoresLog_expectationFailed _ _ _ _).bind fun error => .raise error)

theorem Value.ignoresLog_missing (self : Value) (name : String) : IgnoresLog (self.missing name) := by
  unfold missing
  split
  · exact ignoresLog_fail _
  · exact (ignoresLog_typeName _).bind fun kind => ignoresLog_fail _

namespace CallPredicate

theorem ignoresLog_examineBound (predicate : CallPredicate) (test : OrderTest)
    (holding failing : String) (subject bound : Value) :
    IgnoresLog (predicate.examineBound test holding failing subject bound) :=
  (ignoresLog_render subject).bind fun _ =>
    (Value.ignoresLog_compare test subject bound).bind fun _ =>
      (ignoresLog_render bound).bind fun _ => .pure _

theorem ignoresLog_examineEqual (subject expected : Value) :
    IgnoresLog (examineEqual subject expected) :=
  (ignoresLog_render subject).bind fun _ =>
    (Value.ignoresLog_isEqual subject expected).bind fun _ =>
      (ignoresLog_render expected).bind fun _ => .pure _

theorem ignoresLog_examineWithin (subject low high : Value) :
    IgnoresLog (examineWithin subject low high) := by
  apply (ignoresLog_render subject).bind
  intro rendered
  refine (ignoresLog_render low).bind fun from_ => (ignoresLog_render high).bind fun upTo => ?_
  apply (Value.ignoresLog_compare .atMost low subject).bind
  intro above
  refine .ite ((Value.ignoresLog_compare .atMost subject high).bind fun holds => ?_) ?_
  · exact (ignoresLog_newList [low, high]).bind fun expected => .pure _
  · exact (IgnoresLog.pure false).bind fun holds =>
      (ignoresLog_newList [low, high]).bind fun expected => .pure _

theorem ignoresLog_examineIncludes (subject member : Value) :
    IgnoresLog (examineIncludes subject member) :=
  (ignoresLog_render subject).bind fun _ =>
    (Value.ignoresLog_contains subject member).bind fun _ =>
      (ignoresLog_render member).bind fun _ => .pure _

theorem ignoresLog_examineTypeNamed (subject typeName : Value) :
    IgnoresLog (examineTypeNamed subject typeName) :=
  (ignoresLog_typeName subject).bind fun _ => (ignoresLog_render subject).bind fun _ =>
    (CaseForm.smalls.ignoresLog_apply typeName).bind fun lowered =>
      (Value.ignoresLog_isEqual _ lowered).bind fun _ =>
        (ignoresLog_plain typeName).bind fun _ => .pure _

theorem ignoresLog_examineInstanceOf (subject classes : Value) :
    IgnoresLog (examineInstanceOf subject classes) := by
  apply (ignoresLog_render subject).bind
  intro rendered
  apply (Value.ignoresLog_isInstance subject classes).bind
  intro holds
  split
  · exact (ignoresLog_typeName subject).bind fun actual => .pure _
  · exact (ignoresLog_typeName _).bind fun kind => ignoresLog_fail _

theorem ignoresLog_patternOf (pattern : Value) : IgnoresLog (patternOf pattern) := by
  unfold patternOf
  split
  · split
    · exact .pure _
    · exact ignoresLog_fail _
  · exact ignoresLog_fail _
  · apply (ignoresLog_view _).bind
    intro snapshot
    split
    · exact ignoresLog_fail _
    · exact ignoresLog_fail _

theorem ignoresLog_examineMatches (subject pattern : Value) :
    IgnoresLog (examineMatches subject pattern) :=
  (ignoresLog_render subject).bind fun _ => (ignoresLog_plain subject).bind fun _ =>
    (ignoresLog_patternOf pattern).bind fun _ => (ignoresLog_display pattern).bind fun _ => .pure _

end CallPredicate

section Objects

variable [ObjectModel] [ObjectModel.IsBlind]

theorem PropertyPredicate.ignoresLog_examine (predicate : PropertyPredicate) (subject : Value) :
    IgnoresLog (predicate.examine subject) := by
  apply (ignoresLog_render subject).bind
  intro rendered
  cases predicate with
  | ok => exact (Value.ignoresLog_truth subject).bind fun holds => .pure _
  | isTrue => exact .pure _
  | isFalse => exact .pure _
  | isNull => exact .pure _
  | empty =>
      refine (Value.ignoresLog_isSized subject).bind fun sized => .ite ?_ ?_
      · exact (Value.ignoresLog_length subject).bind fun length => .pure _
      · exact (SpecError.ignoresLog_expectationFailed _ _ _ _).bind fun error => .raise error

namespace Value

theorem ignoresLog_objectMember (ref : ObjectRef) (name : String) :
    IgnoresLog (objectMember ref name) := by
  apply (IgnoresLog.read fun _ _ => rfl).bind
  intro cell
  split
  · exact .pure _
  · split
    · rename_i compute known
      exact ObjectModel.IsBlind.property known ref
    · split
      · exact .pure _
      · exact ignoresLog_missing _ name

theorem ignoresLog_contextMember (identity : Nat) (subject : Value) (negated : Bool)
    (name : String) : IgnoresLog (contextMember identity subject negated name) := by
  unfold contextMember
  split
  · exact .pure _
  · exact ignoresLog_newIdentity.bind fun fresh => .pure _
  · exact .pure subject
  · apply (PropertyPredicate.ignoresLog_examine _ subject).bind
    intro finding
    exact (finding.ignoresLog_settle negated).bind fun _ => .pure _
  · exact .pure _
  · exact ignoresLog_missing _ name

/-- Reading a member does not look at the log. -/
theorem ignoresLog_member (self : Value) (name : String) : IgnoresLog (self.member name) := by
  unfold member
  refine .ite (ignoresLog_missing self name) ?_
  split
  · exact ignoresLog_objectMember _ name
  · exact ignoresLog_contextMember _ _ _ name
  · rename_i error
    refine (IgnoresLog.read fun records world => ?_).bind fun found => ?_
    · exact error.member?_withRecords records world name
    · split
      · exact .pure _
      · exact ignoresLog_missing _ name
  · split
    · exact .pure _
    · exact ignoresLog_missing _ name

theorem ignoresLog_member? (self : Value) (name : String) : IgnoresLog (self.member? name) := by
  apply (ignoresLog_member self name).attempt.bind
  intro outcome
  split
  · exact .pure _
  · exact (IgnoresLog.read fun _ _ => rfl).bind fun cell => .ite (.pure none) (.raise _)

theorem ignoresLog_callObject (ref : ObjectRef) (name : String) (arguments : List Value) :
    IgnoresLog (callObject ref name arguments) := by
  apply (IgnoresLog.read fun _ _ => rfl).bind
  intro className
  split
  · rename_i found known
    apply (found.signature.ignoresLog_check arguments).bind
    intro _
    exact ObjectModel.IsBlind.method known ref arguments
  · exact ignoresLog_missing _ name

/-- Calling a value does not look at the log, if methods of assertion contexts do not. -/
theorem ignoresLog_callWith
    {onContext : Value → Value → Bool → String → List Value → Action Value}
    (ignores : ∀ self subject negated name arguments,
      IgnoresLog (onContext self subject negated name arguments))
    (function : Value) (arguments : List Value) :
    IgnoresLog (callWith onContext function arguments) := by
  unfold callWith
  split
  · apply (predicateSignature.ignoresLog_check arguments).bind
    intro _
    split
    · exact ObjectModel.IsBlind.apply _ _
    · exact .pure _
  · exact ignoresLog_construct _ arguments
  · split
    · exact ignoresLog_callObject _ _ arguments
    · exact ErrorRef.ignoresLog_reworded _ arguments
    · exact ignores _ _ _ _ arguments
    · exact ignoresLog_callPlain _ _ arguments
  · exact .pure _
  · exact (ignoresLog_typeName _).bind fun kind => ignoresLog_fail _

theorem ignoresLog_callAsPredicate (function : Value) (arguments : List Value) :
    IgnoresLog (callAsPredicate function arguments) :=
  ignoresLog_callWith (fun _ _ _ _ _ => ignoresLog_fail _) function arguments

end Value

namespace CallPredicate

theorem ignoresLog_examineLengthOf (subject length : Value) :
    IgnoresLog (examineLengthOf subject length) :=
  (ignoresLog_render subject).bind fun _ => (Value.ignoresLog_length subject).bind fun actual =>
    (Value.ignoresLog_isEqual (.integer actual) length).bind fun _ =>
      (ignoresLog_plain length).bind fun _ => .pure _

theorem ignoresLog_examineSatisfy (subject predicate : Value) :
    IgnoresLog (examineSatisfy subject predicate) :=
  (ignoresLog_render subject).bind fun _ =>
    (Value.ignoresLog_callAsPredicate predicate [subject]).bind fun answer =>
      (Value.ignoresLog_truth answer).bind fun _ => .pure _

theorem ignoresLog_lookUp (subject name : Value) : IgnoresLog (lookUp subject name) := by
  unfold lookUp
  split
  · apply (Value.ignoresLog_contains _ name).bind
    intro there
    refine (IgnoresLog.read fun records world => ?_).bind fun found => .pure _
    simp only [World.view_withRecords, World.tableAt_withRecords]
  · split
    · apply (Value.ignoresLog_member? _ _).bind
      intro first
      exact (Value.ignoresLog_member? _ _).bind fun second => .pure _
    · exact (ignoresLog_typeName _).bind fun kind => ignoresLog_fail _

theorem ignoresLog_examineProperty (subject name : Value) (rest : List Value) :
    IgnoresLog (examineProperty subject name rest) := by
  apply (ignoresLog_render subject).bind
  intro rendered
  apply (ignoresLog_lookUp subject name).bind
  intro found
  obtain ⟨there, member⟩ := found
  dsimp only
  split
  · refine .ite ((Value.ignoresLog_isEqual _ _).bind fun holds => ?_)
      ((IgnoresLog.pure false).bind fun holds => ?_)
    · exact (ignoresLog_display name).bind fun shown =>
        (ignoresLog_render _).bind fun other => .pure _
    · exact (ignoresLog_display name).bind fun shown =>
        (ignoresLog_render _).bind fun other => .pure _
  · exact (ignoresLog_display name).bind fun shown => .pure _

theorem ignoresLog_examine (predicate : CallPredicate) (subject : Value)
    (arguments : List Value) : IgnoresLog (predicate.examine subject arguments) := by
  unfold examine
  split
  · exact ignoresLog_examineEqual subject _
  · exact ignoresLog_examineWithin subject _ _
  · exact ignoresLog_examineIncludes subject _
  · exact ignoresLog_examineTypeNamed subject _
  · exact ignoresLog_examineInstanceOf subject _
  · exact ignoresLog_examineLengthOf subject _
  · exact ignoresLog_examineMatches subject _
  · exact ignoresLog_examineSatisfy subject _
  · exact (ignoresLog_examineProperty subject _ _).bind fun found => .pure found.1
  · split
    · exact ignoresLog_examineBound _ _ _ _ subject _
    · exact ignoresLog_fail _

theorem ignoresLog_call (predicate : CallPredicate) (self subject : Value) (negated : Bool)
    (arguments : List Value) : IgnoresLog (predicate.call self subject negated arguments) := by
  apply (predicate.signature.ignoresLog_check arguments).bind
  intro _
  split
  · apply (ignoresLog_examineProperty subject _ _).bind
    intro found
    apply (found.1.ignoresLog_settle negated).bind
    intro _
    exact ignoresLog_newIdentity.bind fun fresh => .pure _
  · apply (ignoresLog_examine predicate subject _).bind
    intro finding
    exact (finding.ignoresLog_settle negated).bind fun _ => .pure self

end CallPredicate

namespace Value

theorem ignoresLog_callContext (self subject : Value) (negated : Bool) (name : String)
    (arguments : List Value) : IgnoresLog (self.callContext subject negated name arguments) := by
  unfold callContext
  split
  · exact CallPredicate.ignoresLog_call _ self subject negated arguments
  · exact ignoresLog_missing self name

/-- Calling a value does not look at the log. -/
theorem ignoresLog_call (function : Value) (arguments : List Value) :
    IgnoresLog (function.call arguments) :=
  ignoresLog_callWith ignoresLog_callContext function arguments

end Value

end Objects

end DeferredSpec
