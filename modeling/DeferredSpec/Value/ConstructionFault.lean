/-
# Faults of errors themselves

Why an error of a class cannot be built from what it is given. Most classes take
anything; those about a codec, a place in a source or a group of errors do not.
-/

import DeferredSpec.Value.Basic

namespace DeferredSpec

/-- Why an error cannot be built. Parts are counted from one, items from zero. -/
inductive ConstructionFault
  | exactly (count given : Nat)
  | atLeast (count given : Nat)
  | atMost (count given : Nat)
  | partNotText (part : Nat) (type : String)
  | positionTooLarge
  | amountTooLarge
  | endOffsetMissing
  | groupArity (given : Nat)
  | groupMessage (type : String)
  | groupNotSequence
  | groupEmpty
  | groupItem (index : Nat)
  | groupNesting
  deriving DecidableEq, Repr

namespace ConstructionFault

/-- The name of the class of error that a fault becomes. -/
def errorName : ConstructionFault → String
  | .positionTooLarge => "OverflowError"
  | .amountTooLarge => "ValueError"
  | .groupEmpty => "ValueError"
  | .groupItem _ => "ValueError"
  | _ => "TypeError"

/-- The constructor that groups of errors share. -/
def groupConstructor : String := "BaseExceptionGroup.__new__()"

/-- The message of a fault. -/
def message : ConstructionFault → String
  | .exactly count given =>
      "function takes exactly " ++ toString count ++ " arguments (" ++ toString given ++ " given)"
  | .atLeast count given =>
      "function takes at least " ++ toString count ++ " arguments (" ++ toString given ++ " given)"
  | .atMost count given =>
      "function takes at most " ++ toString count ++ " arguments (" ++ toString given ++ " given)"
  | .partNotText part type => "argument " ++ toString part ++ " must be str, not " ++ type
  | .positionTooLarge => "Python int too large to convert to C ssize_t"
  | .amountTooLarge => "cannot fit 'int' into an index-sized integer"
  | .endOffsetMissing => "end_offset must be provided when end_lineno is provided"
  | .groupArity given =>
      groupConstructor ++ " takes exactly 2 arguments (" ++ toString given ++ " given)"
  | .groupMessage type => groupConstructor ++ " argument 1 must be str, not " ++ type
  | .groupNotSequence => "second argument (exceptions) must be a sequence"
  | .groupEmpty => "second argument (exceptions) must be a non-empty sequence"
  | .groupItem index =>
      "Item " ++ toString index ++ " of second argument (exceptions) is not an exception"
  | .groupNesting => "Cannot nest BaseExceptions in an ExceptionGroup"

end ConstructionFault

end DeferredSpec
