/-
# Faults

The ways in which an operation on values can fail. A fault is the cause; raising
it makes an error object of the matching class with the matching message.
-/

import DeferredSpec.Text.Pattern.Reader
import DeferredSpec.Value.ConstructionFault
import DeferredSpec.Value.ConversionFault
import DeferredSpec.World.View

namespace DeferredSpec

/-- Why an operation failed. Types are given by name, left before right. -/
inductive Fault
  | incomparable (test : OrderTest) (types : Snapshot.Incomparable)
  | notIterable (type : String)
  | cannotIterate (type : String)
  | textNeedsText (type : String)
  | bytesNeedBytes (type : String)
  | byteOutOfRange
  | unhashable (type : String)
  | noLength (type : String)
  | negativeLength
  | lengthTooLarge
  | notAnInteger (type : String)
  | notATypeTest
  | noAttribute (type name : String)
  | noTypeAttribute (type name : String)
  | attributeNameNotText (type : String)
  | patternNotText
  | patternOfBytes
  | badPattern (fault : Pattern.Fault)
  | missingArguments (function : String) (names : List String)
  | surplusArguments (function : String) (least most given : Nat)
  | noArgumentsTaken (function : String) (given : Nat)
  | exactlyOneArgument (function : String) (given : Nat)
  | nothingTaken (function : String)
  | atLeastTaken (function : String) (least given : Nat)
  | atMostTaken (function : String) (most given : Nat)
  | atLeastExpected (function : String) (least given : Nat)
  | atMostExpected (function : String) (most given : Nat)
  | notText (type : String)
  | notByte (type : String)
  | notAnIndex
  | unboundMethod (name : String)
  | notCallable (type : String)
  | operand (sign left right : String)
  | concatenation (left right : String)
  | bytesConcatenation (right : String)
  | repetition (type : String)
  | noAbsoluteValue (type : String)
  | repeatedTooLong (noun : String)
  | outOfMemory
  | conversion (fault : ConversionFault)
  | construction (fault : ConstructionFault)
  | unwritable (reason : Unwritable)
  | notATextItem (index : Nat) (type : String)
  | unknownClass (name : String)
  | readOnly (name owner : String)
  | notWritable (name owner : String)
  | reservedName (name : String)
  | noResult
  | indexOutOfRange
  | negativeRetries
  | noCallbackRun
  | notAnError
  | causeNotAnError
  | noVariant
  | classNotType
  | membersNotTable
  deriving DecidableEq, Repr

namespace Fault

/-- The kind of error that a fault becomes. -/
def kind : Fault → ErrorKind
  | .byteOutOfRange => .host "ValueError"
  | .negativeLength => .host "ValueError"
  | .negativeRetries => .host "ValueError"
  | .lengthTooLarge => .host "OverflowError"
  | .repeatedTooLong _ => .host "OverflowError"
  | .outOfMemory => .host "MemoryError"
  | .conversion fault => .host fault.errorName
  | .construction fault => .host fault.errorName
  | .unwritable .tooManyDigits => .host "ValueError"
  | .unknownClass _ => .host "AttributeError"
  | .noAttribute .. => .host "AttributeError"
  | .noTypeAttribute .. => .host "AttributeError"
  | .readOnly .. => .host "AttributeError"
  | .notWritable .. => .host "AttributeError"
  | .reservedName _ => .host "AttributeError"
  | .badPattern fault => .host fault.trouble.errorName
  | .noResult => .host "KeyError"
  | .noVariant => .host "KeyError"
  | .indexOutOfRange => .host "IndexError"
  | .noCallbackRun => .base
  | _ => .host "TypeError"

/-- Quoted names in a sentence: `'a'`, `'a' and 'b'`, `'a', 'b', and 'c'`. -/
def listed (names : List String) : String :=
  let quoted := names.map fun name => "'" ++ name ++ "'"
  match quoted with
  | [] => ""
  | [only] => only
  | [first, second] => first ++ " and " ++ second
  | many => ", ".intercalate many.dropLast ++ ", and " ++ many.getLast?.getD ""

/-- A count with its noun in the right number. -/
def counted (count : Nat) (noun : String) : String :=
  toString count ++ " " ++ noun ++ (if count = 1 then "" else "s")

/-- The message of a fault. -/
def message : Fault → String
  | .incomparable test types =>
      "'" ++ test.sign ++ "' not supported between instances of '" ++ types.left ++ "' and '"
        ++ types.right ++ "'"
  | .notIterable type => "argument of type '" ++ type ++ "' is not iterable"
  | .cannotIterate type => "'" ++ type ++ "' object is not iterable"
  | .textNeedsText type => "'in <string>' requires string as left operand, not " ++ type
  | .bytesNeedBytes type => "a bytes-like object is required, not '" ++ type ++ "'"
  | .byteOutOfRange => "byte must be in range(0, 256)"
  | .unhashable type => "unhashable type: '" ++ type ++ "'"
  | .noLength type => "object of type '" ++ type ++ "' has no len()"
  | .negativeLength => "__len__() should return >= 0"
  | .lengthTooLarge => "cannot fit 'int' into an index-sized integer"
  | .notAnInteger type => "'" ++ type ++ "' object cannot be interpreted as an integer"
  | .notATypeTest => "isinstance() arg 2 must be a type, a tuple of types, or a union"
  | .noAttribute type name => "'" ++ type ++ "' object has no attribute '" ++ name ++ "'"
  | .noTypeAttribute type name => "type object '" ++ type ++ "' has no attribute '" ++ name ++ "'"
  | .attributeNameNotText type => "attribute name must be string, not '" ++ type ++ "'"
  | .patternNotText => "first argument must be string or compiled pattern"
  | .patternOfBytes => "cannot use a bytes pattern on a string-like object"
  | .badPattern fault => fault.message
  | .missingArguments function names =>
      function ++ "() missing " ++ counted names.length "required positional argument" ++ ": "
        ++ listed names
  | .surplusArguments function least most given =>
      let range :=
        if least = most then counted most "positional argument"
        else "from " ++ toString least ++ " to " ++ counted most "positional argument"
      function ++ "() takes " ++ range ++ " but " ++ toString given ++
        (if given = 1 then " was given" else " were given")
  | .noArgumentsTaken function given =>
      function ++ "() takes no arguments (" ++ toString given ++ " given)"
  | .exactlyOneArgument function given =>
      function ++ "() takes exactly one argument (" ++ toString given ++ " given)"
  | .nothingTaken function => function ++ " takes no arguments"
  | .atLeastTaken function least given =>
      function ++ "() takes at least " ++ counted least "argument" ++ " (" ++ toString given
        ++ " given)"
  | .atMostTaken function most given =>
      function ++ "() takes at most " ++ counted most "argument" ++ " (" ++ toString given
        ++ " given)"
  | .atLeastExpected function least given =>
      function ++ " expected at least " ++ counted least "argument" ++ ", got " ++ toString given
  | .atMostExpected function most given =>
      function ++ " expected at most " ++ counted most "argument" ++ ", got " ++ toString given
  | .notText type => "must be str, not " ++ type
  | .notByte type => "argument should be integer or bytes-like object, not '" ++ type ++ "'"
  | .notAnIndex => "slice indices must be integers or None or have an __index__ method"
  | .unboundMethod name => "unbound method " ++ name ++ "() needs an argument"
  | .notCallable type => "'" ++ type ++ "' object is not callable"
  | .operand sign left right =>
      "unsupported operand type(s) for " ++ sign ++ ": '" ++ left ++ "' and '" ++ right ++ "'"
  | .concatenation left right =>
      "can only concatenate " ++ left ++ " (not \"" ++ right ++ "\") to " ++ left
  | .bytesConcatenation right => "can't concat " ++ right ++ " to bytes"
  | .repetition type => "can't multiply sequence by non-int of type '" ++ type ++ "'"
  | .noAbsoluteValue type => "bad operand type for abs(): '" ++ type ++ "'"
  | .repeatedTooLong noun => "repeated " ++ noun ++ " too long"
  | .outOfMemory => ""
  | .conversion fault => fault.message
  | .construction fault => fault.message
  | .unwritable (.displayOf type) => "__repr__ returned non-string (type " ++ type ++ ")"
  | .unwritable (.plainOf type) => "__str__ returned non-string (type " ++ type ++ ")"
  | .unwritable .tooManyDigits =>
      "Exceeds the limit (4300 digits) for integer string conversion; "
        ++ "use sys.set_int_max_str_digits() to increase the limit"
  | .notATextItem index type =>
      "sequence item " ++ toString index ++ ": expected str instance, " ++ type ++ " found"
  | .unknownClass name => "module 'builtins' has no attribute '" ++ name ++ "'"
  | .readOnly name owner => "property '" ++ name ++ "' of '" ++ owner ++ "' object has no setter"
  | .notWritable name owner =>
      "attribute '" ++ name ++ "' of '" ++ owner ++ "' objects is not writable"
  | .reservedName name => name
  | .noResult => "result"
  | .indexOutOfRange => "list index out of range"
  | .negativeRetries => "max_retries must be >= 0"
  | .notAnError => "exceptions must derive from BaseException"
  | .noCallbackRun => "delay function returned without running the retry callback"
  | .causeNotAnError => "exception cause must be None or derive from BaseException"
  | .noVariant => "None"
  | .classNotType => "__class__ must be set to a class, not 'NoneType' object"
  | .membersNotTable => "__dict__ must be set to a dictionary, not a 'NoneType'"

/-- What the error that a fault becomes is built from: its message, as a rule. -/
def arguments : Fault → List Value
  | .outOfMemory => []
  | .noVariant => [.null]
  | fault => [.text fault.message]

end Fault

namespace Action

variable {α : Type}

/-- Raise a new error object. -/
def raiseNew (kind : ErrorKind) (arguments : List Value) : Action α := do
  let error ← Effect.update (World.newError { kind, arguments, cause := none })
  Effect.raise error

/-- Raise the error that a fault becomes. -/
def fail (fault : Fault) : Action α := raiseNew fault.kind fault.arguments

/-- A text, or the error that says why there is none. -/
def ofWording (wording : Wording) : Action String :=
  match wording with
  | .ok text => pure text
  | .error reason => fail (.unwritable reason)

/-- The snapshot of a value in the present world. -/
def view (value : Value) : Action Snapshot := Effect.read fun world => world.view value

/-- The name of the type of a value. -/
def typeName (value : Value) : Action String := Effect.read fun world => world.typeName value

/-- The displayed text of a value. -/
def display (value : Value) : Action String := do
  let snapshot ← view value
  ofWording snapshot.display

/-- The rendered text of a value. -/
def render (value : Value) : Action String := do
  let snapshot ← view value
  ofWording snapshot.render

/-- Rendered arguments, separated by commas. -/
def renderAll (values : List Value) : Action String := do
  let snapshots ← Effect.read fun world => values.map world.view
  ofWording (Snapshot.renderAll snapshots)

/-- A short description of a value. -/
def describe (value : Value) : Action String := do
  let snapshot ← view value
  ofWording snapshot.describe

/-- What a value says in running text. -/
def plain (value : Value) : Action String := do
  let snapshot ← view value
  ofWording snapshot.plain

/-- Add a note. -/
def note (subject : String) (details : List Snapshot) : Action Unit :=
  Effect.modify (World.note ⟨subject, details⟩)

/-- Add a log record. -/
def log (level : Nat) (source message : String) : Action Unit :=
  Effect.modify (World.record ⟨level, source, message⟩)

/-- Add a log record whose message is composed when it is written. A message that cannot
be composed is not written. -/
def logComposed (level : Nat) (source : String) (message : World → Wording) : Action Unit :=
  Effect.modify fun world =>
    match message world with
    | .ok text => world.record ⟨level, source, text⟩
    | .error _ => world

/-- Make a list. -/
def newList (items : List Value) : Action Value := do
  let ref ← Effect.update (World.newList items)
  pure (.list ref)

end Action

/-- Raise a value, which must be an error. -/
def Value.raise {α : Type} (value : Value) : Action α :=
  match value with
  | .error ref => Effect.raise ref
  | _ => Action.fail .notAnError

/-- The log level of debugging records. -/
def debugLevel : Nat := 10

/-- The log level of informative records. -/
def infoLevel : Nat := 20

/-- The log level of error records. -/
def errorLevel : Nat := 40

end DeferredSpec
