/-
# Faults of conversions

Why a type cannot make a value from what it is called with.
-/

import DeferredSpec.Number.IntegerText
import DeferredSpec.Value.Basic

namespace DeferredSpec

/-- Why a value cannot be made from others. Types are given by name. -/
inductive ConversionFault
  | integerText (base : Nat) (shown : String)
  | integerSource (type : String)
  | integerDigits (count : Nat)
  | baseWithoutText
  | baseOutOfRange
  | integerTooLarge
  | notANumberAsInteger
  | infinityAsInteger
  | floatText (shown : String)
  | floatSource (type : String)
  | optionNotText (callee option type : String)
  | textFromText
  | textFrom (type : String)
  | unknownCodec (name : String)
  | unknownHandler (name : String)
  | textWithoutCodec
  | codecWithoutText
  | negativeCount
  | byteOutOfRange
  | bytesFrom (type : String)
  | entryNotSequence (index : Nat)
  | entryLength (index length : Nat)
  deriving DecidableEq, Repr

namespace ConversionFault

/-- The name of the class of error that a fault becomes. -/
def errorName : ConversionFault → String
  | .integerSource _ => "TypeError"
  | .baseWithoutText => "TypeError"
  | .integerTooLarge => "OverflowError"
  | .infinityAsInteger => "OverflowError"
  | .floatSource _ => "TypeError"
  | .optionNotText .. => "TypeError"
  | .textFromText => "TypeError"
  | .textFrom _ => "TypeError"
  | .unknownCodec _ => "LookupError"
  | .unknownHandler _ => "LookupError"
  | .textWithoutCodec => "TypeError"
  | .codecWithoutText => "TypeError"
  | .bytesFrom _ => "TypeError"
  | .entryNotSequence _ => "TypeError"
  | _ => "ValueError"

/-- The message of a fault. -/
def message : ConversionFault → String
  | .integerText base shown =>
      "invalid literal for int() with base " ++ toString base ++ ": " ++ shown
  | .integerSource type =>
      "int() argument must be a string, a bytes-like object or a real number, not '" ++ type ++ "'"
  | .integerDigits count => NumberReader.digitLimitMessage count
  | .baseWithoutText => "int() can't convert non-string with explicit base"
  | .baseOutOfRange => "int() base must be >= 2 and <= 36, or 0"
  | .integerTooLarge => "int too large to convert to float"
  | .notANumberAsInteger => "cannot convert float NaN to integer"
  | .infinityAsInteger => "cannot convert float infinity to integer"
  | .floatText shown => "could not convert string to float: " ++ shown
  | .floatSource type =>
      "float() argument must be a string or a real number, not '" ++ type ++ "'"
  | .optionNotText callee option type =>
      callee ++ "() argument '" ++ option ++ "' must be str, not " ++ type
  | .textFromText => "decoding str is not supported"
  | .textFrom type => "decoding to str: need a bytes-like object, " ++ type ++ " found"
  | .unknownCodec name => "unknown encoding: " ++ name
  | .unknownHandler name => "unknown error handler name '" ++ name ++ "'"
  | .textWithoutCodec => "string argument without an encoding"
  | .codecWithoutText => "encoding without a string argument"
  | .negativeCount => "negative count"
  | .byteOutOfRange => "bytes must be in range(0, 256)"
  | .bytesFrom type => "cannot convert '" ++ type ++ "' object to bytes"
  | .entryNotSequence index =>
      "cannot convert dictionary update sequence element #" ++ toString index ++ " to a sequence"
  | .entryLength index length =>
      "dictionary update sequence element #" ++ toString index ++ " has length "
        ++ toString length ++ "; 2 is required"

end ConversionFault

end DeferredSpec
