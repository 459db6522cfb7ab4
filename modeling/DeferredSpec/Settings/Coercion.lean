/-
# Coercions of settings

What a setting accepts: integers and doubles also as texts or byte strings that
spell them, truth values also as the usual words, delays only as something that
can be called. A value that is not accepted is a fault of one of a few kinds. Two
settings must not be negative as well.
-/

import DeferredSpec.Settings.Field
import DeferredSpec.Settings.Spelling
import DeferredSpec.World.SpecError

namespace DeferredSpec

/-- Why a value is not accepted for a setting. -/
inductive SettingFault
  | notAnInteger
  | unreadableInteger
  | oversizedInteger
  | fractional
  | notFinite
  | notABoolean
  | unreadableBoolean
  | notANumber
  | unreadableNumber
  | notCallable
  | negative (field : SettingField) (converted : Snapshot)
  | frozen
  deriving Repr

namespace SettingField

/-- What is said about a setting that is negative. -/
def negativeMessage (field : SettingField) (converted : Snapshot) : String :=
  match converted.display with
  | .ok shown => SpecError.configurationSentence field.name shown "must not be negative"
  | .error reason => (Fault.unwritable reason).message

end SettingField

namespace SettingFault

/-- The word for the kind of a fault. -/
def kind : SettingFault → String
  | .notAnInteger => "int_type"
  | .unreadableInteger => "int_parsing"
  | .oversizedInteger => "int_parsing_size"
  | .fractional => "int_from_float"
  | .notFinite => "finite_number"
  | .notABoolean => "bool_type"
  | .unreadableBoolean => "bool_parsing"
  | .notANumber => "float_type"
  | .unreadableNumber => "float_parsing"
  | .notCallable => "callable_type"
  | .negative .. => "value_error"
  | .frozen => "frozen_instance"

/-- The message of a fault. -/
def message : SettingFault → String
  | .notAnInteger => "Input should be a valid integer"
  | .unreadableInteger => "Input should be a valid integer, unable to parse string as an integer"
  | .oversizedInteger => "Unable to parse input string as an integer, exceeded maximum size"
  | .fractional => "Input should be a valid integer, got a number with a fractional part"
  | .notFinite => "Input should be a finite number"
  | .notABoolean => "Input should be a valid boolean"
  | .unreadableBoolean => "Input should be a valid boolean, unable to interpret input"
  | .notANumber => "Input should be a valid number"
  | .unreadableNumber => "Input should be a valid number, unable to parse string as a number"
  | .notCallable => "Input should be callable"
  | .negative field converted => "Value error, " ++ field.negativeMessage converted
  | .frozen => "Instance is frozen"

end SettingFault

namespace Coercion

/-- Accept an integer that a text spells. -/
def integerText (text : Option String) : Except SettingFault Int :=
  match text.map NumberSpelling.integer with
  | some (.ok value) => .ok value
  | some (.error .tooLong) => .error .oversizedInteger
  | _ => .error .unreadableInteger

/-- The words for truth. -/
def trueWords : List String := ["1", "on", "t", "true", "y", "yes"]

/-- The words for falsehood. -/
def falseWords : List String := ["0", "off", "f", "false", "n", "no"]

/-- A truth value as settings spell it: one of the words, in any case of ASCII letters. -/
def booleanText? (text : String) : Option Bool :=
  let word := String.ofList (text.toList.map Char.toLower)
  if trueWords.contains word then some true
  else if falseWords.contains word then some false
  else none

/-- The text of a byte string, if it is one. -/
def decoded? (bytes : List UInt8) : Option String := String.fromUTF8? (ByteArray.mk bytes.toArray)

/-- Accept what a text spells. -/
def spelled {α : Type} (fault : SettingFault) (read : String → Option α) (text : Option String) :
    Except SettingFault α :=
  match text.bind read with
  | some value => .ok value
  | none => .error fault

/-- Whether an integer is a machine word. -/
def isWord (value : Int) : Bool := -9223372036854775808 ≤ value && value < 9223372036854775808

/-- Whether a double without a fraction is accepted as an integer: it lies inside the range
of machine words and is not the lowest one. -/
def isInsideWords (value : Int) : Bool := isWord value && isWord (value - 1)

/-- Accept an integer. -/
def integer : Setting → Except SettingFault Int
  | .value (.integer value) => .ok value
  | .value (.boolean value) => .ok (if value then 1 else 0)
  | .value (.float value) =>
      match value.toInt?, value with
      | some number, _ => if isInsideWords number then .ok number else .error .oversizedInteger
      | none, .finite .. => .error .fractional
      | none, _ => .error .notFinite
  | .value (.text value) => integerText (some value)
  | .value (.bytes value) => integerText (decoded? value)
  | _ => .error .notAnInteger

/-- Accept zero and one as truth values; of the other integers some are at least readable. -/
def truth (readable : Bool) (value : Int) : Except SettingFault Bool :=
  if value = 0 then .ok false
  else if value = 1 then .ok true
  else if readable then .error .unreadableBoolean
  else .error .notABoolean

/-- Accept a truth value. -/
def boolean : Setting → Except SettingFault Bool
  | .value (.boolean value) => .ok value
  | .value (.integer value) => truth (isWord value) value
  | .value (.float value) =>
      match value.toInt? with
      | some number => truth (isInsideWords number) number
      | none => .error .notABoolean
  | .value (.text value) => spelled .unreadableBoolean booleanText? (some value)
  | .value (.bytes value) => spelled .unreadableBoolean booleanText? (decoded? value)
  | _ => .error .notABoolean

/-- Accept a double. An integer beyond the doubles is not one. -/
def double : Setting → Except SettingFault Binary64
  | .value (.float value) => .ok value
  | .value (.integer value) =>
      match Binary64.ofInt? value with
      | some double => .ok double
      | none => .error .notANumber
  | .value (.boolean value) => .ok (Binary64.ofQuotient false (if value then 1 else 0) 1)
  | .value (.text value) => spelled .unreadableNumber NumberSpelling.double? (some value)
  | .value (.bytes value) => spelled .unreadableNumber NumberSpelling.double? (decoded? value)
  | _ => .error .notANumber

/-- Accept nothing, or something that can be called. -/
def callable : Setting → Except SettingFault (Option Setting)
  | .value .null => .ok none
  | .value value => if value.isCallable then .ok (some (.value value)) else .error .notCallable
  | .course delay => .ok (some (.course delay))

/-- Accept an integer that is not negative. -/
def retryCount (setting : Setting) : Except SettingFault Int := do
  let value ← integer setting
  if value < 0 then .error (.negative .maxRetries (.integer value)) else .ok value

/-- Whether a double lies below zero; a NaN does not. -/
def isBelowZero (value : Binary64) : Bool :=
  match value.toExtended? with
  | some place => place.lt (.rational 0)
  | none => false

/-- Accept a double that does not lie below zero. -/
def interval (setting : Setting) : Except SettingFault Binary64 := do
  let value ← double setting
  if isBelowZero value then .error (.negative .retryInterval (.float value)) else .ok value

end Coercion

end DeferredSpec
