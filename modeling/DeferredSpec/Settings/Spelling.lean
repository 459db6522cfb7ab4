/-
# How settings spell numbers

Texts that stand for numbers in settings follow a grammar that is lenient about zeros
and underscores. The underscores of a text are dropped if none lies at an end and no two
are neighbours. Zeros before an integer are dropped with any underscores between them,
and so is a fraction of zeros. A double is read as it stands, or without its underscores.
-/

import DeferredSpec.Number.Notation

namespace DeferredSpec

namespace NumberSpelling

/-- Why a text spells no integer. -/
inductive Fault
  | malformed
  | tooLong
  deriving DecidableEq, Repr

/-- Whether two underscores are neighbours. -/
def hasDoubled : List Char → Bool
  | '_' :: '_' :: _ => true
  | _ :: rest => hasDoubled rest
  | [] => false

/-- A text without its underscores, if it has some, none at an end and no two of them
neighbours. -/
def joined? (text : List Char) : Option (List Char) :=
  if text.contains '_' && text.head? != some '_' && text.getLast? != some '_'
      && !hasDoubled text then
    some (text.filter (· != '_'))
  else none

/-- Whether an integer can begin with a character. -/
def isLeading (c : Char) : Bool := ('1' ≤ c && c ≤ '9') || c == '-'

/-- What is left of a text behind a zero once zeros and underscores are dropped: one
character is kept where nothing or a point follows. -/
def dropZeros (latest : Char) : List Char → Option (List Char)
  | [] => some [latest]
  | c :: rest =>
      if c == '0' || c == '_' then dropZeros c rest
      else if isLeading c then some (c :: rest)
      else if c == '.' then some (latest :: c :: rest)
      else none

/-- A text without the zeros before its first other digit. -/
def withoutZeros? : List Char → Option (List Char)
  | [] => none
  | first :: rest =>
      if first == '0' then dropZeros first rest
      else if isLeading first then some (first :: rest)
      else none

/-- A text without a plus sign before it, which no minus sign may follow. -/
def withoutPlus? : List Char → Option (List Char)
  | '+' :: '-' :: _ => none
  | '+' :: rest => some rest
  | text => some text

/-- A text without a point and the zeros behind it, if nothing else follows the point. -/
def withoutFraction (text : List Char) : List Char :=
  match text.dropWhile (· != '.') with
  | '.' :: first :: zeros =>
      if (first :: zeros).all (· == '0') then text.takeWhile (· != '.') else text
  | _ => text

/-- The longest run of digits that is read. -/
def digitLimit : Nat := 4300

/-- An integer without superfluous zeros. -/
def plainInteger (text : List Char) : Except Fault Int :=
  let (negative, digits) :=
    match text with
    | '-' :: digits => (true, digits)
    | digits => (false, digits)
  if digits.isEmpty || !digits.all Char.isDigit then .error .malformed
  else if digits.head? == some '0' && 1 < digits.length then .error .malformed
  else if digitLimit < digits.length then .error .tooLong
  else
    let magnitude : Int := NumberReader.ofDigits digits
    .ok (if negative then -magnitude else magnitude)

/-- The integer that a text spells. -/
def integer (text : String) : Except Fault Int :=
  match (withoutPlus? (NumberReader.trim text.toList)).bind withoutZeros? with
  | none => .error .malformed
  | some trimmed =>
      let whole := withoutFraction trimmed
      plainInteger ((joined? whole).getD whole)

/-- The double that a text spells without underscores. -/
def plainDouble? (text : List Char) : Option Binary64 :=
  if text.contains '_' then none else NumberReader.double? 0 (String.ofList text)

/-- The double that a text spells. No blanks may lie around a text with underscores. -/
def double? (text : String) : Option Binary64 :=
  match plainDouble? text.toList with
  | some value => some value
  | none =>
      match joined? text.toList with
      | some joined =>
          if NumberReader.trim joined = joined then plainDouble? joined else none
      | none => none

end NumberSpelling

end DeferredSpec
