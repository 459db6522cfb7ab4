/-
# Integer texts

Integers are read in any base from 2 to 36: blanks around, a sign, a mark that may name
the base 2, 8 or 16, and digits with single underscores between them. In base zero the
mark decides the base, and a decimal number does not begin with a zero. Where the base is
no power of two, the number of digits is limited.
-/

import DeferredSpec.Number.Notation

namespace DeferredSpec

namespace NumberReader

/-- Why a text is no integer. -/
inductive IntegerFault
  | malformed
  | tooManyDigits (count : Nat)
  deriving DecidableEq, Repr

/-- The greatest number of digits that are read, where the base is no power of two. -/
def digitLimit : Nat := 4300

/-- What is said about too many digits. -/
def digitLimitMessage (count : Nat) : String :=
  "Exceeds the limit (4300 digits) for integer string conversion: value has "
    ++ toString count ++ " digits; use sys.set_int_max_str_digits() to increase the limit"

/-- The value of a digit or letter as a digit of a base. -/
def digitIn? (base : Nat) (c : Char) : Option Nat :=
  let value :=
    if c.isDigit then some (c.toNat - '0'.toNat)
    else if 'a' ≤ c && c ≤ 'z' then some (c.toNat - 'a'.toNat + 10)
    else if 'A' ≤ c && c ≤ 'Z' then some (c.toNat - 'A'.toNat + 10)
    else none
  value.filter (· < base)

/-- The digits at the head of a text and the text behind them; nothing if an underscore
does not stand between two digits. `marked` says whether one stands before. -/
def digitsIn? (base : Nat) (marked : Bool) : List Char → Option (List Nat × List Char)
  | [] => if marked then none else some ([], [])
  | c :: rest =>
      if c == '_' then if marked then none else digitsIn? base true rest
      else
        match digitIn? base c with
        | some digit => (digitsIn? base false rest).map fun read => (digit :: read.1, read.2)
        | none => if marked then none else some ([], c :: rest)

/-- The base that a mark names. -/
def markedBase? (mark : Char) : Option Nat :=
  if mark == 'x' || mark == 'X' then some 16
  else if mark == 'o' || mark == 'O' then some 8
  else if mark == 'b' || mark == 'B' then some 2
  else none

/-- The base in which a text is read, and the text behind its mark, if the mark is that
of the given base, or the base is zero. -/
def takeMark (base : Nat) (text : List Char) : Nat × List Char :=
  match text with
  | '0' :: mark :: rest =>
      match markedBase? mark with
      | some marked =>
          if base == marked || base == 0 then
            (marked, match rest with
              | '_' :: rest => rest
              | rest => rest)
          else (base, text)
      | none => (if base == 0 then 10 else base, text)
  | text => (if base == 0 then 10 else base, text)

/-- Whether a base is a power of two. -/
def isPowerOfTwo (base : Nat) : Bool := [2, 4, 8, 16, 32].contains base

/-- The integer that a text spells in a base. -/
def integer (base : Nat) (text : String) : Except IntegerFault Int :=
  let (negative, body) := sign (trim text.toList)
  let (actual, body) := takeMark base body
  match if body.head? == some '_' then none else digitsIn? actual false body with
  | none => .error .malformed
  | some (digits, tail) =>
      if !isPowerOfTwo actual && digitLimit < digits.length then
        .error (.tooManyDigits digits.length)
      else
        let magnitude := digits.foldl (fun total digit => actual * total + digit) 0
        let padded := base == 0 && actual == 10 && body.head? == some '0' && magnitude != 0
        if digits.isEmpty || !tail.isEmpty || padded then .error .malformed
        else .ok (if negative then -(magnitude : Int) else magnitude)

end NumberReader

end DeferredSpec
