/-
# Classes of characters

Which characters are written as they are, and which count as digits, blanks or
parts of a word, in every script. A class is the list of its ranges.
-/

import DeferredSpec.Text.CharacterData

namespace DeferredSpec

namespace CharacterClass

/-- Whether a code point lies in one of the closed ranges, which are ascending. -/
def inRanges : List (Nat × Nat) → Nat → Bool
  | [], _ => false
  | (first, last) :: ranges, code =>
      if code < first then false else code ≤ last || inRanges ranges code

/-- The range that a code point lies in. -/
def rangeOf? : List (Nat × Nat) → Nat → Option (Nat × Nat)
  | [], _ => none
  | (first, last) :: ranges, code =>
      if code < first then none
      else if code ≤ last then some (first, last)
      else rangeOf? ranges code

/-- Whether a character is written as it is. -/
def isPrintable (c : Char) : Bool := inRanges CharacterData.printable c.toNat

/-- Whether a character is a decimal digit. -/
def isDigit (c : Char) : Bool := inRanges CharacterData.digit c.toNat

/-- The value of a decimal digit of any script. -/
def digitValue? (c : Char) : Option Nat :=
  (rangeOf? CharacterData.digit c.toNat).map fun range => (c.toNat - range.1) % 10

/-- The ASCII digit of the same value as a decimal digit of any script; all else
stays as it is. -/
def plainDigit (c : Char) : Char :=
  match digitValue? c with
  | some value => Char.ofNat ('0'.toNat + value)
  | none => c

/-- A text with ASCII digits in the place of those of other scripts. -/
def plainDigits (text : String) : String := String.ofList (text.toList.map plainDigit)

/-- Whether a character is a blank. -/
def isSpace (c : Char) : Bool := inRanges CharacterData.space c.toNat

/-- Whether a character can be part of a word. -/
def isWord (c : Char) : Bool := inRanges CharacterData.word c.toNat

/-- Whether a character is a letter with a case. -/
def isCased (c : Char) : Bool := inRanges CharacterData.cased c.toNat

/-- Whether a search for a letter with a case passes over a character. -/
def isCaseIgnorable (c : Char) : Bool := inRanges CharacterData.caseIgnorable c.toNat

end CharacterClass

end DeferredSpec
