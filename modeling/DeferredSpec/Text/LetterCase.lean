/-
# Letter case

Texts in capitals and in small letters, and words with their first letter large.
A letter may become several, and the small form of one letter depends on its place
in the word.
-/

import DeferredSpec.Text.CaseData
import DeferredSpec.Text.CharacterClass

namespace DeferredSpec

namespace LetterCase

/-- The distance from a letter to its image, if a run holds the letter. -/
def shift? : List (Nat × Nat × Nat × Int) → Nat → Option Int
  | [], _ => none
  | (first, last, step, shift) :: runs, code =>
      if code < first then none
      else if code ≤ last && (code - first) % step == 0 then some shift
      else shift? runs code

/-- The image of a character under a change of case that is given by runs and by
sequences, if the change touches it. -/
def image? (runs : List (Nat × Nat × Nat × Int)) (sequences : List (Nat × List Nat)) (c : Char) :
    Option (List Char) :=
  match sequences.lookup c.toNat with
  | some codes => some (codes.map Char.ofNat)
  | none => (shift? runs c.toNat).map fun shift => [Char.ofNat ((c.toNat : Int) + shift).toNat]

/-- The capital form of a character. -/
def capital (c : Char) : List Char :=
  (image? CaseData.capitalRuns CaseData.capitalSequences c).getD [c]

/-- The form of a character at the head of a word. -/
def initial (c : Char) : List Char :=
  (image? CaseData.initialRuns CaseData.initialSequences c).getD (capital c)

/-- The small form of a character that stands alone. -/
def small (c : Char) : List Char :=
  (image? CaseData.smallRuns CaseData.smallSequences c).getD [c]

/-- The letter whose small form depends on its place. -/
def capitalSigma : Char := '\u03a3'

/-- The small sigma that stands at the head of a word, inside it, or alone. -/
def innerSigma : Char := '\u03c3'

/-- The small sigma that ends a word. -/
def finalSigma : Char := '\u03c2'

/-- Whether the first character that a search does not pass over is a letter with a case. -/
def meetsLetter (text : List Char) : Bool :=
  (text.dropWhile CharacterClass.isCaseIgnorable).head?.any CharacterClass.isCased

/-- The small forms of characters; `before` are those in front of them, nearest first. -/
def smallAfter (before : List Char) : List Char → List Char
  | [] => []
  | c :: rest =>
      let forms :=
        if c == capitalSigma then
          [if meetsLetter before && !meetsLetter rest then finalSigma else innerSigma]
        else small c
      forms ++ smallAfter (c :: before) rest

/-- A text in capitals. -/
def capitals (text : String) : String := String.ofList (text.toList.flatMap capital)

/-- A text in small letters. -/
def smalls (text : String) : String := String.ofList (smallAfter [] text.toList)

/-- A text with its first letter large and the others small. -/
def capitalized (text : String) : String :=
  match text.toList with
  | [] => ""
  | first :: rest => String.ofList (initial first ++ smallAfter [first] rest)

/-- The capital form of an ASCII letter in a byte string; other bytes stay. -/
def capitalByte (byte : UInt8) : UInt8 :=
  if 97 ≤ byte && byte ≤ 122 then byte - 32 else byte

/-- The small form of an ASCII letter in a byte string; other bytes stay. -/
def smallByte (byte : UInt8) : UInt8 := if 65 ≤ byte && byte ≤ 90 then byte + 32 else byte

/-- A byte string with its first letter large and the others small. -/
def capitalizedBytes : List UInt8 → List UInt8
  | [] => []
  | first :: rest => capitalByte first :: rest.map smallByte

end LetterCase

end DeferredSpec
