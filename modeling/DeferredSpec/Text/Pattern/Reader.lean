/-
# Reading patterns

A pattern text is split into tokens and the tokens are put together on a stack
of open groups. The first fault from the left is reported with its position;
a token may itself be a fault, so that what stands before it is looked at first.
-/

import DeferredSpec.Number.IntegerText
import DeferredSpec.Text.Pattern.Basic

namespace DeferredSpec

namespace Pattern

/-- What is wrong with a pattern text. -/
inductive Trouble
  | unterminatedSet
  | nothingToRepeat
  | multipleRepeat
  | unterminatedGroup
  | unbalancedParenthesis
  | repeatBoundsReversed
  | reversedRange (first last : String)
  | badEscape (text : String)
  | incompleteEscape (text : String)
  | octalTooLarge (text : String)
  | escapeAtEnd
  | noSuchGroup (number : Nat)
  | openGroup
  | endOfPattern
  | unknownExtension (text : String)
  | countTooLarge
  | countTooLong (digits : Nat)
  deriving DecidableEq, Repr

namespace Trouble

/-- The name of the class of error that a trouble becomes. -/
def errorName : Trouble → String
  | .countTooLarge => "OverflowError"
  | .countTooLong _ => "ValueError"
  | _ => "error"

/-- Whether a trouble is reported with its position. -/
def isPlaced : Trouble → Bool
  | .countTooLarge => false
  | .countTooLong _ => false
  | _ => true

/-- The message of a trouble without its position. -/
def message : Trouble → String
  | .unterminatedSet => "unterminated character set"
  | .nothingToRepeat => "nothing to repeat"
  | .multipleRepeat => "multiple repeat"
  | .unterminatedGroup => "missing ), unterminated subpattern"
  | .unbalancedParenthesis => "unbalanced parenthesis"
  | .repeatBoundsReversed => "min repeat greater than max repeat"
  | .reversedRange first last => "bad character range " ++ first ++ "-" ++ last
  | .badEscape text => "bad escape " ++ text
  | .incompleteEscape text => "incomplete escape " ++ text
  | .octalTooLarge text => "octal escape value " ++ text ++ " outside of range 0-0o377"
  | .escapeAtEnd => "bad escape (end of pattern)"
  | .noSuchGroup number => "invalid group reference " ++ toString number
  | .openGroup => "cannot refer to an open group"
  | .endOfPattern => "unexpected end of pattern"
  | .unknownExtension text => "unknown extension " ++ text
  | .countTooLarge => "the repetition number is too large"
  | .countTooLong digits => NumberReader.digitLimitMessage digits

end Trouble

/-- A trouble, where it lies, and also in which line and column if the text has several
lines. -/
structure Fault where
  trouble : Trouble
  position : Nat
  lines : Option (Nat × Nat) := none
  deriving DecidableEq, Repr

namespace Fault

/-- The message of a fault. -/
def message (fault : Fault) : String :=
  if fault.trouble.isPlaced then
    fault.trouble.message ++ " at position " ++ toString fault.position ++
      match fault.lines with
      | none => ""
      | some (line, column) => s!" (line {line}, column {column})"
  else fault.trouble.message

/-- A fault of a text, with its line and column if the text has several lines. -/
def inText (text : List Char) (fault : Fault) : Fault :=
  if text.contains '\n' then
    let before := text.take fault.position
    { fault with
      lines := some (before.count '\n' + 1, (before.reverse.takeWhile (· != '\n')).length + 1) }
  else fault

end Fault

/-- How far a repetition goes: what it takes it may give back, or it keeps it. -/
inductive Grip
  | yielding
  | keeping
  deriving DecidableEq, Repr

/-- A token of a pattern text. -/
inductive Token
  | one (set : CharSet)
  | anchor (anchor : Anchor)
  | quantifier (least : Nat) (most : Option Nat) (grip : Grip)
  | opening (numbered : Bool)
  | closing
  | bar
  | reference (number : Nat) (text : String)
  | fault (fault : Fault)
  deriving DecidableEq, Repr

/-- The number that digits denote in a base. -/
def numberOf (base : Nat) (digits : List Char) : Nat :=
  digits.foldl (fun total digit => base * total + (NumberReader.digitIn? base digit).getD 0) 0

/-- The digits of a base at the head of a text, up to a number of them, and the text behind. -/
def takeDigits (base most : Nat) (text : List Char) : List Char × List Char :=
  let digits := (text.take most).takeWhile fun c => (NumberReader.digitIn? base c).isSome
  (digits, text.drop digits.length)

/-- What an escape stands for, or what is wrong with it, and the text behind it. -/
structure Escape where
  result : Except Trouble SetItem
  rest : List Char

/-- An escape of exactly `width` hexadecimal digits. -/
def hexEscape (width : Nat) (letter : Char) (rest : List Char) : Escape :=
  let (digits, tail) := takeDigits 16 width rest
  let text := String.ofList ('\\' :: letter :: digits)
  if digits.length < width then ⟨.error (.incompleteEscape text), tail⟩
  else
    let code := numberOf 16 digits
    if code ≤ 0x10FFFF then ⟨.ok (.single code), tail⟩ else ⟨.error (.badEscape text), tail⟩

/-- An escape of octal digits. -/
def octalEscape (digits rest : List Char) : Escape :=
  let code := numberOf 8 digits
  if code ≤ 0o377 then ⟨.ok (.single code), rest⟩
  else ⟨.error (.octalTooLarge (String.ofList ('\\' :: digits))), rest⟩

/-- What an escape stands for inside and outside a set alike. The letter after the
backslash has been taken. -/
def escape (letter : Char) (rest : List Char) : Escape :=
  match letter with
  | 'd' => ⟨.ok (.named false .digit), rest⟩
  | 'D' => ⟨.ok (.named true .digit), rest⟩
  | 'w' => ⟨.ok (.named false .word), rest⟩
  | 'W' => ⟨.ok (.named true .word), rest⟩
  | 's' => ⟨.ok (.named false .space), rest⟩
  | 'S' => ⟨.ok (.named true .space), rest⟩
  | 'a' => ⟨.ok (.single 7), rest⟩
  | 't' => ⟨.ok (.single 9), rest⟩
  | 'n' => ⟨.ok (.single 10), rest⟩
  | 'v' => ⟨.ok (.single 11), rest⟩
  | 'f' => ⟨.ok (.single 12), rest⟩
  | 'r' => ⟨.ok (.single 13), rest⟩
  | 'x' => hexEscape 2 letter rest
  | 'u' => hexEscape 4 letter rest
  | 'U' => hexEscape 8 letter rest
  | letter =>
      if letter.isAlphanum then ⟨.error (.badEscape (String.ofList ['\\', letter])), rest⟩
      else ⟨.ok (.single letter.toNat), rest⟩

/-- What an escape stands for inside a set. -/
def setEscape (letter : Char) (rest : List Char) : Escape :=
  if letter == 'b' then ⟨.ok (.single 8), rest⟩
  else if (NumberReader.digitIn? 8 letter).isSome then
    let (digits, tail) := takeDigits 8 2 rest
    octalEscape (letter :: digits) tail
  else escape letter rest

/-- One member of a set: what it stands for, the unit it begins with, and the text behind. -/
inductive Member
  | item (item : SetItem) (unit : String) (rest : List Char)
  | ended
  | fault (fault : Fault)

/-- Read one member of a set; `total` is the length of the whole pattern. A backslash at
the end of the pattern is found as soon as what stands before it has been taken. -/
def setMember (total : Nat) (text : List Char) : Member :=
  let atEnd : Member := .fault ⟨.escapeAtEnd, total - 1, none⟩
  match text with
  | [] => .ended
  | ['\\'] => atEnd
  | '\\' :: letter :: behind =>
      let escape := setEscape letter behind
      if escape.rest == ['\\'] then atEnd
      else
        match escape.result with
        | .ok item => .item item (String.ofList ['\\', letter]) escape.rest
        | .error trouble => .fault ⟨trouble, total - text.length, none⟩
  | c :: rest =>
      if rest == ['\\'] then atEnd else .item (.single c.toNat) (String.ofList [c]) rest

/-- A range between two members, if both are single characters in order. -/
def rangeOf? : SetItem → SetItem → Option SetItem
  | .single first, .single last => if first ≤ last then some (.range first last) else none
  | _, _ => none

/-- The members of a set up to its closing bracket. `total` is the length of the
whole pattern and `opened` the position of the bracket that opened the set. -/
def setItems (total opened : Nat) :
    Nat → Bool → List SetItem → List Char → Except Fault (List SetItem × List Char)
  | 0, _, _, _ => .error ⟨.unterminatedSet, opened, none⟩
  | fuel + 1, isFirst, items, text =>
      match text with
      | [] => .error ⟨.unterminatedSet, opened, none⟩
      | c :: afterBracket =>
          if c == ']' && !isFirst then .ok (items.reverse, afterBracket)
          else
            match setMember total text with
            | .ended => .error ⟨.unterminatedSet, opened, none⟩
            | .fault fault => .error fault
            | .item item unit rest =>
                match rest with
                | '-' :: ']' :: tail =>
                    .ok ((SetItem.single '-'.toNat :: item :: items).reverse, tail)
                | ['-'] => .error ⟨.unterminatedSet, opened, none⟩
                | '-' :: high =>
                    match setMember total high with
                    | .ended => .error ⟨.unterminatedSet, opened, none⟩
                    | .fault fault => .error fault
                    | .item last lastUnit tail =>
                        match rangeOf? item last with
                        | some range => setItems total opened fuel false (range :: items) tail
                        | none =>
                            let width := unit.length + 1 + lastUnit.length
                            .error ⟨.reversedRange unit lastUnit, total - tail.length - width, none⟩
                | _ => setItems total opened fuel false (item :: items) rest

/-- The digits of the bounds of a counted repetition behind its opening brace, and the
text behind the closing one. Anything else there makes the brace an ordinary character. -/
def bounds? (text : List Char) : Option (List Char × List Char × List Char) :=
  let low := text.takeWhile Char.isDigit
  let afterLow := text.dropWhile Char.isDigit
  match afterLow with
  | '}' :: rest => if low.isEmpty then none else some (low, low, rest)
  | ',' :: afterComma =>
      let high := afterComma.takeWhile Char.isDigit
      match afterComma.dropWhile Char.isDigit with
      | '}' :: rest => some (low, high, rest)
      | _ => none
  | _ => none

/-- The first count that is too large for a repetition. -/
def countLimit : Nat := 4294967295

/-- The count that digits spell, if they spell one. -/
def count? (digits : List Char) : Except Trouble (Option Nat) :=
  if digits.isEmpty then .ok none
  else if NumberReader.digitLimit < digits.length then .error (.countTooLong digits.length)
  else
    let count := numberOf 10 digits
    if countLimit ≤ count then .error .countTooLarge else .ok (some count)

/-- A repetition between bounds. -/
def counted (low high : List Char) : Except Trouble Token := do
  let least ← count? low
  let most ← count? high
  let least := least.getD 0
  if most.any (· < least) then .error .repeatBoundsReversed
  else .ok (.quantifier least most .yielding)

/-- The token of an opening parenthesis and the text behind it. -/
def openingToken (total position : Nat) (rest : List Char) : Token × List Char :=
  match rest with
  | '?' :: ':' :: inner => (.opening false, inner)
  | ['?'] => (.fault ⟨.endOfPattern, total, none⟩, [])
  | '?' :: ['\\'] => (.fault ⟨.escapeAtEnd, total - 1, none⟩, [])
  | '?' :: c :: inner =>
      if "P#=!<(>-aiLmsux".toList.contains c then (.opening true, rest)
      else
        let unit := if c == '\\' then c :: inner.take 1 else [c]
        (.fault ⟨.unknownExtension (String.ofList ('?' :: unit)), position + 1, none⟩,
          rest.drop (unit.length + 1))
  | inner => (.opening true, inner)

/-- The token of an escape outside a set and the text behind it. -/
def escapeToken (position : Nat) (letter : Char) (rest : List Char) : Token × List Char :=
  let ofEscape (escape : Escape) : Token × List Char :=
    match escape.result with
    | .ok item => (.one (.oneOf false [item]), escape.rest)
    | .error trouble => (.fault ⟨trouble, position, none⟩, escape.rest)
  match letter with
  | 'b' => (.anchor (.boundary false), rest)
  | 'B' => (.anchor (.boundary true), rest)
  | 'A' => (.anchor .start, rest)
  | 'Z' => (.anchor .veryEnd, rest)
  | '0' =>
      let (digits, tail) := takeDigits 8 2 rest
      ofEscape (octalEscape ('0' :: digits) tail)
  | letter =>
      if letter.isDigit then
        let reference (digits tail : List Char) : Token × List Char :=
          (.reference (numberOf 10 digits) (String.ofList ('\\' :: digits)), tail)
        match rest with
        | second :: tail =>
            if !second.isDigit then reference [letter] rest
            else
              let (more, behind) := takeDigits 8 1 tail
              let digits := letter :: second :: more
              if !more.isEmpty && digits.all fun c => (NumberReader.digitIn? 8 c).isSome then
                ofEscape (octalEscape digits behind)
              else reference [letter, second] tail
        | [] => reference [letter] []
      else ofEscape (escape letter rest)

/-- The token at the head of a text and the text behind it. -/
def token (total : Nat) (c : Char) (rest : List Char) : Token × List Char :=
  let position := total - (rest.length + 1)
  let literal : Token := .one (.oneOf false [.single c.toNat])
  match c with
  | '.' => (.one .anyButNewline, rest)
  | '^' => (.anchor .start, rest)
  | '$' => (.anchor .ending, rest)
  | '(' => openingToken total position rest
  | ')' => (.closing, rest)
  | '|' => (.bar, rest)
  | '*' => (.quantifier 0 none .yielding, rest)
  | '+' => (.quantifier 1 none .yielding, rest)
  | '?' => (.quantifier 0 (some 1) .yielding, rest)
  | '{' =>
      match bounds? rest with
      | none => (literal, rest)
      | some (low, high, tail) =>
          match counted low high with
          | .ok token => (token, tail)
          | .error trouble => (.fault ⟨trouble, position + 1, none⟩, tail)
  | '[' =>
      let (negated, inner) :=
        match rest with
        | '^' :: inner => (true, inner)
        | inner => (false, inner)
      match setItems total position (inner.length + 1) true [] inner with
      | .ok (items, tail) => (.one (.oneOf negated items), tail)
      | .error fault => (.fault fault, [])
  | '\\' =>
      match rest with
      | [] => (.fault ⟨.escapeAtEnd, position, none⟩, [])
      | letter :: tail => escapeToken position letter tail
  | _ => (literal, rest)

/-- A quantifier takes a mark behind it along. How much it prefers to match does not change
what can be matched, but whether it gives back what it took does. -/
def takeMark (token : Token) (rest : List Char) : Token × List Char :=
  match token, rest with
  | .quantifier least most _, '?' :: tail => (.quantifier least most .yielding, tail)
  | .quantifier least most _, '+' :: tail => (.quantifier least most .keeping, tail)
  | token, rest => (token, rest)

/-- The tokens of a text with their positions. A backslash at the end of the text is found
as soon as the token before it has been taken, unless that is a closing parenthesis. -/
def tokens (total : Nat) : Nat → List Char → List (Token × Nat)
  | 0, _ => []
  | _, [] => []
  | fuel + 1, c :: rest =>
      let (plain, behind) := token total c rest
      let (first, tail) := takeMark plain behind
      let found : Token :=
        if behind == ['\\'] && c != ')' then .fault ⟨.escapeAtEnd, total - 1, none⟩ else first
      (found, total - (rest.length + 1)) :: tokens total fuel tail

/-- What stands last in a sequence decides whether it can be repeated. -/
inductive Item
  | plain (pattern : Pattern)
  | anchored (pattern : Pattern)
  | repeated (pattern : Pattern)

namespace Item

/-- The pattern of an item. -/
def pattern : Item → Pattern
  | .plain pattern => pattern
  | .anchored pattern => pattern
  | .repeated pattern => pattern

end Item

/-- An open group: where it was opened, its number, if it has one, the finished
alternatives, and the items of the running one, last first. -/
structure OpenGroup where
  position : Nat
  number : Option Nat
  finished : Option Pattern
  items : List Item

namespace OpenGroup

/-- The items put in sequence. -/
def running (group : OpenGroup) : Pattern :=
  group.items.foldl (fun rest item => item.pattern.followedBy rest) .empty

/-- The whole group as one pattern. -/
def close (group : OpenGroup) : Pattern :=
  match group.finished with
  | none => group.running
  | some earlier => .either earlier group.running

/-- Finish the running alternative. -/
def alternate (group : OpenGroup) : OpenGroup :=
  { group with finished := some group.close, items := [] }

/-- Add an item to the running alternative. -/
def add (group : OpenGroup) (item : Item) : OpenGroup :=
  { group with items := item :: group.items }

end OpenGroup

/-- The repetition of an item. One that keeps what it takes goes on as long as a round is
possible; for an item of one character this is seen from the next character. -/
def quantified (item : Pattern) (least : Nat) (most : Option Nat) (grip : Grip) : Pattern :=
  match grip, item, most with
  | .keeping, .one set, none =>
      .sequence (.repeated item least none) (.anchored (.notBefore set))
  | .keeping, .one set, some most =>
      if least < most then
        .either (.repeated item most (some most))
          (.sequence (.repeated item least (some (most - 1))) (.anchored (.notBefore set)))
      else .repeated item least (some most)
  | _, item, most => .repeated item least most

/-- What is wrong with a reference to a group, of which some have been opened and some of
these are still open. Patterns here do not remember what their groups matched. -/
def referenceTrouble (number opened : Nat) (stillOpen : List OpenGroup) (text : String)
    (position : Nat) : Fault :=
  if opened < number then ⟨.noSuchGroup number, position + 1, none⟩
  else if stillOpen.any fun group => group.number == some number then ⟨.openGroup, position, none⟩
  else ⟨.badEscape text, position, none⟩

/-- Put tokens together; `inner` is the innermost open group, `outer` the groups
around it, nearest first, `opened` how many groups have been numbered. -/
def assemble (opened : Nat) (inner : OpenGroup) (outer : List OpenGroup) :
    List (Token × Nat) → Except Fault Pattern
  | [] => match outer with
      | [] => .ok inner.close
      | _ :: _ => .error ⟨.unterminatedGroup, inner.position, none⟩
  | (token, position) :: rest =>
      match token with
      | .fault fault => .error fault
      | .one set => assemble opened (inner.add (.plain (.one set))) outer rest
      | .anchor anchor => assemble opened (inner.add (.anchored (.anchored anchor))) outer rest
      | .bar => assemble opened inner.alternate outer rest
      | .opening false => assemble opened ⟨position, none, none, []⟩ (inner :: outer) rest
      | .opening true =>
          assemble (opened + 1) ⟨position, some (opened + 1), none, []⟩ (inner :: outer) rest
      | .closing => match outer with
          | [] => .error ⟨.unbalancedParenthesis, position, none⟩
          | around :: further => assemble opened (around.add (.plain inner.close)) further rest
      | .reference number text =>
          .error (referenceTrouble number opened (inner :: outer) text position)
      | .quantifier least most grip => match inner.items with
          | .plain pattern :: earlier =>
              let item : Item := .repeated (quantified pattern least most grip)
              assemble opened { inner with items := item :: earlier } outer rest
          | .repeated _ :: _ => .error ⟨.multipleRepeat, position, none⟩
          | _ => .error ⟨.nothingToRepeat, position, none⟩

/-- The pattern a text denotes. -/
def ofText (text : String) : Except Fault Pattern :=
  let chars := text.toList
  (assemble 0 ⟨0, none, none, []⟩ [] (tokens chars.length chars.length chars)).mapError
    (Fault.inText chars)

end Pattern

end DeferredSpec
