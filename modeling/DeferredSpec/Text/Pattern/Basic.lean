/-
# Text patterns

A pattern is matched one character at a time: at a place it may match nothing at
all, and once the character there is taken it leaves patterns that are still to be
matched. Search only asks whether some part of a text matches, so it follows all
that is left at once, and how much a repetition prefers to take plays no part.
-/

import DeferredSpec.Text.CharacterClass
import Std.Data.HashSet

namespace DeferredSpec

/-- A named class of characters. -/
inductive CharKind
  | digit
  | word
  | space
  deriving DecidableEq, Hashable, Repr

namespace CharKind

/-- Whether a character is of the kind. -/
def holds : CharKind → Char → Bool
  | .digit, c => CharacterClass.isDigit c
  | .word, c => CharacterClass.isWord c
  | .space, c => CharacterClass.isSpace c

end CharKind

/-- A member of a bracketed set. Characters are given by their codes, not all of which
stand for a character that a text can hold. -/
inductive SetItem
  | single (code : Nat)
  | range (first last : Nat)
  | named (negated : Bool) (kind : CharKind)
  deriving DecidableEq, Hashable, Repr

namespace SetItem

/-- Whether a character is covered. -/
def holds (c : Char) : SetItem → Bool
  | .single code => c.toNat == code
  | .range first last => first ≤ c.toNat && c.toNat ≤ last
  | .named negated kind => kind.holds c != negated

end SetItem

/-- What one character may be. -/
inductive CharSet
  | anyButNewline
  | oneOf (negated : Bool) (items : List SetItem)
  deriving DecidableEq, Hashable, Repr

namespace CharSet

/-- Whether a character belongs to the set. -/
def holds (c : Char) : CharSet → Bool
  | .anyButNewline => c != '\n'
  | .oneOf negated items => items.any (SetItem.holds c) != negated

end CharSet

/-- A condition on a position. -/
inductive Anchor
  | start
  | ending
  | veryEnd
  | boundary (negated : Bool)
  | notBefore (set : CharSet)
  deriving DecidableEq, Hashable, Repr

/-- A pattern. -/
inductive Pattern
  | empty
  | one (set : CharSet)
  | anchored (condition : Anchor)
  | sequence (first second : Pattern)
  | either (first second : Pattern)
  | repeated (item : Pattern) (least : Nat) (most : Option Nat)
  deriving DecidableEq, Hashable, Repr, Inhabited

/-- A place in a text: the character before it, and all that follows. -/
structure TextPlace where
  before : Option Char
  after : List Char
  deriving DecidableEq, Repr

namespace TextPlace

/-- Whether a word begins or ends here. -/
def atBoundary (place : TextPlace) : Bool :=
  place.before.any CharacterClass.isWord != place.after.head?.any CharacterClass.isWord

/-- Whether the place is all there is of its text. -/
def isAlone (place : TextPlace) : Bool := place.before.isNone && place.after.isEmpty

/-- Whether an anchor holds here; an ending may have one newline behind it, and an empty
text has neither boundaries nor places between them. -/
def satisfies (place : TextPlace) : Anchor → Bool
  | .start => place.before.isNone
  | .ending => place.after == [] || place.after == ['\n']
  | .veryEnd => place.after.isEmpty
  | .boundary negated => !place.isAlone && place.atBoundary != negated
  | .notBefore set => !place.after.head?.any set.holds

end TextPlace

namespace Pattern

/-- Whether the pattern matches nothing at all at a place. -/
def holdsAt (place : TextPlace) : Pattern → Bool
  | .empty => true
  | .one _ => false
  | .anchored condition => place.satisfies condition
  | .sequence first second => first.holdsAt place && second.holdsAt place
  | .either first second => first.holdsAt place || second.holdsAt place
  | .repeated item least _ => least == 0 || item.holdsAt place

/-- One pattern behind another. -/
def followedBy (first second : Pattern) : Pattern :=
  if first = .empty then second else if second = .empty then first else .sequence first second

/-- A repetition after one of its rounds. If the item also matches nothing, no
further round is owed. -/
def oneLess (item : Pattern) (least : Nat) (most : Option Nat) (owesNothing : Bool) : Pattern :=
  match most with
  | some 0 => .empty
  | some 1 => .empty
  | most => .repeated item (if owesNothing then 0 else least - 1) (most.map fun count => count - 1)

/-- What is left to match once the character at a place is taken. -/
def leftAfter (place : TextPlace) (c : Char) : Pattern → List Pattern
  | .empty => []
  | .one set => if set.holds c then [.empty] else []
  | .anchored _ => []
  | .sequence first second =>
      let inside := (first.leftAfter place c).map fun left => left.followedBy second
      if first.holdsAt place then inside ++ second.leftAfter place c else inside
  | .either first second => first.leftAfter place c ++ second.leftAfter place c
  | .repeated item least most =>
      if most = some 0 then []
      else
        (item.leftAfter place c).map fun left =>
          left.followedBy (oneLess item least most (item.holdsAt place))

/-- The members of a list, each of them once. -/
def distinct (patterns : List Pattern) : List Pattern := (Std.HashSet.ofList patterns).toList

/-- Whether a match ends somewhere from here on: one of those begun before, or one of
the pattern itself, which may begin at every place. -/
def search (pattern : Pattern) (begun : List Pattern) (before : Option Char) :
    List Char → Bool
  | [] => (pattern :: begun).any (holdsAt ⟨before, []⟩)
  | c :: rest =>
      let place : TextPlace := ⟨before, c :: rest⟩
      let running := pattern :: begun
      running.any (holdsAt place)
        || search pattern (distinct (running.flatMap (leftAfter place c))) (some c) rest

/-- Whether the pattern matches somewhere in the text. -/
def occursIn (pattern : Pattern) (text : String) : Bool := pattern.search [] none text.toList

end Pattern

end DeferredSpec
