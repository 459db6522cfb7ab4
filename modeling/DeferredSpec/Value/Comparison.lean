/-
# Equality and order of values

Numbers of different kinds compare exactly; truth values count as numbers.
Sequences order by their first unequal pair, sets by inclusion; the keys and the
entries of a table compare like sets with each other and with sets. Inside containers
a value always equals itself, which matters for NaNs alone. Values of kinds
without a common order are incomparable, which is a fault and not an answer. A list that
lies inside itself is entered again as deep as a comparison goes.
-/

import DeferredSpec.Value.Snapshot

namespace DeferredSpec

/-- The four order comparisons. -/
inductive OrderTest
  | below
  | atMost
  | above
  | atLeast
  deriving DecidableEq, Repr

namespace OrderTest

/-- The sign of a comparison. -/
def sign : OrderTest → String
  | .below => "<"
  | .atMost => "<="
  | .above => ">"
  | .atLeast => ">="

/-- Whether the comparison holds between values in the given relation; unrelated
values pass none. -/
def accepts : OrderTest → Option Ordering → Bool
  | .below, relation => relation == some .lt
  | .atMost, relation => relation == some .lt || relation == some .eq
  | .above, relation => relation == some .gt
  | .atLeast, relation => relation == some .gt || relation == some .eq

end OrderTest

namespace Snapshot

/-- Where a number lies on the extended line: nothing for other values, and no
place for a NaN. -/
def number? : Snapshot → Option (Option Extended)
  | .boolean value => some (some (.rational (if value then 1 else 0)))
  | .integer value => some (some (.rational value))
  | .float value => some value.toExtended?
  | _ => none

/-- How two numbers relate. -/
def relateNumbers (first second : Option Extended) : Option Ordering :=
  match first, second with
  | some a, some b => some (if a.lt b then .lt else if b.lt a then .gt else .eq)
  | _, _ => none

/-- How two byte strings relate. -/
def relateBytes : List UInt8 → List UInt8 → Ordering
  | [], [] => .eq
  | [], _ :: _ => .lt
  | _ :: _, [] => .gt
  | a :: as, b :: bs => if a < b then .lt else if b < a then .gt else relateBytes as bs

/-- How two texts relate, by code points. -/
def relateTexts (first second : String) : Ordering :=
  if first < second then .lt else if second < first then .gt else .eq

mutual

/-- Equality of values. `inside` holds between the members of containers, where a
NaN equals itself. -/
def equals (inside : Bool) : Snapshot → Snapshot → Bool
  | .null, .null => true
  | .text a, .text b => a == b
  | .bytes a, .bytes b => a == b
  | .tuple xs, .tuple ys => equalsAll xs ys
  | .set xs, .set ys => xs.length == ys.length && includes ys xs
  | .set xs, .view _ kind ys => kind.isSetLike && xs.length == ys.length && includes ys xs
  | .view _ kind xs, .set ys => kind.isSetLike && xs.length == ys.length && includes ys xs
  | .view i kind xs, .view j other ys =>
      i == j
        || (kind.isSetLike && other.isSetLike && xs.length == ys.length && includes ys xs)
  | .list r xs, .list s ys => r == s || equalsAll xs ys
  | .table r xs, .table s ys => r == s || (xs.length == ys.length && includesEntries ys xs)
  | .cycle r, .cycle s => r == s
  | .cycle r, .list s _ => r == .list s
  | .list r _, .cycle s => s == .list r
  | .cycle r, .table s _ => r == .table s
  | .table r _, .cycle s => s == .table r
  | .object r .., .object s .. => r == s
  | .error r .., .error s .. => r == s
  | .assertion r .., .assertion s .. => r == s
  | .predicate r _, .predicate s _ => r == s
  | .type r, .type s => r == s
  | .method r m, .method s n => m == n && equals true r s
  | .code, .code => true
  | .float (.nan p), .float (.nan q) => inside && p == q
  | a, b =>
      match number? a, number? b with
      | some x, some y => relateNumbers x y == some .eq
      | _, _ => false

/-- Sequences are equal when their members are, pair by pair. -/
def equalsAll : List Snapshot → List Snapshot → Bool
  | [], [] => true
  | x :: xs, y :: ys => equals true x y && equalsAll xs ys
  | _, _ => false

/-- Whether every one of the second values is among the first. -/
def includes (whole : List Snapshot) : List Snapshot → Bool
  | [] => true
  | x :: xs => whole.any (equals true x) && includes whole xs

/-- Whether every one of the second entries is among the first. -/
def includesEntries (whole : List (Snapshot × Snapshot)) : List (Snapshot × Snapshot) → Bool
  | [] => true
  | (key, value) :: entries =>
      whole.any (fun entry => equals true key entry.1 && equals true value entry.2)
        && includesEntries whole entries

end

/-- The names of two types without a common order, left then right. -/
structure Incomparable where
  left : String
  right : String
  deriving DecidableEq, Repr

/-- The members of a value that compares like a set. -/
def setMembers? : Snapshot → Option (List Snapshot)
  | .set items => some items
  | .view _ kind items => if kind.isSetLike then some items else none
  | _ => none

/-- How two sets relate by inclusion. -/
def relateSets (first second : List Snapshot) : Option Ordering :=
  match includes second first, includes first second with
  | true, true => some .eq
  | true, false => some .lt
  | false, true => some .gt
  | false, false => none

mutual

/-- How two values relate, where their kinds have a common order. -/
def relate : Snapshot → Snapshot → Except Incomparable (Option Ordering)
  | .text a, .text b => .ok (some (relateTexts a b))
  | .bytes a, .bytes b => .ok (some (relateBytes a b))
  | .tuple xs, .tuple ys => relateAll xs ys
  | .list _ xs, .list _ ys => relateAll xs ys
  | a, b =>
      match number? a, number? b, setMembers? a, setMembers? b with
      | some x, some y, _, _ => .ok (relateNumbers x y)
      | _, _, some xs, some ys => .ok (relateSets xs ys)
      | _, _, _, _ => .error ⟨a.typeName, b.typeName⟩

/-- Sequences relate as their first unequal pair does; without one, by length. -/
def relateAll : List Snapshot → List Snapshot → Except Incomparable (Option Ordering)
  | [], [] => .ok (some .eq)
  | [], _ :: _ => .ok (some .lt)
  | _ :: _, [] => .ok (some .gt)
  | x :: xs, y :: ys => if equals true x y then relateAll xs ys else relate x y

end

mutual

/-- How many sequences a value holds, itself included. -/
def sequenceCount : Snapshot → Nat
  | .tuple items => sequenceCounts items + 1
  | .list _ items => sequenceCounts items + 1
  | _ => 0

/-- How many sequences several values hold. -/
def sequenceCounts : List Snapshot → Nat
  | [] => 0
  | item :: items => sequenceCount item + sequenceCounts items

end

mutual

/-- How deep the sequences of a value lie in one another, unless one lies inside itself. -/
def depth? : Snapshot → Option Nat
  | .tuple items => (greatestDepth? items).map (· + 1)
  | .list _ items => (greatestDepth? items).map (· + 1)
  | .cycle _ => none
  | _ => some 0

/-- The greatest depth of several values. -/
def greatestDepth? : List Snapshot → Option Nat
  | [] => some 0
  | item :: items => (depth? item).bind fun depth => (greatestDepth? items).map (max depth)

end

/-- How deep a comparison can go into two values: no deeper than into the one without
cycles, and where both have cycles, not past all pairs of their sequences, as behind these
the same pairs meet again without end. -/
def meetingDepth (first second : Snapshot) : Nat :=
  match first.depth?, second.depth? with
  | some _, some _ => 0
  | some depth, none => depth
  | none, some depth => depth
  | none, none => first.sequenceCount * second.sequenceCount

/-- Whether a snapshot is that of a container. -/
def isOf (container : ContainerRef) : Snapshot → Bool
  | .list ref _ => container == .list ref
  | _ => false

/-- Enter the lists that lie inside themselves again, down to a depth. `around` are the
lists that the value lies in, the innermost first. -/
def unrolled : Nat → List Snapshot → Snapshot → Snapshot
  | depth + 1, around, .tuple items => .tuple (items.map (unrolled depth around))
  | depth + 1, around, .list ref items =>
      .list ref (items.map (unrolled depth (.list ref items :: around)))
  | depth + 1, around, .cycle container =>
      match around.find? (isOf container) with
      | some (.list ref items) => .list ref (items.map (unrolled depth around))
      | _ => .cycle container
  | _, _, value => value

/-- Whether a comparison holds between two values. -/
def compare (test : OrderTest) (first second : Snapshot) : Except Incomparable Bool :=
  let depth := first.meetingDepth second
  (relate (first.unrolled depth []) (second.unrolled depth [])).map test.accepts

end Snapshot

end DeferredSpec
