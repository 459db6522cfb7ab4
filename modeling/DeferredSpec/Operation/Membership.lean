/-
# Membership, instances and comparison

Whether one value lies in another, is an instance of a type, or compares to
another. Looking into tables and sets needs a value that can be a key.
-/

import DeferredSpec.Operation.Size
import DeferredSpec.World.Iteration

namespace DeferredSpec

namespace Snapshot

mutual

/-- The type that keeps a value from being a key, if there is one. -/
def unhashable? : Snapshot → Option String
  | .list .. => some "list"
  | .table .. => some "dict"
  | .set _ => some "set"
  | .cycle (.list _) => some "list"
  | .cycle (.table _) => some "dict"
  | .view _ kind _ => if kind.isSetLike then some kind.typeName else none
  | .tuple items => unhashableAmong? items
  | _ => none

/-- The first type among several values that keeps one from being a key. -/
def unhashableAmong? : List Snapshot → Option String
  | [] => none
  | item :: items =>
      match unhashable? item with
      | some found => some found
      | none => unhashableAmong? items

end

/-- Whether one sequence occurs in another without gaps. -/
def occursIn {α : Type} [BEq α] (part : List α) : List α → Bool
  | [] => part.isEmpty
  | whole@(_ :: rest) => part.isPrefixOf whole || occursIn part rest

/-- Whether a value lies in a view of a table. A view of the entries is asked for a
pair, whose key must be able to be one. -/
def viewContains (kind : ViewKind) (items : List Snapshot) (member : Snapshot) :
    Except Fault Bool :=
  let asked : Option Snapshot :=
    match kind, member with
    | .keys, member => some member
    | .items, .tuple [key, _] => some key
    | _, _ => none
  match asked.bind unhashable? with
  | some found => .error (.unhashable found)
  | none =>
      match kind, asked with
      | .items, none => .ok false
      | _, _ => .ok (items.any (equals true member))

/-- Whether a value lies in a container, or why that cannot be asked. -/
def contains (container member : Snapshot) : Except Fault Bool :=
  match container with
  | .tuple items => .ok (items.any (equals true member))
  | .list _ items => .ok (items.any (equals true member))
  | .set items =>
      match member with
      | .set _ => .ok (items.any (equals true member))
      | member =>
          match member.unhashable? with
          | some found => .error (.unhashable found)
          | none => .ok (items.any (equals true member))
  | .table _ entries =>
      match member.unhashable? with
      | some found => .error (.unhashable found)
      | none => .ok (entries.any fun entry => equals true member entry.1)
  | .view _ kind items => viewContains kind items member
  | .text whole =>
      match member with
      | .text part => .ok (occursIn part.toList whole.toList)
      | member => .error (.textNeedsText member.typeName)
  | .bytes whole =>
      match member with
      | .bytes part => .ok (occursIn part whole)
      | .boolean value => .ok (whole.contains (if value then 1 else 0))
      | .integer value =>
          if 0 ≤ value && value < 256 then .ok (whole.contains (UInt8.ofNat value.toNat))
          else .error .byteOutOfRange
      | member => .error (.bytesNeedBytes member.typeName)
  | container => .error (.notIterable container.typeName)

/-- The type that ends a search for all of the first values among the second ones: the
first value that cannot be a key, unless one before it is missing. -/
def searchFault? (whole : List Snapshot) : List Snapshot → Option String
  | [] => none
  | part :: parts =>
      match part.unhashable? with
      | some found => some found
      | none => if whole.any (equals true part) then searchFault? whole parts else none

/-- The type that keeps two values from being compared like sets: entries of a table are
looked for among the members of a set or among keys. A comparison of sizes goes first. -/
def inclusionFault? (fits : Nat → Nat → Bool) : Snapshot → Snapshot → Option String
  | .view _ .items parts, .set whole =>
      if fits parts.length whole.length then searchFault? whole parts else none
  | .view _ .items parts, .view _ .keys whole =>
      if fits parts.length whole.length then searchFault? whole parts else none
  | _, _ => none

/-- The type that keeps two values from being tested for equality. -/
def equalityFault? (first second : Snapshot) : Option String :=
  match first with
  | .set _ => inclusionFault? (· == ·) second first
  | first => inclusionFault? (· == ·) first second

/-- The type that keeps two values from being compared. -/
def comparisonFault? (test : OrderTest) (first second : Snapshot) : Option String :=
  match test with
  | .below => inclusionFault? (· < ·) first second
  | .atMost => inclusionFault? (· ≤ ·) first second
  | .above => inclusionFault? (· < ·) second first
  | .atLeast => inclusionFault? (· ≤ ·) second first

end Snapshot

namespace TypeTag

/-- Whether values with this snapshot are instances of a type. -/
def hasInstance (tag : TypeTag) (value : Snapshot) : Bool :=
  tag == .object ||
    match value with
    | .object _ className .. =>
        match tag with
        | .defined _ name => name == className
        | _ => false
    | .error .. => false
    | .boolean _ => tag == .boolean || tag == .integer
    | value =>
        match tag with
        | .defined .. => false
        | tag => tag.name == value.typeName

end TypeTag

namespace Value

/-- Whether two values are equal. -/
def isEqual (first second : Value) : Action Bool := do
  let first ← Action.view first
  let second ← Action.view second
  match first.equalityFault? second with
  | some kind => Action.fail (.unhashable kind)
  | none => pure (first.equals false second)

/-- Whether a comparison holds between two values. -/
def compare (test : OrderTest) (first second : Value) : Action Bool := do
  let first ← Action.view first
  let second ← Action.view second
  match first.comparisonFault? test second, first.compare test second with
  | some kind, _ => Action.fail (.unhashable kind)
  | none, .ok holds => pure holds
  | none, .error types => Action.fail (.incomparable test types)

/-- Whether a value lies in a container. -/
def contains (container member : Value) : Action Bool := do
  let container ← Action.view container
  let member ← Action.view member
  match container.contains member with
  | .ok holds => pure holds
  | .error fault => Action.fail fault

mutual

/-- Whether a snapshot is that of an instance of a type, or of one of a tuple of
types, searched in order; nothing if a type is missing where one is needed. -/
def instanceTest? (value : Snapshot) : Value → Option Bool
  | .type tag => some (tag.hasInstance value)
  | .tuple types => instanceTestAll? value types
  | _ => none

/-- The test over several types: the first match decides. -/
def instanceTestAll? (value : Snapshot) : List Value → Option Bool
  | [] => some false
  | first :: rest =>
      match instanceTest? value first with
      | some false => instanceTestAll? value rest
      | decided => decided

end

/-- Whether a value is an instance of a type or of one of a tuple of types. -/
def isInstance (value classes : Value) : Action Bool := do
  let snapshot ← Action.view value
  match instanceTest? snapshot classes with
  | some holds => pure holds
  | none => Action.fail .notATypeTest

end Value

end DeferredSpec
