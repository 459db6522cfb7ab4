/-
# Members of plain values

Numbers, texts, byte strings and collections offer a few members: the parts of a number
are read, everything else is called.
-/

import DeferredSpec.Operation.Conversion
import DeferredSpec.World.CaseForm

namespace DeferredSpec

namespace Value

/-- The parts of an integer. -/
def integerPart? (number : Int) (name : String) : Option Value :=
  match name with
  | "real" => some (.integer number)
  | "imag" => some (.integer 0)
  | "numerator" => some (.integer number)
  | "denominator" => some (.integer 1)
  | _ => none

/-- The members of a plain value that are read. -/
def plainPart? (self : Value) (name : String) : Option Value :=
  match self with
  | .boolean value => integerPart? (if value then 1 else 0) name
  | .integer value => integerPart? value name
  | .float value =>
      match name with
      | "real" => some (.float value)
      | "imag" => some (.float (Binary64.zero false))
      | _ => none
  | _ => none

/-- The names of the methods of a plain value. -/
def plainMethods : Value → List String
  | .boolean _ => ["bit_length", "bit_count", "conjugate"]
  | .integer _ => ["bit_length", "bit_count", "conjugate"]
  | .float _ => ["is_integer", "conjugate"]
  | .text _ => ["upper", "lower", "capitalize", "count"]
  | .bytes _ => ["upper", "lower", "capitalize", "count"]
  | .tuple _ => ["count"]
  | .set _ => ["isdisjoint", "copy"]
  | .list _ => ["append", "count", "extend", "copy", "clear", "reverse"]
  | .table _ => ["keys", "items", "values", "get", "copy", "clear"]
  | .view _ kind _ => if kind.isSetLike then ["isdisjoint"] else []
  | _ => []

/-- A member of a plain value. -/
def plainMember? (self : Value) (name : String) : Option Value :=
  match self.plainPart? name with
  | some part => some part
  | none => if self.plainMethods.contains name then some (.method self name) else none

/-- The number of binary digits of an integer. -/
def bitLength (number : Int) : Nat := if number = 0 then 0 else number.natAbs.log2 + 1

/-- The number of ones among the binary digits of an integer. -/
def bitCount (number : Int) : Nat :=
  (List.range (bitLength number)).countP fun place => number.natAbs.testBit place

/-- How often a part occurs in a sequence, no two occurrences overlapping. `steps` bounds
the search, which goes on behind each occurrence. -/
def occurrences {α : Type} [BEq α] (part : List α) : Nat → List α → Nat
  | 0, _ => 0
  | _, [] => 0
  | steps + 1, whole@(_ :: rest) =>
      if part.isPrefixOf whole then occurrences part steps (whole.drop part.length) + 1
      else occurrences part steps rest

/-- How often a part occurs in a sequence; an empty part lies at every place. -/
def occurrencesIn {α : Type} [BEq α] (part whole : List α) : Nat :=
  if part.isEmpty then whole.length + 1 else occurrences part whole.length whole

/-- The place in a sequence that an index means, counted from the end if negative. -/
def placeOf (length : Nat) (absent : Nat) (index : Option Value) : Action Nat :=
  match index with
  | none => pure absent
  | some .null => pure absent
  | some value =>
      match value.asInteger? with
      | some index => pure (if index < 0 then index + length else index).toNat
      | none => Action.fail .notAnIndex

/-- The part of a sequence between two indices; nothing if it begins behind its end. -/
def sliceOf {α : Type} (items : List α) (indices : List Value) : Action (Option (List α)) := do
  let start ← placeOf items.length 0 indices[0]?
  let stop ← placeOf items.length items.length indices[1]?
  let stop := min stop items.length
  pure (if stop < start then none else some ((items.take stop).drop start))

/-- Accept from one to three arguments of a search. -/
def checkSearch (arguments : List Value) : Action Unit :=
  match arguments.length with
  | 0 => Action.fail (.atLeastTaken "count" 1 0)
  | given => if 3 < given then Action.fail (.atMostTaken "count" 3 given) else pure ()

/-- How often a text occurs in a text. -/
def countText (value : String) (arguments : List Value) : Action Value := do
  checkSearch arguments
  let slice ← sliceOf value.toList arguments.tail
  match arguments.headD .null with
  | .text part => pure (.integer ((slice.map (occurrencesIn part.toList)).getD 0))
  | sought => do
      let kind ← Action.typeName sought
      Action.fail (.notText kind)

/-- The bytes that a search looks for. -/
def soughtBytes (sought : Value) : Action (List UInt8) :=
  match sought with
  | .bytes part => pure part
  | sought =>
      match sought.asInteger? with
      | some number =>
          if 0 ≤ number && number < 256 then pure [UInt8.ofNat number.toNat]
          else Action.fail .byteOutOfRange
      | none => do
          let kind ← Action.typeName sought
          Action.fail (.notByte kind)

/-- How often bytes occur in a byte string. -/
def countBytes (value : List UInt8) (arguments : List Value) : Action Value := do
  checkSearch arguments
  let slice ← sliceOf value arguments.tail
  let part ← soughtBytes (arguments.headD .null)
  pure (.integer ((slice.map (occurrencesIn part)).getD 0))

/-- How many members of a sequence equal a value. -/
def countMembers (items : List Value) (sought : Value) : Action Value := do
  let count ← Effect.read fun world =>
    items.countP fun item => (world.view sought).equals true (world.view item)
  pure (.integer count)

/-- Whether none of several values lies in a container; the first that does ends the
search. -/
def avoids (container : Value) : List Value → Action Bool
  | [] => pure true
  | item :: items => do
      let there ← container.contains item
      if there then pure false else avoids container items

/-- Whether a set or a view has no member of another collection. Of two that compare like
sets the longer one is asked. -/
def isDisjoint (self other : Value) : Action Value := do
  let mine ← Effect.read fun world => (self.members? world).getD []
  let others ← other.iterate
  let isSet ← Effect.read fun world => (world.view other).setMembers?.isSome
  let swapped := isSet && mine.length < others.length
  let holds ← if swapped then avoids other mine else avoids self others
  pure (.boolean holds)

/-- A view of a table. -/
def newView (kind : ViewKind) (ref : TableRef) : Action Value := do
  let identity ← Effect.update World.newIdentity
  pure (.view identity kind ref)

/-- The value under a key of a table, or another one. -/
def getKey (ref : TableRef) (arguments : List Value) : Action Value :=
  match arguments with
  | [] => Action.fail (.atLeastExpected "get" 1 0)
  | key :: rest =>
      if 1 < rest.length then Action.fail (.atMostExpected "get" 2 arguments.length)
      else do
        checkKey key
        let found ← Effect.read fun world => (world.tableAt ref).find? fun entry =>
          (world.view key).equals true (world.view entry.1)
        pure ((found.map Prod.snd).getD (rest.headD .null))

/-- Run a method that takes no arguments. -/
def withNone (self : Value) (name : String) (arguments : List Value) (run : Action Value) :
    Action Value := do
  if arguments.isEmpty then run
  else do
    let kind ← Action.typeName self
    Action.fail (.noArgumentsTaken (kind ++ "." ++ name) arguments.length)

/-- Run a method that takes one argument. -/
def withOne (self : Value) (name : String) (arguments : List Value)
    (run : Value → Action Value) : Action Value := do
  match arguments with
  | [argument] => run argument
  | arguments => do
      let kind ← Action.typeName self
      Action.fail (.exactlyOneArgument (kind ++ "." ++ name) arguments.length)

/-- Change a list and return nothing. -/
def changeList (ref : ListRef) (change : List Value → List Value) : Action Value := do
  Effect.modify fun world => world.setList ref (change (world.listAt ref))
  pure .null

/-- A copy of a table. -/
def copyTable (ref : TableRef) : Action Value := do
  let entries ← Effect.read fun world => world.tableAt ref
  let copy ← Effect.update (World.newTable entries)
  pure (.table copy)

/-- A method of an integer. -/
def callInteger (self : Value) (number : Int) (name : String) (arguments : List Value) :
    Action Value :=
  withNone self name arguments <|
    match name with
    | "bit_length" => pure (.integer (bitLength number))
    | "bit_count" => pure (.integer (bitCount number))
    | _ => pure (.integer number)

/-- A method that asks a text or a byte string for one of its case forms. -/
def callCaseForm (self : Value) (name : String) (arguments : List Value) : Action Value :=
  withNone self name arguments <|
    match [CaseForm.capitals, .smalls, .capitalized].find? fun form => form.name == name with
    | some form => form.apply self
    | none => pure self

/-- A method of a list. -/
def callList (self : Value) (ref : ListRef) (name : String) (arguments : List Value) :
    Action Value :=
  match name with
  | "append" => withOne self name arguments fun item => changeList ref (· ++ [item])
  | "count" => withOne self name arguments fun item => do
      let items ← Effect.read fun world => world.listAt ref
      countMembers items item
  | "extend" => withOne self name arguments fun more => do
      let items ← more.iterate
      changeList ref (· ++ items)
  | "copy" => withNone self name arguments do
      let items ← Effect.read fun world => world.listAt ref
      Action.newList items
  | "clear" => withNone self name arguments (changeList ref fun _ => [])
  | _ => withNone self name arguments (changeList ref List.reverse)

/-- A method of a table. -/
def callTable (self : Value) (ref : TableRef) (name : String) (arguments : List Value) :
    Action Value :=
  match ViewKind.ofName? name, name with
  | some kind, name => withNone self name arguments (newView kind ref)
  | none, "get" => getKey ref arguments
  | none, "copy" => withNone self name arguments (copyTable ref)
  | none, name => withNone self name arguments do
      Effect.modify (World.setTable ref [])
      pure .null

/-- Call a method of a plain value. -/
def callPlain (self : Value) (name : String) (arguments : List Value) : Action Value :=
  match self with
  | .boolean value => callInteger self (if value then 1 else 0) name arguments
  | .integer value => callInteger self value name arguments
  | .float value =>
      withNone self name arguments <|
        if name == "is_integer" then pure (.boolean value.toInt?.isSome) else pure self
  | .text value => if name == "count" then countText value arguments
      else callCaseForm self name arguments
  | .bytes value => if name == "count" then countBytes value arguments
      else callCaseForm self name arguments
  | .tuple items => withOne self name arguments (countMembers items)
  | .list ref => callList self ref name arguments
  | .table ref => callTable self ref name arguments
  | self =>
      if name == "copy" then withNone self name arguments (pure self)
      else withOne self name arguments (isDisjoint self)

end Value

end DeferredSpec
