/-
# Arithmetic

Sums, products and absolute values. Truth values count as integers, an integer
meeting a double becomes one, sequences of one kind are joined and repeated.
-/

import DeferredSpec.Operation.Membership

namespace DeferredSpec

namespace Value

/-- The integer a value is, truth values included. -/
def asInteger? : Value → Option Int
  | .boolean value => some (if value then 1 else 0)
  | .integer value => some value
  | _ => none

/-- The double nearest to an integer, unless it is too large. -/
def toDouble (value : Int) : Action Binary64 :=
  match Binary64.ofInt? value with
  | some double => pure double
  | none => Action.fail (.conversion .integerTooLarge)

/-- Two numbers, as integers or both as doubles; nothing for other values. -/
inductive Operands
  | integers (first second : Int)
  | doubles (first second : Binary64)

/-- The operands of a numeric operation. -/
def operands? (first second : Value) : Action (Option Operands) :=
  match first, second with
  | .float a, .float b => pure (some (.doubles a b))
  | .float a, second =>
      match asInteger? second with
      | some b => do
          let b ← toDouble b
          pure (some (.doubles a b))
      | none => pure none
  | first, .float b =>
      match asInteger? first with
      | some a => do
          let a ← toDouble a
          pure (some (.doubles a b))
      | none => pure none
  | first, second =>
      match asInteger? first, asInteger? second with
      | some a, some b => pure (some (.integers a b))
      | _, _ => pure none

/-- The sum of two values. `sign` is the operator as it is written. -/
def add (sign : String) (first second : Value) : Action Value := do
  let numbers ← operands? first second
  match numbers with
  | some (.integers a b) => pure (.integer (a + b))
  | some (.doubles a b) => do
      let payload ← Effect.update World.newIdentity
      pure (.float (a.add payload b))
  | none => do
      let left ← Action.typeName first
      let right ← Action.typeName second
      match first, second with
      | .text a, .text b => pure (.text (a ++ b))
      | .text _, _ => Action.fail (.concatenation left right)
      | .bytes a, .bytes b => pure (.bytes (a ++ b))
      | .bytes _, _ => Action.fail (.bytesConcatenation right)
      | .tuple a, .tuple b => pure (.tuple (a ++ b))
      | .tuple _, _ => Action.fail (.concatenation left right)
      | .list a, .list b => do
          let a ← Effect.read fun world => world.listAt a
          let b ← Effect.read fun world => world.listAt b
          Action.newList (a ++ b)
      | .list _, _ => Action.fail (.concatenation left right)
      | _, _ => Action.fail (.operand sign left right)

/-- The sum stored back where the first value came from: a list grows in place by
the members of the second value. -/
def addInPlace (first second : Value) : Action Value :=
  match first with
  | .list ref => do
      let more ← iterate second
      Effect.modify fun world => world.setList ref (world.listAt ref ++ more)
      pure first
  | first => add "+=" first second

/-- A sequence repeated; a negative count repeats it no times. -/
def repeatItems {α : Type} (count : Int) (items : List α) : List α :=
  if items.isEmpty then [] else (List.replicate count.toNat items).flatten

/-- The greatest number of members that repeating a sequence may come to. -/
def greatestRepetition : Nat := 1073741824

/-- Repeat a sequence of a given length, if it does not grow beyond measure. The fault
beyond what any sequence can hold is given. -/
def checkRepetition (count : Int) (length : Nat) (beyond : Fault) : Action Unit :=
  if count < -greatestLength - 1 || greatestLength < count then Action.fail .lengthTooLarge
  else if greatestLength < count.toNat * length then Action.fail beyond
  else if greatestRepetition < count.toNat * length then Action.fail .outOfMemory
  else pure ()

/-- A sequence repeated, if the value is a sequence. -/
def repeatSequence? (count : Int) : Value → Option (Action Value)
  | .text value => some do
      checkRepetition count value.length (.repeatedTooLong "string is")
      pure (.text (String.ofList (repeatItems count value.toList)))
  | .bytes value => some do
      checkRepetition count value.length (.repeatedTooLong "bytes are")
      pure (.bytes (repeatItems count value))
  | .tuple items => some do
      checkRepetition count items.length .outOfMemory
      pure (.tuple (repeatItems count items))
  | .list ref => some do
      let items ← Effect.read fun world => world.listAt ref
      checkRepetition count items.length .outOfMemory
      Action.newList (repeatItems count items)
  | _ => none

/-- Whether a value is a sequence that can be repeated. -/
def isRepeatable (value : Value) : Bool := (repeatSequence? 0 value).isSome

/-- The product of two values. -/
def mul (first second : Value) : Action Value := do
  let numbers ← operands? first second
  match numbers with
  | some (.integers a b) => pure (.integer (a * b))
  | some (.doubles a b) => do
      let payload ← Effect.update World.newIdentity
      pure (.float (a.mul payload b))
  | none => do
      let left ← Action.typeName first
      let right ← Action.typeName second
      match asInteger? first, asInteger? second with
      | none, some count =>
          (repeatSequence? count first).getD (Action.fail (.operand "*" left right))
      | some count, none =>
          (repeatSequence? count second).getD (Action.fail (.operand "*" left right))
      | _, _ =>
          if first.isRepeatable then Action.fail (.repetition right)
          else if second.isRepeatable then Action.fail (.repetition left)
          else Action.fail (.operand "*" left right)

/-- The absolute value of a number. -/
def absolute (value : Value) : Action Value :=
  match value with
  | .float value => pure (.float value.abs)
  | value =>
      match asInteger? value with
      | some number => pure (.integer number.natAbs)
      | none => do
          let kind ← Action.typeName value
          Action.fail (.noAbsoluteValue kind)

end Value

end DeferredSpec
