/-
# Lengths and truth

Which values have a length, and which count as true: null, false, zero of any
kind and everything of length zero count as false, all else as true.
-/

import DeferredSpec.Member.Object

namespace DeferredSpec

namespace Value

variable [ObjectModel]

/-- The greatest length an object can have, 2 to the 63rd power less one. -/
def greatestLength : Nat := 9223372036854775807

/-- The length of an object as a number, from the value its class claims. -/
def claimedLength (claimed : Value) : Action Nat :=
  match claimed with
  | .boolean value => pure value.toNat
  | .integer value =>
      if value < 0 then Action.fail .negativeLength
      else if greatestLength < value.toNat then Action.fail .lengthTooLarge
      else pure value.toNat
  | claimed => do
      let kind ← Action.typeName claimed
      Action.fail (.notAnInteger kind)

/-- The length of a value. -/
def length (value : Value) : Action Nat :=
  match value with
  | .text value => pure value.length
  | .bytes value => pure value.length
  | .tuple items => pure items.length
  | .set items => pure items.length
  | .list ref => Effect.read fun world => (world.listAt ref).length
  | .table ref => Effect.read fun world => (world.tableAt ref).length
  | .view _ _ ref => Effect.read fun world => (world.tableAt ref).length
  | .object ref => do
      let className ← Effect.read fun world => (world.objectAt ref).className
      match ObjectModel.length? className with
      | some claimed => do
          let claimed ← claimed ref
          claimedLength claimed
      | none => Action.fail (.noLength className)
  | value => do
      let kind ← Action.typeName value
      Action.fail (.noLength kind)

/-- Whether values of this kind have a length. -/
def isSized (world : World) : Value → Bool
  | .text _ => true
  | .bytes _ => true
  | .tuple _ => true
  | .set _ => true
  | .list _ => true
  | .table _ => true
  | .view .. => true
  | .object ref => (ObjectModel.length? (world.objectAt ref).className).isSome
  | _ => false

/-- Whether a value counts as true. -/
def truth (value : Value) : Action Bool :=
  match value with
  | .null => pure false
  | .boolean value => pure value
  | .integer value => pure (value != 0)
  | .float value => pure (!value.isZero)
  | value => do
      let sized ← Effect.read fun world => value.isSized world
      if sized then do
        let length ← value.length
        pure (length != 0)
      else pure true

end Value

end DeferredSpec
