/-
# Objects with behaviour

What objects do is not part of the core: a model supplies the members of each
class of objects and the meaning of each named predicate. Everything built on
top holds for every model.
-/

import DeferredSpec.World.Fault

namespace DeferredSpec

/-- The arguments a method takes behind its receiver. -/
structure Signature where
  function : String
  required : List String
  optional : Nat := 0
  unlimited : Bool := false
  deriving Repr

namespace Signature

/-- What is wrong with a number of arguments, if anything; the receiver counts as given. -/
def fault? (signature : Signature) (given : Nat) : Option Fault :=
  let least := signature.required.length
  let most := least + signature.optional
  if given < least then
    some (.missingArguments signature.function (signature.required.drop given))
  else if most < given && !signature.unlimited then
    some (.surplusArguments signature.function (least + 1) (most + 1) (given + 1))
  else none

/-- Accept a list of arguments, or fail. -/
def check (signature : Signature) (arguments : List Value) : Action Unit :=
  match signature.fault? arguments.length with
  | some fault => Action.fail fault
  | none => pure ()

end Signature

/-- A method of a class of objects. -/
structure ObjectMethod where
  signature : Signature
  run : ObjectRef → List Value → Action Value

/-- The behaviour of objects and predicates. -/
class ObjectModel where
  /-- A member that is computed whenever it is read. -/
  property? : (className name : String) → Option (ObjectRef → Action Value)
  /-- A member that is called. -/
  method? : (className name : String) → Option ObjectMethod
  /-- The length that objects of a class claim to have. -/
  length? : (className : String) → Option (ObjectRef → Action Value)
  /-- The meaning of a predicate. -/
  apply : (predicate : String) → Value → Action Value
  /-- The name by which a predicate is known, if it has one. -/
  knownName? : (predicate : String) → Option String
  /-- Make an object by calling its class. -/
  construct : (className : String) → List Value → Action Value

namespace ObjectRef

/-- Read a field of an object. -/
def field (ref : ObjectRef) (name : String) : Action Value :=
  Effect.read fun world => ((world.objectAt ref).field? name).getD .null

/-- Change a field of an object. -/
def setField (ref : ObjectRef) (name : String) (value : Value) : Action Unit :=
  Effect.modify fun world => world.setObject ref ((world.objectAt ref).setField name value)

end ObjectRef

end DeferredSpec
