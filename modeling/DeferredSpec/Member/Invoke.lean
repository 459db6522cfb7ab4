/-
# Calling

What a call does: predicates mean what the model says, types make values, objects
run their methods, and a few methods belong to plain values. What a method of an
assertion context does is a parameter, because predicates can themselves be asked
to call what they are given.
-/

import DeferredSpec.Member.Read

namespace DeferredSpec

namespace Value

variable [ObjectModel]

/-- The signature by which every predicate is called. -/
def predicateSignature : Signature where
  function := "Predicate.__call__"
  required := ["value"]

/-- Call a method of an object. -/
def callObject (ref : ObjectRef) (name : String) (arguments : List Value) : Action Value := do
  let className ← Effect.read fun world => (world.objectAt ref).className
  match ObjectModel.method? className name with
  | some found => do
      found.signature.check arguments
      found.run ref arguments
  | none => missing (.object ref) name

/-- Call a value. `onContext` says what methods of assertion contexts do. -/
def callWith (onContext : Value → Value → Bool → String → List Value → Action Value)
    (function : Value) (arguments : List Value) : Action Value :=
  match function with
  | .predicate _ name => do
      predicateSignature.check arguments
      match arguments with
      | argument :: _ => ObjectModel.apply name argument
      | [] => pure .null
  | .type tag => construct tag arguments
  | .method receiver name =>
      match receiver with
      | .object ref => callObject ref name arguments
      | .error ref => ref.reworded arguments
      | .assertion _ subject negated => onContext receiver subject negated name arguments
      | receiver => callPlain receiver name arguments
  | .code => pure .null
  | function => do
      let kind ← Action.typeName function
      Action.fail (.notCallable kind)

/-- Call a value in the place of a predicate. A method of an assertion context is
no predicate. -/
def callAsPredicate (function : Value) (arguments : List Value) : Action Value :=
  callWith (fun _ _ _ _ _ => Action.fail (.notCallable "method")) function arguments

end Value

end DeferredSpec
