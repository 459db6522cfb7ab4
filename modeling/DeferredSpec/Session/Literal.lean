/-
# Literals

A literal describes a value to be made. Every building of it makes new objects,
so two buildings of one literal are equal at most, never identical. A value that cannot
be made is an error of the class that the making raises.
-/

import DeferredSpec.Operation.Conversion
import DeferredSpec.World.SpecError

namespace DeferredSpec

/-- The description of a value. -/
inductive Literal
  | null
  | boolean (value : Bool)
  | integer (value : Int)
  | float (source : String)
  | text (value : String)
  | bytes (items : List Literal)
  | tuple (items : List Literal)
  | set (items : List Literal)
  | list (items : List Literal)
  | table (entries : List (Literal × Literal))
  | object (className : String) (arguments : List Literal)
  | predicate (name : String)
  | type (tag : TypeTag)
  | error (className : String) (arguments : List Literal)
  | assertion (subject : Literal) (negated : Bool)
  | cyclicList (items : List Literal)
  | cyclicTable (entries : List (Literal × Literal))
  deriving Repr, Inhabited

namespace SpecError

/-- The arguments that the errors of specifications are built from. -/
def constructor? (className : String) : Option Signature :=
  let takes (required : List String) (optional : Nat) : Option Signature :=
    some ⟨className ++ ".__init__", required, optional, false⟩
  match className with
  | "FluentSpecError" => some ⟨className, [], 0, true⟩
  | "ExpectationFailedError" => takes ["message"] 3
  | "MissingMemberError" => takes ["owner", "member", "kind"] 1
  | "InvocationError" => takes ["description", "recorded", "attempted"] 0
  | "ConfigurationError" => takes ["setting", "value", "reason"] 0
  | _ => none

/-- Build an error of a specification from its class name and its arguments. -/
def construct (className : String) (arguments : List Value) : Action ErrorRef :=
  let argument (index : Nat) (absent : Value) : Value := (arguments[index]?).getD absent
  match className with
  | "ExpectationFailedError" =>
      expectationFailed (argument 0 .null) (argument 1 .null) (argument 2 .null) (argument 3 .null)
  | "MissingMemberError" =>
      missingMember (argument 0 .null) (argument 1 .null) (argument 2 .null)
        (argument 3 (.text doesNotExist))
  | "InvocationError" => invocation (argument 0 .null) (argument 1 .null) (argument 2 .null)
  | "ConfigurationError" =>
      configuration (argument 0 .null) (argument 1 .null) (argument 2 .null)
  | _ => Effect.update (World.newError { kind := .base, arguments, cause := none })

end SpecError

namespace Literal

variable [ObjectModel]

/-- The type of plain values that a class name of the host names. -/
def hostType? (className : String) : Option TypeTag :=
  (TypeTag.ofName? className).filter fun tag => tag != .null && tag != .assertion

/-- Make what a class makes of arguments: an error as a rule. -/
def buildError (className : String) (arguments : List Value) : Action Value := do
  match SpecError.constructor? className, hostType? className with
  | some signature, _ => do
      signature.check arguments
      let error ← SpecError.construct className arguments
      pure (.error error)
  | none, some tag => Value.construct tag arguments
  | none, none => do
      let error ← HostError.construct className arguments
      pure (.error error)

mutual

/-- Make a value. -/
def build : Literal → Action Value
  | .null => pure .null
  | .boolean value => pure (.boolean value)
  | .integer value => pure (.integer value)
  | .float source => Value.toFloat (.text source)
  | .text value => pure (.text value)
  | .bytes items => do
      let items ← buildAll items
      let value ← Effect.collect Value.toByte items
      pure (.bytes value)
  | .tuple items => do
      let items ← buildAll items
      pure (.tuple items)
  | .set items => do
      let items ← buildMembers items
      pure (.set items)
  | .list items => do
      let items ← buildAll items
      Action.newList items
  | .table entries => do
      let entries ← buildEntries [] entries
      let ref ← Effect.update (World.newTable entries)
      pure (.table ref)
  | .object className arguments => do
      let arguments ← buildAll arguments
      ObjectModel.construct className arguments
  | .predicate name => do
      let identity ← Effect.update World.newIdentity
      pure (.predicate identity name)
  | .type tag => pure (.type tag)
  | .error className arguments => do
      let arguments ← buildAll arguments
      buildError className arguments
  | .assertion subject negated => do
      let subject ← build subject
      let identity ← Effect.update World.newIdentity
      pure (.assertion identity subject negated)
  | .cyclicList items => do
      let items ← buildAll items
      let ref ← Effect.update (World.newList items)
      Effect.modify (World.setList ref (items ++ [.list ref]))
      pure (.list ref)
  | .cyclicTable entries => do
      let entries ← buildEntries [] entries
      let ref ← Effect.update (World.newTable entries)
      Effect.modify fun world =>
        world.setTable ref (world.insertEntry (world.tableAt ref) (.text "self") (.table ref))
      pure (.table ref)

/-- Make several values, in order. -/
def buildAll : List Literal → Action (List Value)
  | [] => pure []
  | item :: items => do
      let first ← build item
      let rest ← buildAll items
      pure (first :: rest)

/-- Make the members of a set, in order. -/
def buildMembers : List Literal → Action (List Value)
  | [] => pure []
  | item :: items => do
      let first ← build item
      Value.checkKey first
      let rest ← buildMembers items
      pure (first :: rest)

/-- Put entries into a table, in order. -/
def buildEntries (done : List (Value × Value)) :
    List (Literal × Literal) → Action (List (Value × Value))
  | [] => pure done
  | (key, value) :: entries => do
      let key ← build key
      let value ← build value
      let grown ← Value.insertKey done key value
      buildEntries grown entries

end

/-- Make an error and raise it. A literal of anything else cannot be raised. -/
def raise {α : Type} (literal : Literal) : Action α := do
  let value ← literal.build
  value.raise

end Literal

end DeferredSpec
