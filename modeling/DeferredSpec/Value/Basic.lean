/-
# Values under specification

The values that subjects, steps and expectations exchange. What can change or has
an identity of its own is a reference into the world that holds it; everything
else is its own value. An assertion context never changes, so it is kept whole,
with an identity that tells it from other contexts.
-/

import DeferredSpec.Number.Notation

namespace DeferredSpec

/-- A growing sequence in the world. -/
structure ListRef where
  index : Nat
  deriving DecidableEq, Repr, Inhabited

/-- A table in the world. -/
structure TableRef where
  index : Nat
  deriving DecidableEq, Repr, Inhabited

/-- An object in the world. -/
structure ObjectRef where
  index : Nat
  deriving DecidableEq, Repr, Inhabited

/-- An error object in the world. -/
structure ErrorRef where
  index : Nat
  deriving DecidableEq, Repr, Inhabited

/-- A type, as a value. The types of objects carry the place they are defined in. -/
inductive TypeTag
  | integer
  | text
  | boolean
  | float
  | list
  | table
  | tuple
  | bytes
  | object
  | null
  | assertion
  | defined (place name : String)
  deriving DecidableEq, Repr

namespace TypeTag

/-- The name of a type. -/
def name : TypeTag → String
  | .integer => "int"
  | .text => "str"
  | .boolean => "bool"
  | .float => "float"
  | .list => "list"
  | .table => "dict"
  | .tuple => "tuple"
  | .bytes => "bytes"
  | .object => "object"
  | .null => "NoneType"
  | .assertion => "Assertion"
  | .defined _ name => name

/-- The name of a type with the place it is defined in, where it has one. -/
def qualifiedName : TypeTag → String
  | .assertion => "fluentspec.expect.Assertion"
  | .defined place name => place ++ "." ++ name
  | tag => tag.name

/-- The types of plain values. -/
def builtin : List TypeTag :=
  [.integer, .text, .boolean, .float, .list, .table, .tuple, .bytes, .object, .null, .assertion]

/-- The type of plain values with a given name. -/
def ofName? (name : String) : Option TypeTag := builtin.find? fun tag => tag.name == name

/-- The displayed text of a type. -/
def displayed (tag : TypeTag) : String := "<class '" ++ tag.qualifiedName ++ "'>"

end TypeTag

/-- What a view of a table shows: its keys, its entries as pairs, or its values. -/
inductive ViewKind
  | keys
  | items
  | values
  deriving DecidableEq, Repr

namespace ViewKind

/-- The name of a kind of view, under which tables offer it. -/
def name : ViewKind → String
  | .keys => "keys"
  | .items => "items"
  | .values => "values"

/-- The name of the type of a view. -/
def typeName (kind : ViewKind) : String := "dict_" ++ kind.name

/-- The kind of view with a given name. -/
def ofName? (name : String) : Option ViewKind :=
  [keys, items, values].find? fun kind => kind.name == name

/-- Whether a view compares like a set. -/
def isSetLike : ViewKind → Bool
  | .keys => true
  | .items => true
  | .values => false

end ViewKind

/-- A value. A view shows its table as it is at the moment. Code is all that can be
called and shows nothing more of itself. -/
inductive Value
  | null
  | boolean (value : Bool)
  | integer (value : Int)
  | float (value : Binary64)
  | text (value : String)
  | bytes (value : List UInt8)
  | tuple (items : List Value)
  | set (items : List Value)
  | list (ref : ListRef)
  | table (ref : TableRef)
  | view (identity : Nat) (kind : ViewKind) (table : TableRef)
  | object (ref : ObjectRef)
  | error (ref : ErrorRef)
  | assertion (identity : Nat) (subject : Value) (negated : Bool)
  | predicate (identity : Nat) (name : String)
  | type (tag : TypeTag)
  | method (receiver : Value) (name : String)
  | code
  deriving Repr, Inhabited

namespace Value

/-- Types, predicates, methods and code can be called. -/
def isCallable : Value → Bool
  | .predicate .. => true
  | .type _ => true
  | .method .. => true
  | .code => true
  | _ => false

/-- Whether the value is an assertion context. -/
def isAssertion : Value → Bool
  | .assertion .. => true
  | _ => false

/-- Whether both values are the same assertion context. -/
def isSameAssertion : Value → Value → Bool
  | .assertion first .., .assertion second .. => first == second
  | _, _ => false

end Value

end DeferredSpec
