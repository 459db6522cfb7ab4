/-
# Snapshots

A snapshot is what a value looks like at one moment: the finite tree of its parts,
with the contents of every container, object and error it reaches. Where a
container lies inside itself the inner place is marked as a cycle. Texts,
equality and order are functions of snapshots.
-/

import DeferredSpec.Value.Basic

namespace DeferredSpec

/-- A container that can lie inside itself. -/
inductive ContainerRef
  | list (ref : ListRef)
  | table (ref : TableRef)
  deriving DecidableEq, Repr

/-- A value with everything it reaches. An object is shown as texts around the
members it displays, unless what it displays is no text but a misfit of another
type; an error carries its arguments, its named fields, what its message tells
beside them, and the error that caused it, if any. -/
inductive Snapshot
  | null
  | boolean (value : Bool)
  | integer (value : Int)
  | float (value : Binary64)
  | text (value : String)
  | bytes (value : List UInt8)
  | tuple (items : List Snapshot)
  | set (items : List Snapshot)
  | list (ref : ListRef) (items : List Snapshot)
  | table (ref : TableRef) (entries : List (Snapshot × Snapshot))
  | cycle (container : ContainerRef)
  | view (identity : Nat) (kind : ViewKind) (items : List Snapshot)
  | object (ref : ObjectRef) (className : String) (texts : List String) (shown : List Snapshot)
      (misfit : Option String)
  | error (ref : ErrorRef) (className : String) (arguments : List Snapshot)
      (fields : List (String × Snapshot)) (details : List Snapshot) (cause : List Snapshot)
  | assertion (identity : Nat) (subject : Snapshot) (negated : Bool)
  | predicate (identity : Nat) (name : String)
  | type (tag : TypeTag)
  | method (receiver : Snapshot) (name : String)
  | code
  deriving Repr, Inhabited

namespace Snapshot

/-- Whether the snapshot is that of a value with methods defined by its class. -/
def hasOwnMethods : Snapshot → Bool
  | .object .. => true
  | .error .. => true
  | .assertion .. => true
  | _ => false

/-- The name of the type of a value. -/
def typeName : Snapshot → String
  | .null => "NoneType"
  | .boolean _ => "bool"
  | .integer _ => "int"
  | .float _ => "float"
  | .text _ => "str"
  | .bytes _ => "bytes"
  | .tuple _ => "tuple"
  | .set _ => "set"
  | .list .. => "list"
  | .table .. => "dict"
  | .cycle (.list _) => "list"
  | .cycle (.table _) => "dict"
  | .view _ kind _ => kind.typeName
  | .object _ className .. => className
  | .error _ className .. => className
  | .assertion .. => "Assertion"
  | .predicate .. => "Predicate"
  | .type _ => "type"
  | .code => "function"
  | .method receiver _ =>
      if receiver.hasOwnMethods then "method" else "builtin_function_or_method"

end Snapshot

end DeferredSpec
