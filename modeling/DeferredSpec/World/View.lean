/-
# Looking at the world

The view of a value is its snapshot in a world. References are followed; a place
that is already being looked at is not entered again, so the view is finite
whatever the world holds.
-/

import DeferredSpec.Value.Comparison
import DeferredSpec.Value.Message
import DeferredSpec.World.Basic

namespace DeferredSpec

/-- Something a reference leads to. -/
inductive Place
  | list (ref : ListRef)
  | table (ref : TableRef)
  | object (ref : ObjectRef)
  | error (ref : ErrorRef)
  deriving DecidableEq, Repr

namespace Snapshot

/-- What a view shows of the snapshot of its table. -/
def viewed (kind : ViewKind) : Snapshot → List Snapshot
  | .table _ entries =>
      match kind with
      | .keys => entries.map Prod.fst
      | .items => entries.map fun entry => .tuple [entry.1, entry.2]
      | .values => entries.map Prod.snd
  | _ => []

end Snapshot

mutual

/-- The snapshot of a value, given those of the places it refers to. -/
def Value.resolve (follow : Place → Snapshot) : Value → Snapshot
  | .null => .null
  | .boolean value => .boolean value
  | .integer value => .integer value
  | .float value => .float value
  | .text value => .text value
  | .bytes value => .bytes value
  | .tuple items => .tuple (Value.resolveAll follow items)
  | .set items => .set (Value.resolveAll follow items)
  | .list ref => follow (.list ref)
  | .table ref => follow (.table ref)
  | .view identity kind ref => .view identity kind (Snapshot.viewed kind (follow (.table ref)))
  | .object ref => follow (.object ref)
  | .error ref => follow (.error ref)
  | .assertion identity subject negated =>
      .assertion identity (Value.resolve follow subject) negated
  | .predicate identity name => .predicate identity name
  | .type tag => .type tag
  | .method receiver name => .method (Value.resolve follow receiver) name
  | .code => .code

/-- The snapshots of several values. -/
def Value.resolveAll (follow : Place → Snapshot) : List Value → List Snapshot
  | [] => []
  | item :: items => Value.resolve follow item :: Value.resolveAll follow items

end

namespace World

/-- What stands for a place that is not entered. -/
def marker (world : World) : Place → Snapshot
  | .list ref => .cycle (.list ref)
  | .table ref => .cycle (.table ref)
  | .object ref => .object ref (world.objectAt ref).className ["..."] [] none
  | .error ref => .error ref (world.errorAt ref).kind.className [] [] [] []

/-- The snapshot of a place; `entered` are the places being looked at, and `depth`
bounds how many more are entered. -/
def follow (world : World) : Nat → List Place → Place → Snapshot
  | 0, _, place => world.marker place
  | depth + 1, entered, place =>
      if entered.contains place then world.marker place
      else
        let inner := Value.resolve (follow world depth (place :: entered))
        match place with
        | .list ref => .list ref ((world.listAt ref).map inner)
        | .table ref =>
            .table ref ((world.tableAt ref).map fun entry => (inner entry.1, inner entry.2))
        | .object ref =>
            let cell := world.objectAt ref
            .object ref cell.className cell.texts
              (cell.shown.map fun name => inner ((cell.field? name).getD .null)) cell.misfit
        | .error ref =>
            let cell := world.errorAt ref
            .error ref cell.kind.className (cell.arguments.map inner)
              (cell.kind.fields.map fun field => (field.1, inner field.2))
              (cell.details.map inner)
              (cell.cause.toList.map fun cause => inner (.error cause))

/-- The number of places in the world, which bounds how many lie inside one another. -/
def size (world : World) : Nat :=
  world.lists.size + world.tables.size + world.objects.size + world.errors.size

/-- The snapshot of a value. -/
def view (world : World) (value : Value) : Snapshot :=
  Value.resolve (world.follow (world.size + 1) []) value

/-- The name of the type of a value. -/
def typeName (world : World) (value : Value) : String := (world.view value).typeName

/-- Whether handlers of ordinary errors take an error. -/
def isOrdinary (world : World) (error : ErrorRef) : Bool := (world.errorAt error).kind.isOrdinary

/-- Whether an error is a failed expectation. -/
def isAssertionFailure (world : World) (error : ErrorRef) : Bool :=
  (world.errorAt error).kind.isAssertionFailure

end World

end DeferredSpec
