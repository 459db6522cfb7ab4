/-
# Iteration

Going through the members of a value: the characters of a text, the bytes of a byte
string, the keys of a table, and what collections and views hold.
-/

import DeferredSpec.World.Fault

namespace DeferredSpec

namespace ViewKind

/-- What a view of this kind shows of an entry. -/
def part (kind : ViewKind) (entry : Value × Value) : Value :=
  match kind with
  | .keys => entry.1
  | .items => .tuple [entry.1, entry.2]
  | .values => entry.2

end ViewKind

namespace Value

/-- The members that iterating over a value yields, if it has any to go through. -/
def members? (world : World) : Value → Option (List Value)
  | .text value => some (value.toList.map fun c => .text (String.ofList [c]))
  | .bytes value => some (value.map fun byte => .integer byte.toNat)
  | .tuple items => some items
  | .set items => some items
  | .list ref => some (world.listAt ref)
  | .table ref => some ((world.tableAt ref).map Prod.fst)
  | .view _ kind ref => some ((world.tableAt ref).map kind.part)
  | _ => none

/-- The members that iterating over a value yields. -/
def iterate (value : Value) : Action (List Value) := do
  match ← Effect.read value.members? with
  | some members => pure members
  | none => do
      let kind ← Action.typeName value
      Action.fail (.cannotIterate kind)

end Value

end DeferredSpec
