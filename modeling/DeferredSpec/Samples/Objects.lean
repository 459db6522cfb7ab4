/-
# Sample objects

A small cast of objects and predicates to write specifications about: counters
and inventories that change, gauges whose readings follow a script, objects that
fail when touched. They make one model of objects; nothing else depends on them.
-/

import DeferredSpec.Member.Object
import DeferredSpec.Operation.Arithmetic

namespace DeferredSpec

namespace Samples

/-- Where the sample classes are defined. -/
def place : String := "fixtures"

/-- The member of a sequence at a position, counted from the end if negative. -/
def itemAt (items : List Value) (position : Int) : Action Value :=
  let index := if position < 0 then position + items.length else position
  match if index < 0 then none else items[index.toNat]? with
  | some item => pure item
  | none => Action.fail .indexOutOfRange

/-- Take the next reading of a gauge; the last one repeats. A reading that is an
error is raised instead of returned, after it was counted. -/
def gaugeValue (self : ObjectRef) : Action Value := do
  let readings ← self.field "_readings"
  let reads ← self.field "reads"
  let items ← match readings with
    | .tuple items => pure items
    | _ => pure []
  let taken := (Value.asInteger? reads).getD 0
  let reading ← itemAt items (min taken (items.length - 1))
  self.setField "reads" (.integer (taken + 1))
  match reading with
  | .error ref => Effect.raise ref
  | reading => pure reading

/-- The sum of values from zero on. -/
def total (values : List Value) : Action Value :=
  values.foldlM (fun sum value => Value.add "+" sum value) (.integer 0)

/-- Add to the quantity under a name; a new name starts from zero. -/
def stock (self : ObjectRef) (name quantity : Value) : Action Value := do
  let items ← self.field "items"
  match items with
  | .table ref => do
      let present ← items.contains name
      let isName (world : World) (entry : Value × Value) : Bool :=
        (world.view name).equals true (world.view entry.1)
      let held ← Effect.read fun world =>
        (((world.tableAt ref).find? (isName world)).map Prod.snd).getD (.integer 0)
      let sum ← Value.add "+" held quantity
      Effect.modify fun world =>
        let entries := world.tableAt ref
        world.setTable ref <|
          if present then
            entries.map fun entry => if isName world entry then (entry.1, sum) else entry
          else entries ++ [(name, sum)]
      pure (.object self)
  | _ => pure (.object self)

/-- The members that sample objects compute when they are read. -/
def property? (className name : String) : Option (ObjectRef → Action Value) :=
  match className, name with
  | "Counter", "total" => some fun self => self.field "count"
  | "Gauge", "value" => some gaugeValue
  | "Inventory", "total" => some fun self => do
      let items ← self.field "items"
      match items with
      | .table ref => do
          let entries ← Effect.read fun world => world.tableAt ref
          total (entries.map Prod.snd)
      | _ => pure (.integer 0)
  | "Tricky", "broken" => some fun self => do
      let error ← self.field "_error"
      error.raise
  | _, _ => none

/-- The methods of sample objects. -/
def method? (className name : String) : Option ObjectMethod :=
  let takes (required : List String) (optional : Nat)
      (run : ObjectRef → List Value → Action Value) : Option ObjectMethod :=
    some ⟨⟨className ++ "." ++ name, required, optional, false⟩, run⟩
  match className, name with
  | "Counter", "add" => takes ["amount"] 0 fun self arguments => do
      let count ← self.field "count"
      let sum ← Value.addInPlace count (arguments.headD .null)
      self.setField "count" sum
      pure (.object self)
  | "Counter", "reset" => takes [] 0 fun self _ => do
      self.setField "count" (.integer 0)
      pure (.object self)
  | "Counter", "fail" => takes ["message"] 0 fun _ arguments =>
      Action.raiseNew (.host "ValueError") arguments
  | "Gauge", "reading" => takes [] 1 fun self arguments => do
      let value ← gaugeValue self
      Value.add "+" value (arguments.headD (.integer 0))
  | "Thing", "scaled" => takes ["factor"] 0 fun self arguments => do
      let factor := arguments.headD .null
      let calls ← self.field "calls"
      match calls with
      | .list ref =>
          Effect.modify fun world => world.setList ref (world.listAt ref ++ [factor])
      | _ => pure ()
      let foo ← self.field "foo"
      Value.mul foo factor
  | "Point", "norm" => takes [] 0 fun self _ => do
      let x ← self.field "x"
      let first ← Value.absolute x
      let y ← self.field "y"
      let second ← Value.absolute y
      Value.add "+" first second
  | "Inventory", "add" => takes ["name"] 1 fun self arguments =>
      match arguments with
      | name :: quantity :: _ => stock self name quantity
      | [name] => stock self name (.integer 1)
      | [] => pure (.object self)
  | "Tricky", "crash" => takes [] 0 fun self _ => do
      let error ← self.field "_error"
      error.raise
  | _, _ => none

/-- The length that a box claims. -/
def length? (className : String) : Option (ObjectRef → Action Value) :=
  if className == "Box" then some fun self => self.field "_size" else none

/-- Make an object from fields, shown between texts. -/
def newObject (className : String) (fields : List (String × Value)) (texts shown : List String) :
    Action Value := do
  let ref ← Effect.update (World.newObject ⟨className, fields, texts, shown, none⟩)
  pure (.object ref)

/-- The arguments that the constructors of sample objects take. -/
def constructor? (className : String) : Option Signature :=
  let takes (required : List String) (optional : Nat) (unlimited : Bool) : Option Signature :=
    some ⟨className ++ ".__init__", required, optional, unlimited⟩
  match className with
  | "Counter" => takes [] 1 false
  | "Gauge" => takes [] 0 true
  | "Thing" => takes [] 1 false
  | "Point" => takes ["x", "y"] 0 false
  | "Inventory" => takes [] 0 false
  | "Box" => takes ["size"] 0 false
  | "Tricky" => takes ["error"] 1 false
  | _ => none

/-- Make a sample object from arguments that its constructor takes. -/
def build (className : String) (arguments : List Value) : Action Value :=
  let first := arguments.headD .null
  let second := (arguments.drop 1).headD .null
  match className with
  | "Counter" =>
      newObject className [("count", arguments.headD (.integer 0))]
        ["Counter(count=", ")"] ["count"]
  | "Gauge" =>
      newObject className [("reads", .integer 0), ("_readings", .tuple arguments)]
        ["Gauge(reads=", ")"] ["reads"]
  | "Thing" => do
      let calls ← Action.newList []
      newObject className [("foo", arguments.headD (.integer 5)), ("calls", calls)]
        ["Thing(foo=", ", calls=", ")"] ["foo", "calls"]
  | "Point" =>
      newObject className [("x", first), ("y", second)] ["Point(", ", ", ")"] ["x", "y"]
  | "Inventory" => do
      let items ← Effect.update (World.newTable [])
      newObject className [("items", .table items)] ["Inventory(", ")"] ["items"]
  | "Box" => newObject className [("_size", first)] ["Box(", ")"] ["_size"]
  | _ =>
      let fields : List (String × Value) := [("nothing", .null), ("_error", first)]
      match if arguments.length < 2 then .text "Tricky()" else second with
      | .text text => newObject className fields [text] []
      | other => do
          let kind ← Action.typeName other
          let ref ← Effect.update (World.newObject ⟨className, fields, [], [], some kind⟩)
          pure (.object ref)

/-- Make a sample object. -/
def construct (className : String) (arguments : List Value) : Action Value := do
  match constructor? className with
  | some signature => signature.check arguments
  | none => Action.fail (.notCallable className)
  build className arguments

/-- What the sample predicates answer. -/
def apply (predicate : String) (value : Value) : Action Value :=
  match predicate with
  | "is_even" => pure (.boolean ((Value.asInteger? value).any fun number => number % 2 == 0))
  | "positive" => do
      let holds ← value.compare .above (.integer 0)
      pure (.boolean holds)
  | "same" => pure value
  | "anon" => do
      let holds ← value.isEqual (.integer 1)
      pure (.boolean holds)
  | _ => Action.raiseNew (.host "ValueError") [.text "predicate failed"]

/-- The name by which a sample predicate is known; one has none. -/
def knownName? (predicate : String) : Option String :=
  if predicate == "anon" then none else some predicate

/-- The sample objects and predicates as a model. -/
instance model : ObjectModel where
  property? := property?
  method? := method?
  length? := length?
  apply := apply
  knownName? := knownName?
  construct := construct

end Samples

end DeferredSpec
