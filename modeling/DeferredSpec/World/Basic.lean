/-
# The world of a specification

Everything steps can see and change: the containers, objects and errors made so
far, a clock, the notes taken by observers and the log. References are never
reused, so the world only ever grows.
-/

import DeferredSpec.Value.Snapshot
import DeferredSpec.World.Effect

namespace DeferredSpec

/-- An object: its class, its fields, and how it is displayed: texts around the
fields it shows, unless what it displays is no text but a misfit of another type. -/
structure ObjectCell where
  className : String
  fields : List (String × Value)
  texts : List String
  shown : List String
  misfit : Option String := none
  deriving Repr, Inhabited

namespace ObjectCell

/-- The value of a field. -/
def field? (cell : ObjectCell) (name : String) : Option Value := cell.fields.lookup name

/-- The object with a field changed, or added behind the others. -/
def setField (cell : ObjectCell) (name : String) (value : Value) : ObjectCell :=
  if (cell.field? name).isSome then
    { cell with
      fields := cell.fields.map fun field => if field.1 == name then (name, value) else field }
  else { cell with fields := cell.fields ++ [(name, value)] }

end ObjectCell

/-- What sort of error an error object is, with the details that its sort keeps. -/
inductive ErrorKind
  | base
  | expectationFailed (expected actual operator : Value)
  | missingMember (owner member kind reason : Value)
  | invocation (description recorded attempted : Value)
  | configuration (setting value reason : Value)
  | host (name : String)
  deriving Repr, Inhabited

/-- The families that an error can belong to. -/
inductive ErrorFamily
  | spec
  | assertion
  | attribute
  | value
  deriving DecidableEq, Repr

namespace ErrorFamily

/-- The name of a family. -/
def name : ErrorFamily → String
  | .spec => "FluentSpecError"
  | .assertion => "AssertionError"
  | .attribute => "AttributeError"
  | .value => "ValueError"

/-- The errors of the host that belong to a family. -/
def hostMembers : ErrorFamily → List String
  | .spec => []
  | .assertion => ["AssertionError"]
  | .attribute => ["AttributeError"]
  | .value =>
      ["ValueError", "UnicodeError", "UnicodeDecodeError", "UnicodeEncodeError",
        "UnicodeTranslateError"]

end ErrorFamily

namespace ErrorKind

/-- The class name of an error. -/
def className : ErrorKind → String
  | .base => "FluentSpecError"
  | .expectationFailed .. => "ExpectationFailedError"
  | .missingMember .. => "MissingMemberError"
  | .invocation .. => "InvocationError"
  | .configuration .. => "ConfigurationError"
  | .host name => name

/-- The named details of an error. -/
def fields : ErrorKind → List (String × Value)
  | .base => []
  | .expectationFailed expected actual operator =>
      [("expected", expected), ("actual", actual), ("operator", operator)]
  | .missingMember owner member kind reason =>
      [("owner", owner), ("member", member), ("kind", kind), ("reason", reason)]
  | .invocation description recorded attempted =>
      [("description", description), ("recorded", recorded), ("attempted", attempted)]
  | .configuration setting value reason =>
      [("setting", setting), ("value", value), ("reason", reason)]
  | .host _ => []

/-- Whether an error belongs to a family. -/
def isIn (family : ErrorFamily) : ErrorKind → Bool
  | .host name => family.hostMembers.contains name
  | .base => family == .spec
  | .expectationFailed .. => family == .spec || family == .assertion
  | .missingMember .. => family == .spec || family == .attribute
  | .invocation .. => family == .spec
  | .configuration .. => family == .spec || family == .value

/-- The errors that stop everything: no handler of ordinary errors takes them. -/
def stopping : List String :=
  ["BaseException", "KeyboardInterrupt", "SystemExit", "GeneratorExit", "BaseExceptionGroup"]

/-- Whether handlers of ordinary errors take the error. -/
def isOrdinary : ErrorKind → Bool
  | .host name => !stopping.contains name
  | _ => true

/-- Only failed expectations count as assertion failures. -/
def isAssertionFailure : ErrorKind → Bool
  | .expectationFailed .. => true
  | _ => false

theorem isAssertionFailure_iff {kind : ErrorKind} :
    kind.isAssertionFailure ↔
      ∃ expected actual operator, kind = .expectationFailed expected actual operator := by
  cases kind <;> simp [isAssertionFailure]

theorem isOrdinary_of_isAssertionFailure {kind : ErrorKind} (failure : kind.isAssertionFailure) :
    kind.isOrdinary := by
  obtain ⟨_, _, _, rfl⟩ := isAssertionFailure_iff.mp failure
  rfl

end ErrorKind

/-- An error object: its kind, the arguments it was built from, its cause, and what
its message tells beside the arguments. -/
structure ErrorCell where
  kind : ErrorKind
  arguments : List Value
  cause : Option ErrorRef
  details : List Value := []
  deriving Repr, Inhabited

/-- Something an observer noted: what it was, and the details as they were then. -/
structure Note where
  subject : String
  details : List Snapshot
  deriving Repr

/-- A log record. -/
structure LogRecord where
  level : Nat
  source : String
  message : String
  deriving DecidableEq, Repr

/-- The state that steps see and change. -/
structure World where
  lists : Array (List Value) := #[]
  tables : Array (List (Value × Value)) := #[]
  objects : Array ObjectCell := #[]
  errors : Array ErrorCell := #[]
  identities : Nat := 0
  clock : Int := 0
  notes : Array Note := #[]
  records : Array LogRecord := #[]
  deriving Repr, Inhabited

/-- A change of the world that ends in an outcome. -/
abbrev Action (α : Type) : Type := Effect World α

namespace World

/-- The members of a list. -/
def listAt (world : World) (ref : ListRef) : List Value := (world.lists[ref.index]?).getD []

/-- The entries of a table, in order of insertion. -/
def tableAt (world : World) (ref : TableRef) : List (Value × Value) :=
  (world.tables[ref.index]?).getD []

/-- An object. -/
def objectAt (world : World) (ref : ObjectRef) : ObjectCell :=
  (world.objects[ref.index]?).getD default

/-- An error object. -/
def errorAt (world : World) (ref : ErrorRef) : ErrorCell :=
  (world.errors[ref.index]?).getD default

/-- Make a list. -/
def newList (items : List Value) (world : World) : ListRef × World :=
  (⟨world.lists.size⟩, { world with lists := world.lists.push items })

/-- Make a table. -/
def newTable (entries : List (Value × Value)) (world : World) : TableRef × World :=
  (⟨world.tables.size⟩, { world with tables := world.tables.push entries })

/-- Make an object. -/
def newObject (cell : ObjectCell) (world : World) : ObjectRef × World :=
  (⟨world.objects.size⟩, { world with objects := world.objects.push cell })

/-- Make an error object. -/
def newError (cell : ErrorCell) (world : World) : ErrorRef × World :=
  (⟨world.errors.size⟩, { world with errors := world.errors.push cell })

/-- A new error object is found at its reference. -/
theorem errorAt_newError (cell : ErrorCell) (world : World) :
    (world.newError cell).2.errorAt (world.newError cell).1 = cell := by
  simp [newError, errorAt]

/-- Take an identity that nothing else has. -/
def newIdentity (world : World) : Nat × World :=
  (world.identities, { world with identities := world.identities + 1 })

/-- Replace the members of a list. -/
def setList (ref : ListRef) (items : List Value) (world : World) : World :=
  { world with lists := world.lists.setIfInBounds ref.index items }

/-- Replace the entries of a table. -/
def setTable (ref : TableRef) (entries : List (Value × Value)) (world : World) : World :=
  { world with tables := world.tables.setIfInBounds ref.index entries }

/-- Replace an object. -/
def setObject (ref : ObjectRef) (cell : ObjectCell) (world : World) : World :=
  { world with objects := world.objects.setIfInBounds ref.index cell }

/-- Give an error a cause. -/
def setCause (ref : ErrorRef) (cause : ErrorRef) (world : World) : World :=
  { world with
    errors := world.errors.setIfInBounds ref.index
      { world.errorAt ref with cause := some cause } }

/-- Add a note. -/
def note (note : Note) (world : World) : World := { world with notes := world.notes.push note }

/-- Add a log record. -/
def record (record : LogRecord) (world : World) : World :=
  { world with records := world.records.push record }

/-- Move the clock, on or back. -/
def tick (milliseconds : Int) (world : World) : World :=
  { world with clock := world.clock + milliseconds }

end World

end DeferredSpec
