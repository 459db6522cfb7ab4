/-
# Answers

What is told about an operation once it is over. Answers hold snapshots, so later
changes of the world do not reach them.
-/

import DeferredSpec.Settings.Loading
import DeferredSpec.Suite.Run

namespace DeferredSpec

namespace Snapshot

mutual

/-- Whether a value can be told: what is told by its displayed text must have one, and an
error must have a message. -/
def check : Snapshot → Except Unwritable Unit
  | .null => .ok ()
  | .boolean _ => .ok ()
  | .integer _ => .ok ()
  | .float _ => .ok ()
  | .text _ => .ok ()
  | .bytes _ => .ok ()
  | .tuple items => checkAll items
  | .list _ items => checkAll items
  | .table _ entries => checkEntries entries
  | .cycle _ => .ok ()
  | .error ref className arguments fields details cause => do
      let _ ← (Snapshot.error ref className arguments fields details cause).plain
      checkFields fields
      checkAll cause
  | .assertion identity subject negated => do
      check subject
      let _ ← (Snapshot.assertion identity subject negated).display
      pure ()
  | .method .. => .ok ()
  | .code => .ok ()
  | other => other.display.map fun _ => ()

/-- Whether several values can be told. -/
def checkAll : List Snapshot → Except Unwritable Unit
  | [] => .ok ()
  | item :: items => do
      check item
      checkAll items

/-- Whether the entries of a table can be told. -/
def checkEntries : List (Snapshot × Snapshot) → Except Unwritable Unit
  | [] => .ok ()
  | (key, value) :: entries => do
      check key
      check value
      checkEntries entries

/-- Whether the details of an error can be told. -/
def checkFields : List (String × Snapshot) → Except Unwritable Unit
  | [] => .ok ()
  | (_, value) :: fields => do
      check value
      checkFields fields

end

/-- The snapshot of something of which only its type and a text are told. -/
def emblem (typeName text : String) : Snapshot := .object ⟨0⟩ typeName [text] [] none

end Snapshot

namespace Action

/-- The snapshot of a value that is told as an answer. -/
def tell (value : Value) : Action Snapshot := do
  let shown ← view value
  match shown.check with
  | .ok _ => pure shown
  | .error reason => fail (.unwritable reason)

end Action

/-- How an operation ended, as it looked then. -/
inductive Reply (α : Type)
  | answered (answer : α)
  | raised (error : Snapshot)

namespace Reply

variable {α : Type}

variable {β : Type}

/-- Apply a function to what is answered. -/
def map (f : α → β) : Reply α → Reply β
  | .answered answer => .answered (f answer)
  | .raised error => .raised error

/-- How an outcome looks in a world. -/
def ofOutcome (world : World) : Outcome α → Reply α
  | .returned answer => .answered answer
  | .raised error => .raised (world.view (.error error))

/-- How an outcome is told, if it can be told. -/
def tell (outcome : Outcome Value) : Action (Reply Snapshot) :=
  match outcome with
  | .returned value => do
      let shown ← Action.tell value
      pure (.answered shown)
  | .raised error => do
      let shown ← Action.tell (.error error)
      pure (.raised shown)

/-- Run an action in a new world and tell how it ended. -/
def ofAction (action : Action α) : Reply α :=
  match action {} with
  | (outcome, world) => ofOutcome world outcome

end Reply

namespace Effect

variable {σ α : Type}

/-- Run an effect and tell how it ended, errors of all kinds included. -/
def reply (world : σ → World) (effect : Effect σ α) : Effect σ (Reply α) := do
  let outcome ← effect.attempt
  Effect.read fun state => Reply.ofOutcome (world state) outcome

end Effect

/-- A setting that was not accepted. -/
structure ShownProblem where
  kind : String
  location : String
  message : String
  input : Snapshot

namespace ShownProblem

/-- How a problem looks. -/
def ofProblem (problem : SettingProblem) : Action ShownProblem := do
  let input ← Action.tell problem.input
  pure ⟨problem.fault.kind, problem.location, problem.fault.message, input⟩

end ShownProblem

/-- What is told about a node; the index is its place among the nodes of a session. -/
structure NodeInfo where
  index : Option Nat
  variant : String
  label : Snapshot
  arguments : Option (List Snapshot)
  isRoot : Bool
  text : String

/-- The labels of a tree. -/
inductive Outline
  | node (variant : String) (label : Snapshot) (children : List Outline)

namespace SpecTree

mutual

/-- The labels of a tree and everything below it. -/
def outline (tree : SpecTree) (address : Address) : ActionTree → Action Outline
  | .node here children => do
      tree.require address .variant (.noAttribute nothingType "value")
      let label ← here.label
      let label ← Action.view label
      tree.requireChildren address
      let below ← tree.outlines address 0 children
      pure (.node here.variant.word label below)

/-- The labels of the children of a node, the first of which has the given position. -/
def outlines (tree : SpecTree) (parent : Address) (next : Nat) :
    List ActionTree → Action (List Outline)
  | [] => pure []
  | child :: children => do
      let first ← tree.outline (parent ++ [next]) child
      let rest ← tree.outlines parent (next + 1) children
      pure (first :: rest)

end

end SpecTree

/-- The groups and cases of a suite. -/
inductive SuiteOutline
  | case (name : String)
  | group (name : String) (hooks : Nat) (prepared : Bool) (error : Option Snapshot)
      (entries : List SuiteOutline)

namespace Suite

/-- How far a group is prepared: whether its hooks have begun, and the error that
stopped them. -/
def preparation (world : World) : Preparation → Bool × Option Snapshot
  | .pending => (false, none)
  | .done => (true, none)
  | .failed error => (true, some (world.view (.error error)))

mutual

/-- The outline of an entry at a place. -/
def outlineEntry (progress : GroupPath → Bool × Option Snapshot) (place : GroupPath) :
    Entry → SuiteOutline
  | .case name _ => .case name
  | .group name hooks entries =>
      .group name hooks.length (progress place).1 (progress place).2
        (outlineEntries progress place 0 entries)

/-- The outlines of several entries inside a group; the first of them has the given
position. -/
def outlineEntries (progress : GroupPath → Bool × Option Snapshot) (group : GroupPath)
    (next : Nat) : List Entry → List SuiteOutline
  | [] => []
  | entry :: entries =>
      outlineEntry progress (group ++ [next]) entry ::
        outlineEntries progress group (next + 1) entries

end

/-- The outline of a whole suite. -/
def outline (world : World) (suite : Suite) : SuiteOutline :=
  outlineEntry (fun path => preparation world (suite.progress path)) [] suite.root.close

end Suite

/-- What is told about a case that ran: the error it failed with, and the first case
of the same report that failed with the very same error. -/
structure CaseAnswer where
  path : List String
  error : Option (Snapshot × Nat)

namespace CaseAnswer

/-- Whether the case passed. -/
def passed (answer : CaseAnswer) : Bool := answer.error.isNone

/-- The title of the case. -/
def title (answer : CaseAnswer) : String := " ".intercalate answer.path

/-- What is told about the cases of a report. -/
def ofReports (world : World) (reports : List CaseReport) : List CaseAnswer :=
  reports.map fun report => {
    path := report.path
    error := report.error.map fun error =>
      (world.view (.error error), reports.findIdx fun other => other.error == some error) }

end CaseAnswer

/-- The answer to a command of a session. -/
inductive Answer
  | nothing
  | truth (holds : Bool)
  | value (value : Snapshot)
  | text (text : String)
  | texts (texts : List String)
  | values (values : List Snapshot)
  | node (info : NodeInfo)
  | called (same : Bool) (text : String)
  | tree (outline : Outline)
  | engine (maxRetries : Nat) (eventualByDefault : Bool)
  | suite (outline : SuiteOutline)
  | report (cases : List CaseAnswer)
  | rejected (problems : List ShownProblem)

end DeferredSpec
