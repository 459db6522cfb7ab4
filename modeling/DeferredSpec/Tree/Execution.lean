/-
# Executing nodes

A tree is executed on a bench: the world together with the stopwatches that the
tree's observers hold and a history of what was executed. Steps and other code see
the world alone, so no step can touch a stopwatch or the history. Executing a node
tells the listeners before, runs the step, and tells the listeners after, with the
result; an error skips what is left.
-/

import DeferredSpec.Tree.Basic

namespace DeferredSpec

/-- When each running node was started, by address. -/
structure Stopwatch where
  started : List (Address × Int) := []
  deriving Repr, Inhabited

namespace Stopwatch

/-- Start, or start again, the time of a node. -/
def start (watch : Stopwatch) (address : Address) (now : Int) : Stopwatch :=
  ⟨(address, now) :: watch.started.filter fun entry => entry.1 != address⟩

/-- Take the time of a node off the watch: no time has passed for a node that was
not started. -/
def stop (watch : Stopwatch) (address : Address) (now : Int) : Int × Stopwatch :=
  (now - (watch.started.lookup address).getD now,
    ⟨watch.started.filter fun entry => entry.1 != address⟩)

end Stopwatch

/-- Something that was done on a bench: a node was executed against a previous result
and ended in some way, or a delay was called. -/
inductive Happening
  | executed (address : Address) (previous : Value) (outcome : Outcome Value)
  | delayed
  deriving Repr

/-- The world with the stopwatches of its observers and the history of what was done,
oldest first. Nothing that runs on a bench can look at its history. -/
structure Bench where
  world : World := {}
  watches : Array Stopwatch := #[]
  history : Array Happening := #[]
  deriving Inhabited

/-- What happens on the bench. -/
abbrev Execution (α : Type) : Type := Effect Bench α

namespace Execution

variable {α : Type}

/-- Do something to the world; the stopwatches stay as they are. -/
def ofAction (action : Action α) : Execution α :=
  Effect.zoom Bench.world (fun world bench => { bench with world := world }) action

/-- Run an execution and catch an ordinary error. -/
def capture (execution : Execution α) : Execution (Outcome α) := do
  let outcome ← execution.attempt
  match outcome with
  | .returned value => pure (.returned value)
  | .raised error => do
      let isCaught ← Effect.read fun bench => bench.world.isOrdinary error
      if isCaught then pure (.raised error) else Effect.raise error

@[simp] theorem ofAction_apply (action : Action α) (bench : Bench) :
    ofAction action bench =
      ((action bench.world).1, { bench with world := (action bench.world).2 }) := rfl

theorem capture_apply (execution : Execution α) (bench : Bench) :
    capture execution bench =
      match execution bench with
      | (.returned value, later) => (.returned (.returned value), later)
      | (.raised error, later) =>
          if later.world.isOrdinary error then (.returned (.raised error), later)
          else (.raised error, later) := by
  rcases ended : execution bench with ⟨outcome, later⟩
  cases outcome with
  | returned value => simp [capture, ended]
  | raised error => cases ordinary : later.world.isOrdinary error <;> simp [capture, ended, ordinary]

end Execution

/-- Told of a node right before its step runs. -/
inductive BeforeListener
  | code (run : ActionNode → Action Unit)
  | timed (watch level : Nat)

/-- Told of a node and its result once its step has returned. -/
inductive AfterListener
  | code (run : ActionNode → Value → Action Unit)
  | timed (watch level : Nat)

/-- The listeners that all nodes of a tree share, in order of subscription. -/
structure Listeners where
  before : List BeforeListener := []
  after : List AfterListener := []

/-- The logger of executions. -/
def executionLogger : String := "fluentspec.core.actions"

/-- A duration in seconds, to the millisecond. A clock that was put back may show a
negative one. -/
def secondsText (milliseconds : Int) : String :=
  (if milliseconds < 0 then "-" else "") ++ toString (milliseconds.natAbs / 1000) ++ "."
    ++ Decimal.padded 3 (milliseconds.natAbs % 1000)

namespace Bench

/-- A stopwatch. -/
def watchAt (bench : Bench) (watch : Nat) : Stopwatch := (bench.watches[watch]?).getD default

/-- Replace a stopwatch. -/
def setWatch (bench : Bench) (watch : Nat) (value : Stopwatch) : Bench :=
  { bench with watches := bench.watches.setIfInBounds watch value }

/-- Put down in the history that something was done. -/
def happened (happening : Happening) (bench : Bench) : Bench :=
  { bench with history := bench.history.push happening }

end Bench

namespace BeforeListener

/-- Tell a listener. A timed one starts its watch and logs that the node begins. -/
def notify (address : Address) (node : ActionNode) : BeforeListener → Execution Unit
  | .code run => Execution.ofAction (run node)
  | .timed watch level => do
      Effect.modify fun bench =>
        bench.setWatch watch ((bench.watchAt watch).start address bench.world.clock)
      Execution.ofAction do
        let label ← node.labelText
        Action.log level executionLogger ("executing action: " ++ label)

end BeforeListener

namespace AfterListener

/-- Tell a listener. A timed one stops its watch and logs the result with the time
it took. -/
def notify (address : Address) (node : ActionNode) (result : Value) :
    AfterListener → Execution Unit
  | .code run => Execution.ofAction (run node result)
  | .timed watch level => do
      let elapsed ← Effect.update fun bench =>
        let stopped := (bench.watchAt watch).stop address bench.world.clock
        (stopped.1, bench.setWatch watch stopped.2)
      Execution.ofAction do
        let label ← node.labelText
        let shown ← Action.describe result
        Action.log level executionLogger
          ("action executed: " ++ label ++ " -> " ++ shown ++ " (" ++ secondsText elapsed ++ "s)")

end AfterListener

/-- A part of a node that the node can lose: it is set to nothing. -/
inductive NodePart
  | step
  | children
  | hooks
  | parent
  | variant
  | recording
  | ancestry
  | other (name : String)
  deriving DecidableEq, Repr

namespace NodePart

/-- The part that a member of a node holds. -/
def ofMember (name : String) : NodePart :=
  match name with
  | "step" => .step
  | "children" => .children
  | "hooks" => .hooks
  | "_parent" => .parent
  | "_variant" => .variant
  | "record_invocation" => .recording
  | "is_descendant_of" => .ancestry
  | name => .other name

end NodePart

/-- A tree with the listeners its nodes share, and the parts that nodes have lost, which
are none unless a part was taken away on purpose. -/
structure SpecTree where
  root : ActionTree
  listeners : Listeners := {}
  losses : List (Address × NodePart) := []

/-- The type name of nothing. -/
def nothingType : String := "NoneType"

namespace SpecTree

/-- Take a part away from a node. -/
def lose (tree : SpecTree) (address : Address) (part : NodePart) : SpecTree :=
  { tree with losses := (address, part) :: tree.losses }

/-- Whether a node has lost a part. -/
def lacks (tree : SpecTree) (address : Address) (part : NodePart) : Bool :=
  tree.losses.contains (address, part)

/-- Fail if a node has lost a part that is needed. -/
def require (tree : SpecTree) (address : Address) (part : NodePart) (fault : Fault) :
    Action Unit :=
  if tree.lacks address part then Action.fail fault else pure ()

/-- Fail if a node has lost its children, which are about to be gone through. -/
def requireChildren (tree : SpecTree) (address : Address) : Action Unit :=
  tree.require address .children (.cannotIterate nothingType)

/-- The entries from the last one on that satisfies a test, or all if none does. -/
def fromLast {α : Type} (test : α → Bool) : List α → List α
  | [] => []
  | entry :: entries =>
      if entries.any test then fromLast test entries else entry :: entries

/-- The nodes from the root to an address, root first. A node that has lost its parent
is a root of its own. -/
def trail (tree : SpecTree) (address : Address) : List (Address × ActionNode) :=
  fromLast (fun entry => tree.lacks entry.1 .parent) (tree.root.trail address)

/-- The address of the root above a node. -/
def top (tree : SpecTree) (address : Address) : Address :=
  ((tree.trail address).head?.map Prod.fst).getD []

/-- Whether the node at an address, or one above it, is described by one of several words. -/
def isBelow (tree : SpecTree) (address : Address) (words : List String) : Bool :=
  (tree.trail address).any fun entry => entry.2.isDescribedBy words

/-- Carry out a node against the previous result: the listeners before, the step, and
the listeners after. -/
def carryOut (tree : SpecTree) (address : Address) (node : ActionNode) (previous : Value) :
    Execution Value := do
  Execution.ofAction (tree.require address .hooks (.noAttribute nothingType "notify_before"))
  Effect.forEach (BeforeListener.notify address node) tree.listeners.before
  let result ← Execution.ofAction (node.step node.arguments previous)
  Effect.forEach (AfterListener.notify address node result) tree.listeners.after
  pure result

/-- Execute a node against the previous result, which goes down in the history. -/
def execute (tree : SpecTree) (address : Address) (node : ActionNode) (previous : Value) :
    Execution Value := do
  let outcome ← (tree.carryOut address node previous).attempt
  Effect.modify (Bench.happened (.executed address previous outcome))
  Effect.ofOutcome outcome

/-- Execute nodes one after another, each against the result of the one before. -/
def executeAlong (tree : SpecTree) : List (Address × ActionNode) → Value → Execution Value
  | [], previous => pure previous
  | (address, node) :: rest, previous => do
      let result ← tree.execute address node previous
      tree.executeAlong rest result

/-- Execute everything from the root down to an address, starting from nothing. -/
def rerun (tree : SpecTree) (address : Address) : Execution Value :=
  tree.executeAlong (tree.trail address) .null

/-- Subscribe listeners behind those already there. -/
def subscribe (tree : SpecTree) (before : List BeforeListener) (after : List AfterListener) :
    SpecTree :=
  { tree with
    listeners := ⟨tree.listeners.before ++ before, tree.listeners.after ++ after⟩ }

/-- Log every execution with its duration, on the given stopwatch. -/
def logExecution (tree : SpecTree) (watch level : Nat) : SpecTree :=
  tree.subscribe [.timed watch level] [.timed watch level]

@[simp] theorem lacks_of_losses_eq_nil {tree : SpecTree} (whole : tree.losses = [])
    (address : Address) (part : NodePart) : tree.lacks address part = false := by
  simp [lacks, whole]

theorem require_of_losses_eq_nil {tree : SpecTree} (whole : tree.losses = [])
    (address : Address) (part : NodePart) (fault : Fault) :
    tree.require address part fault = pure () := by
  simp [require, whole]

theorem requireChildren_of_losses_eq_nil {tree : SpecTree} (whole : tree.losses = [])
    (address : Address) : tree.requireChildren address = pure () :=
  require_of_losses_eq_nil whole address .children _

theorem fromLast_of_none {α : Type} {test : α → Bool} :
    ∀ {entries : List α}, entries.any test = false → fromLast test entries = entries
  | [], _ => rfl
  | entry :: entries, absent => by
      have rest : entries.any test = false := by
        simp only [List.any_cons, Bool.or_eq_false_iff] at absent
        exact absent.2
      simp [fromLast, rest]

theorem trail_of_losses_eq_nil {tree : SpecTree} (whole : tree.losses = []) (address : Address) :
    tree.trail address = tree.root.trail address := by
  refine fromLast_of_none ?_
  simp [lacks_of_losses_eq_nil whole]

end SpecTree

end DeferredSpec
