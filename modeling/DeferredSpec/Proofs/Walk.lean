/-
# The walk through a tree

A tree is read directly, without a suite: its cases are visited in pre-order, and
before each of them every group above it that was not entered yet is executed,
outermost first, against what the group around it left. Nothing is registered. All
that is kept besides the bench is how far each group has come.
-/

import DeferredSpec.Proofs.Registration
import DeferredSpec.Suite.Run

namespace DeferredSpec

/-- How far a group has come: it was not executed yet, it left a result, or it failed. -/
inductive Standing
  | pending
  | stored (result : Value)
  | failed (error : ErrorRef)

/-- A bench with the standing of the groups of a tree. -/
structure Tour where
  bench : Bench
  standing : Address → Standing := fun _ => .pending

namespace Tour

variable {α : Type}

/-- Execute something on the bench; the groups stay as they are. -/
def execute (execution : Execution α) : Effect Tour α :=
  Effect.zoom Tour.bench (fun bench tour => { tour with bench := bench }) execution

/-- Run an effect and catch an ordinary error. -/
def capture (effect : Effect Tour α) : Effect Tour (Outcome α) := do
  let outcome ← effect.attempt
  match outcome with
  | .returned value => pure (.returned value)
  | .raised error => do
      let isCaught ← Effect.read fun tour => tour.bench.world.isOrdinary error
      if isCaught then pure (.raised error) else Effect.raise error

/-- The tour with another standing of a group. -/
def setStanding (address : Address) (standing : Standing) (tour : Tour) : Tour :=
  { tour with
    standing := fun other => if other = address then standing else tour.standing other }

@[simp] theorem execute_apply (execution : Execution α) (tour : Tour) :
    execute execution tour =
      ((execution tour.bench).1, { tour with bench := (execution tour.bench).2 }) := rfl

theorem capture_apply (effect : Effect Tour α) (tour : Tour) :
    capture effect tour =
      match effect tour with
      | (.returned value, later) => (.returned (.returned value), later)
      | (.raised error, later) =>
          if later.bench.world.isOrdinary error then (.returned (.raised error), later)
          else (.raised error, later) := by
  rcases ended : effect tour with ⟨outcome, later⟩
  cases outcome with
  | returned value => simp [capture, ended]
  | raised error =>
      cases ordinary : later.bench.world.isOrdinary error <;> simp [capture, ended, ordinary]

end Tour

namespace SpecTree

variable (whole : SpecTree) (engine : RetryEngine) (world : World)

/-- Enter a group: take what it left, fail again with the error that stopped it, or
execute it against the result of the group around it if that was not done yet. An
ordinary error is logged and remembered. -/
def enter (address : Address) (node : ActionNode) (title : String) (previous : Value) :
    Effect Tour Value := do
  let standing ← Effect.read fun tour => tour.standing address
  match standing with
  | .stored result => pure result
  | .failed error => Effect.raise error
  | .pending => do
      let outcome ← Tour.capture (Tour.execute (whole.execute address node previous))
      match outcome with
      | .returned result => do
          Effect.modify (Tour.setStanding address (.stored result))
          pure result
      | .raised error => do
          Tour.execute <| Execution.ofAction <|
            Action.logComposed errorLevel suiteLogger (Rig.hookFailure title error)
          Effect.modify (Tour.setStanding address (.failed error))
          Effect.raise error

/-- Enter groups one inside the other, each against the result of the one around it. -/
def enterAll : List (Address × ActionNode) → Value → Effect Tour Value
  | [], previous => pure previous
  | (address, node) :: inner, previous => do
      let result ← whole.enter address node (world.answer (groupTitle node)) previous
      enterAll inner result

theorem enterAll_append (trail : List (Address × ActionNode)) (address : Address)
    (node : ActionNode) (previous : Value) :
    whole.enterAll world (trail ++ [(address, node)]) previous =
      whole.enterAll world trail previous >>= fun result =>
        whole.enter address node (world.answer (groupTitle node)) result := by
  induction trail generalizing previous with
  | nil => simp [enterAll]
  | cons outer inner ih => simp [enterAll, ih]

mutual

/-- Execute a step of a chain and everything below it in pre-order, each against the
result of the one above. -/
def follow (address : Address) (previous : Value) : ActionTree → Execution Unit
  | .node here children => do
      let result ← engine.run whole address here previous
      followAll address 0 result children

/-- Execute steps below the same node, the first of which has the given position. -/
def followAll (parent : Address) (next : Nat) (previous : Value) :
    List ActionTree → Execution Unit
  | [] => pure ()
  | child :: children => do
      follow (parent ++ [next]) previous child
      followAll parent (next + 1) previous children

end

/-- Visit a case: enter the groups above it, execute the case against the result of the
innermost, and then what is below it. -/
def visit (trail : List (Address × ActionNode)) (address : Address) (here : ActionNode)
    (children : List ActionTree) : Effect Tour Unit := do
  let previous ← whole.enterAll world trail .null
  Tour.execute do
    let result ← whole.execute address here previous
    whole.followAll engine address 0 result children

/-- Report how an effect ended that stands for a case. Only ordinary errors are
reported. -/
def report (path : List String) (effect : Effect Tour Unit) : Effect Tour CaseReport := do
  let outcome ← Tour.capture effect
  match outcome with
  | .returned _ => pure ⟨path, none⟩
  | .raised error => do
      Tour.execute <| Execution.ofAction <|
        Action.logComposed debugLevel suiteLogger (caseFailure path error)
      pure ⟨path, some error⟩

mutual

/-- Visit the cases of a tree in pre-order. `trail` are the groups above it, and `path`
is made of their titles, which are composed as they were in `world`. -/
def walk (trail : List (Address × ActionNode)) (address : Address) (path : List String) :
    ActionTree → Effect Tour (List CaseReport)
  | .node here children =>
      match here.variant with
      | .group =>
          walkAll (trail ++ [(address, here)]) address 0
            (withName path (world.answer (groupTitle here))) children
      | .leafCase => do
          let title := world.answer (whole.caseTitle address (.node here children))
          let only ← report (path ++ [title])
            (whole.visit engine world trail address here children)
          pure [only]
      | .chainStep => pure []

/-- Visit the cases of several trees, the first of which has the given position. -/
def walkAll (trail : List (Address × ActionNode)) (parent : Address) (next : Nat)
    (path : List String) : List ActionTree → Effect Tour (List CaseReport)
  | [] => pure []
  | child :: children => do
      let first ← walk trail (parent ++ [next]) path child
      let rest ← walkAll trail parent (next + 1) path children
      pure (first ++ rest)

end

/-- Visit the cases of a whole tree, no group being entered at first. `name` is what all
titles begin with. -/
def walkThrough (name : String) : Execution (List CaseReport) := fun bench =>
  let ended := whole.walk engine world [] [] (withName [] name) whole.root { bench := bench }
  (ended.1, ended.2.bench)

end SpecTree

end DeferredSpec
