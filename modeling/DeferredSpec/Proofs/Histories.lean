/-
# What goes down in the history

Listeners, steps and whatever else is done to the world leave the history of a bench as
it is. Executing a node adds one entry, behind all that was there before.
-/

import DeferredSpec.Tree.Execution

namespace DeferredSpec

namespace Execution

variable {α β : Type}

/-- Nothing that happens goes down in the history. -/
def IsUnrecorded (execution : Execution α) : Prop :=
  ∀ bench, (execution bench).2.history = bench.history

namespace IsUnrecorded

protected theorem pure (value : α) : IsUnrecorded (pure value) := fun _ => rfl

protected theorem ofAction (action : Action α) : IsUnrecorded (ofAction action) := fun _ => rfl

protected theorem bind {first : Execution α} {next : α → Execution β}
    (unrecorded : IsUnrecorded first) (further : ∀ value, IsUnrecorded (next value)) :
    IsUnrecorded (first >>= next) := by
  intro bench
  have start := unrecorded bench
  rw [Effect.bind_apply]
  rcases ended : first bench with ⟨outcome, later⟩
  rw [ended] at start
  cases outcome with
  | returned value => exact (further value later).trans start
  | raised error => exact start

protected theorem forEach {action : α → Execution Unit}
    (unrecorded : ∀ item, IsUnrecorded (action item)) :
    ∀ items : List α, IsUnrecorded (Effect.forEach action items)
  | [] => IsUnrecorded.pure ()
  | item :: items =>
      (unrecorded item).bind fun _ => IsUnrecorded.forEach unrecorded items

end IsUnrecorded

end Execution

open Execution

theorem BeforeListener.isUnrecorded_notify (address : Address) (node : ActionNode) :
    ∀ listener, IsUnrecorded (BeforeListener.notify address node listener)
  | .code run => IsUnrecorded.ofAction (run node)
  | .timed _ _ => IsUnrecorded.bind (fun _ => rfl) fun _ => IsUnrecorded.ofAction _

theorem AfterListener.isUnrecorded_notify (address : Address) (node : ActionNode)
    (result : Value) : ∀ listener, IsUnrecorded (AfterListener.notify address node result listener)
  | .code run => IsUnrecorded.ofAction (run node result)
  | .timed _ _ => IsUnrecorded.bind (fun _ => rfl) fun _ => IsUnrecorded.ofAction _

namespace SpecTree

variable (tree : SpecTree) (address : Address) (node : ActionNode) (previous : Value)

theorem isUnrecorded_carryOut : IsUnrecorded (tree.carryOut address node previous) :=
  (IsUnrecorded.ofAction _).bind fun _ =>
    (IsUnrecorded.forEach (BeforeListener.isUnrecorded_notify address node) _).bind fun _ =>
      (IsUnrecorded.ofAction _).bind fun result =>
        (IsUnrecorded.forEach (AfterListener.isUnrecorded_notify address node result) _).bind
          fun _ => IsUnrecorded.pure result

theorem execute_apply (bench : Bench) :
    tree.execute address node previous bench =
      ((tree.carryOut address node previous bench).1,
        (tree.carryOut address node previous bench).2.happened
          (.executed address previous (tree.carryOut address node previous bench).1)) := rfl

/-- Executing a node adds one entry to the history, with the outcome. -/
theorem execute_history (bench : Bench) :
    (tree.execute address node previous bench).2.history =
      bench.history.push
        (.executed address previous (tree.execute address node previous bench).1) := by
  rw [execute_apply, Bench.happened, tree.isUnrecorded_carryOut address node previous bench]

end SpecTree

namespace Bench

/-- How often a delay was called so far. -/
def delays (bench : Bench) : Nat :=
  bench.history.countP fun
    | .delayed => true
    | .executed .. => false

theorem delays_happened_delayed (bench : Bench) :
    (bench.happened .delayed).delays = bench.delays + 1 := by
  simp [delays, happened]

end Bench

namespace SpecTree

/-- What lies one part of a way behind the other is executed one part after the other. -/
theorem executeAlong_append (tree : SpecTree) (first second : List (Address × ActionNode))
    (previous : Value) :
    tree.executeAlong (first ++ second) previous =
      tree.executeAlong first previous >>= tree.executeAlong second := by
  induction first generalizing previous with
  | nil =>
      rw [List.nil_append, executeAlong, pure_bind]
  | cons entry rest ih =>
      rw [List.cons_append, executeAlong, executeAlong, bind_assoc]
      exact congrArg _ (funext fun result => ih result)

theorem executeAlong_concat (tree : SpecTree) (trail : List (Address × ActionNode))
    (address : Address) (node : ActionNode) (previous : Value) :
    tree.executeAlong (trail ++ [(address, node)]) previous =
      tree.executeAlong trail previous >>= tree.execute address node := by
  rw [executeAlong_append]
  exact congrArg _ (funext fun result => bind_pure (tree.execute address node result))

/-- Executing a node calls no delay. -/
@[simp] theorem execute_delays (tree : SpecTree) (address : Address) (node : ActionNode)
    (previous : Value) (bench : Bench) :
    (tree.execute address node previous bench).2.delays = bench.delays := by
  rw [Bench.delays, execute_history, Array.countP_push]
  rfl

@[simp] theorem executeAlong_delays (tree : SpecTree) (trail : List (Address × ActionNode))
    (previous : Value) (bench : Bench) :
    (tree.executeAlong trail previous bench).2.delays = bench.delays := by
  induction trail generalizing previous bench with
  | nil => rfl
  | cons entry rest ih =>
      rw [executeAlong, Effect.bind_apply]
      have here := tree.execute_delays entry.1 entry.2 previous bench
      rcases ended : tree.execute entry.1 entry.2 previous bench with ⟨outcome, later⟩
      rw [ended] at here
      cases outcome with
      | returned result => exact (ih result later).trans here
      | raised error => exact here

end SpecTree

end DeferredSpec
