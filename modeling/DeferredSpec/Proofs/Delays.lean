/-
# Delays that run the retry once

A delay is meant to run the retry it is handed and to let an error of the retry through.
The delays considered here run it exactly once, whatever world they find, and raise no
error of their own. What such a delay comes to is one run of the retry between two
changes of the world.
-/

import DeferredSpec.Retry.Delay

namespace DeferredSpec

/-- An action that always returns. -/
def Action.IsCalm {α : Type} (action : Action α) : Prop :=
  ∀ world, ∃ value, (action world).1 = .returned value

namespace Delay

/-- The delay ends without running the retry and without an error. -/
inductive Settles : Delay → Prop
  | finish : Settles .finish
  | act {action : Action Unit} {next : Delay} (calm : action.IsCalm) (settles : Settles next) :
      Settles (.act action next)
  | look {next : World → Delay} (settles : ∀ world, Settles (next world)) : Settles (.look next)

/-- The delay ends with the given error without running the retry. -/
inductive Raises (error : ErrorRef) : Delay → Prop
  | raise {action : Action Unit} {next : Delay}
      (raised : ∀ world, (action world).1 = .raised error) : Raises error (.act action next)
  | act {action : Action Unit} {next : Delay} (calm : action.IsCalm) (raises : Raises error next) :
      Raises error (.act action next)
  | look {next : World → Delay} (raises : ∀ world, Raises error (next world)) :
      Raises error (.look next)

/-- The delay runs the retry exactly once, and lets its error through if there is one. -/
inductive RunsOnce : Delay → Prop
  | act {action : Action Unit} {next : Delay} (calm : action.IsCalm) (once : RunsOnce next) :
      RunsOnce (.act action next)
  | look {next : World → Delay} (once : ∀ world, RunsOnce (next world)) : RunsOnce (.look next)
  | callback {next : Option ErrorRef → Delay} (settles : Settles (next none))
      (raises : ∀ error, Raises error (next (some error))) : RunsOnce (.callback next)

/-- The world in which a delay runs the retry for the first time, and how it goes on
after that run. -/
def approach : Delay → World → World × (Option ErrorRef → Delay)
  | .finish, world => (world, fun _ => .finish)
  | .act action next, world => approach next (action world).2
  | .look next, world => approach (next world) world
  | .callback next, world => (world, next)

/-- What a delay makes of the world until it ends or runs the retry. -/
def depart : Delay → World → World
  | .finish, world => world
  | .act action next, world =>
      match (action world).1 with
      | .returned _ => depart next (action world).2
      | .raised _ => (action world).2
  | .look next, world => depart (next world) world
  | .callback _, world => world

/-- What a delay that runs the retry once makes of the retry. -/
def around {α : Type} (delay : Delay) (retry : Execution α) : Execution α := fun bench =>
  let (world, onward) := delay.approach bench.world
  let (outcome, later) := retry { bench with world }
  (outcome, { later with world := (onward outcome.error?).depart later.world })

theorem immediate_runsOnce : immediate.RunsOnce :=
  .callback .finish fun _ => .raise fun _ => rfl

/-- Waiting before the retry is no matter. -/
theorem sleep_runsOnce (seconds : Binary64) : (sleep seconds).RunsOnce :=
  .act (fun _ => ⟨(), rfl⟩) immediate_runsOnce

variable {α : Type} {retry : Execution α} {latest : Option α}

theorem Settles.perform {delay : Delay} (settles : delay.Settles) (bench : Bench) :
    delay.perform retry latest bench =
      (.returned latest, { bench with world := delay.depart bench.world }) := by
  induction settles generalizing bench with
  | finish => rfl
  | @act action next calm _ ih =>
      obtain ⟨value, returned⟩ := calm bench.world
      rw [Delay.perform, Effect.bind_apply, Execution.ofAction_apply, returned, depart, returned]
      exact ih _
  | look _ ih => exact ih bench.world bench

theorem Raises.perform {error : ErrorRef} {delay : Delay} (raises : delay.Raises error)
    (bench : Bench) :
    delay.perform retry latest bench =
      (.raised error, { bench with world := delay.depart bench.world }) := by
  induction raises generalizing bench with
  | @raise action next raised =>
      rw [Delay.perform, Effect.bind_apply, Execution.ofAction_apply, raised, depart, raised]
  | @act action next calm _ ih =>
      obtain ⟨value, returned⟩ := calm bench.world
      rw [Delay.perform, Effect.bind_apply, Execution.ofAction_apply, returned, depart, returned]
      exact ih _
  | look _ ih => exact ih bench.world bench

/-- A delay that runs the retry once ends as the retry does. -/
theorem RunsOnce.perform {delay : Delay} (once : delay.RunsOnce) (bench : Bench) :
    delay.perform retry latest bench =
      ((delay.around retry bench).1.map some, (delay.around retry bench).2) := by
  induction once generalizing bench with
  | @act action next calm _ ih =>
      obtain ⟨value, returned⟩ := calm bench.world
      rw [Delay.perform, Effect.bind_apply, Execution.ofAction_apply, returned]
      exact ih _
  | look _ ih => exact ih bench.world bench
  | @callback next settles raises =>
      rw [Delay.perform, Effect.bind_apply, Effect.attempt_apply]
      rcases ended : retry bench with ⟨outcome, later⟩
      cases outcome with
      | returned value =>
          simp only [settles.perform, around, approach, ended, Outcome.map, Outcome.error?]
      | raised error =>
          simp only [(raises error).perform, around, approach, ended, Outcome.map,
            Outcome.error?]

end Delay

end DeferredSpec
