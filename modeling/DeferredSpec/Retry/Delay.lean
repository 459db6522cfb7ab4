/-
# Delays

A delay is handed a retry and decides when, how often and whether to run it. It is
kept as the course it takes: what it does to the world, which may end it with an
error, how it goes on in the world it finds, and how it goes on after each run of the
retry, of which it sees only whether an error came out. It never sees the result of a
run, so it has nothing to make a result from.
-/

import DeferredSpec.Tree.Execution

namespace DeferredSpec

/-- The course of a delay. -/
inductive Delay
  | finish
  | act (action : Action Unit) (next : Delay)
  | look (next : World → Delay)
  | callback (next : Option ErrorRef → Delay)

namespace Delay

/-- End with an error. -/
def fail (error : ErrorRef) : Delay := .act (Effect.raise error) .finish

/-- Let an error through, and otherwise go on. -/
def propagate (next : Delay) : Option ErrorRef → Delay
  | none => next
  | some error => fail error

/-- Run the retry right away, once, and let its error through. -/
def immediate : Delay := .callback (propagate .finish)

/-- Wait, then run the retry once. The waiting is noted. -/
def sleep (seconds : Binary64) : Delay :=
  .act (Action.note "sleep" [.float seconds]) immediate

/-- Follow a delay with a retry; `latest` is what the last completed run returned,
and so is the result. -/
def perform {α : Type} (retry : Execution α) : Delay → Option α → Execution (Option α)
  | .finish, latest => pure latest
  | .act action next, latest => do
      Execution.ofAction action
      perform retry next latest
  | .look next, latest => fun bench => perform retry (next bench.world) latest bench
  | .callback next, latest => do
      let outcome ← retry.attempt
      match outcome with
      | .returned value => perform retry (next none) (some value)
      | .raised error => perform retry (next (some error)) latest

end Delay

end DeferredSpec
