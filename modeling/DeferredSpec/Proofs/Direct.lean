/-
# Links that are followed directly

A link can be followed at once instead of being written into a tree: the member is looked up
on the context, and called if the link says so. The step that the link grows to does the
same, with a check of what was found and a message about a call. Where the link is used as
it is meant to be and the message can be composed, both end alike and leave the same world
up to the log.
-/

import DeferredSpec.Proofs.Spines
import DeferredSpec.Proofs.Unlogged.Predicates

namespace DeferredSpec

namespace Link

variable [ObjectModel]

/-- Follow a link from a context: look the member up, and call it if the link says so. -/
def follow (link : Link) (context : Value) : Action Value := do
  let found ← context.member link.name
  match link.arguments with
  | none => pure found
  | some arguments => found.call arguments

/-- Follow links one behind the other, each from what the one before has come to. -/
def followAll : List Link → Value → Action Value
  | [], context => pure context
  | link :: links, context => do
      let result ← link.follow context
      followAll links result

/-- Something holds of every link that is reached when links are followed one behind the
other. -/
def EachReached (test : Link → Value → World → Prop) : List Link → Value → World → Prop
  | [], _, _ => True
  | link :: links, context, world =>
      test link context world ∧
        ∀ result later, link.follow context world = (.returned result, later) →
          EachReached test links result later

/-- A link is used as it is meant to be: its member is found, or looking it up fails
otherwise than for want of the member, and it is called just if it can be. -/
def IsWellUsed (link : Link) (context : Value) (world : World) : Prop :=
  match context.member link.name world with
  | (.returned found, _) => link.arguments.isSome = found.isCallable
  | (.raised error, later) => (later.errorAt error).kind.isIn .attribute = false

/-- What is said about a link has words: the message about a call of it, and that of a failed
expectation it ends with. -/
def IsExpressible (link : Link) (context : Value) (world : World) : Prop :=
  (∀ arguments, link.arguments = some arguments →
      (AssertionEngine.invocationMessage context (.text link.name) arguments world).1.isReturned) ∧
    ∀ error later, link.follow context world = (.raised error, later) →
      (SpecError.reformatted error later).1.isReturned

section Decidable

variable (link : Link) (context : Value) (world : World)

instance decidableIsWellUsed : Decidable (link.IsWellUsed context world) :=
  match ended : context.member link.name world with
  | (.returned found, _) =>
      decidable_of_iff (link.arguments.isSome = found.isCallable) (by rw [IsWellUsed, ended])
  | (.raised error, later) =>
      decidable_of_iff ((later.errorAt error).kind.isIn .attribute = false)
        (by rw [IsWellUsed, ended])

instance decidableIsExpressible : Decidable (link.IsExpressible context world) :=
  have : Decidable (∀ arguments, link.arguments = some arguments →
      (AssertionEngine.invocationMessage context (.text link.name) arguments
        world).1.isReturned) :=
    match link.arguments with
    | none => isTrue fun _ called => by cases called
    | some arguments =>
        decidable_of_iff ((AssertionEngine.invocationMessage context (.text link.name) arguments
          world).1.isReturned) (by simp)
  have : Decidable (∀ error later, link.follow context world = (.raised error, later) →
      (SpecError.reformatted error later).1.isReturned) :=
    match link.follow context world with
    | (.returned _, _) => isTrue fun _ _ ended => by cases ended
    | (.raised error, later) =>
        decidable_of_iff ((SpecError.reformatted error later).1.isReturned) (by simp)
  inferInstanceAs (Decidable (_ ∧ _))

/-- What holds of every link that is reached can be found out by following the links. -/
instance decidableEachReached {test : Link → Value → World → Prop}
    [∀ link context world, Decidable (test link context world)] :
    ∀ links context world, Decidable (EachReached test links context world)
  | [], _, _ => isTrue trivial
  | link :: links, context, world =>
      have : Decidable (∀ result later, link.follow context world = (.returned result, later) →
          EachReached test links result later) :=
        match link.follow context world with
        | (.raised _, _) => isTrue fun _ _ ended => by cases ended
        | (.returned result, later) =>
            have : Decidable (EachReached test links result later) :=
              decidableEachReached links result later
            decidable_of_iff (EachReached test links result later) (by simp)
      inferInstanceAs (Decidable (_ ∧ _))

end Decidable

variable {link : Link} {context : Value} {world : World}

section Messages

omit [ObjectModel]

variable (context name : Value) (arguments : List Value)

theorem ignoresLog_invocationMessage :
    Action.IgnoresLog (AssertionEngine.invocationMessage context name arguments) :=
  (Action.ignoresLog_describe context).bind fun _ =>
    (Action.ignoresLog_renderAll arguments).bind fun _ =>
      (Action.ignoresLog_plain name).bind fun _ => .pure _

end Messages

variable [ObjectModel.IsBlind]

theorem IsWellUsed.withRecords (used : link.IsWellUsed context world)
    (records : Array LogRecord) : link.IsWellUsed context (world.withRecords records) := by
  rw [IsWellUsed] at used ⊢
  obtain ⟨written, same⟩ := context.ignoresLog_member link.name records world
  rw [same]
  rcases ended : context.member link.name world with ⟨outcome, later⟩
  rw [ended] at used
  cases outcome with
  | returned found => exact used
  | raised error => exact used

end Link

end DeferredSpec
