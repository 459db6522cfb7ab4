/-
# Plans

A plan describes a part of a session as data: what a factory makes, what the step
of a hand-made node does, the course of a delay, what code does when a runner runs
it, and which registrations to make. Carrying out a plan makes the objects it
holds, once for everything the plan says is made once.
-/

import DeferredSpec.Session.Literal
import DeferredSpec.Settings.Loading
import DeferredSpec.Suite.Body

namespace DeferredSpec

/-- What a factory makes: a new value every time, always the same one, nothing but
an error, or the values of a series, the last of which repeats. -/
inductive FactoryPlan
  | fresh (literal : Literal)
  | shared (literal : Literal)
  | failing (error : Literal)
  | series (literals : List Literal)

/-- What the step of a hand-made node does with the previous result. -/
inductive StepPlan
  | constant (literal : Literal)
  | add (literal : Literal)
  | append (literal : Literal)
  | expectation
  | equality (literal : Literal)
  | fail (error : Literal)
  | tick (milliseconds : Int)
  | same

/-- The course of a delay: an error right away, or a number of runs of the retry,
whose errors may be swallowed, and possibly an error after them. -/
structure DelayPlan where
  times : Nat := 1
  swallow : Bool := false
  raise : Option Literal := none
  after : Option Literal := none

mutual

/-- What code does when it is run: take a note, register more, fail, on the first
runs or on all, and return a value. -/
inductive ErrandPlan
  | make (log : Option String) (register : List EntryPlan) (fail : Option Literal)
      (times : Option Nat) (result : Literal)

/-- A registration. -/
inductive EntryPlan
  | group (name : String) (body : List EntryPlan)
  | before (errand : ErrandPlan)
  | case (name : String) (errand : ErrandPlan)
  | fail (error : Literal)

end

/-- Where the settings of a session come from. -/
structure SettingsPlan where
  environment : List (String × String) := []
  keywords : List (String × Literal) := []
  delay : Option DelayPlan := none

section

variable [ObjectModel]

/-- Make an error. A literal of anything else makes the error that says so. -/
def Literal.toError (literal : Literal) : Action ErrorRef := do
  let value ← literal.build
  match value with
  | .error ref => pure ref
  | _ => Action.fail .notAnError

namespace FactoryPlan

/-- Take the next value of a series off its list; the last one stays. -/
def takeNext (ref : ListRef) : Action Value := do
  let items ← Effect.read fun world => world.listAt ref
  match items with
  | [] => Action.fail .indexOutOfRange
  | [last] => pure last
  | next :: second :: rest => do
      Effect.modify (World.setList ref (second :: rest))
      pure next

/-- What making a value does, and the value that is shared, if one is. -/
def carryOut : FactoryPlan → Action (Action Value × Option Value)
  | .fresh literal => pure (literal.build, none)
  | .shared literal => do
      let value ← literal.build
      pure (pure value, some value)
  | .failing error => pure (error.raise, none)
  | .series literals => do
      let values ← Literal.buildAll literals
      let ref ← Effect.update (World.newList values)
      pure (takeNext ref, none)

end FactoryPlan

/-- A factory that is noted whenever it is asked. -/
def notedFactory (factory : Action Value) : Action Value := do
  Action.note "factory" []
  factory

namespace StepPlan

/-- Ask a value for equality with another, as the chain does. -/
def askEqual (previous expected : Value) : Action Value := do
  let question ← previous.member "equal"
  question.call [expected]

/-- The step of a plan; what it holds is made now. -/
def carryOut : StepPlan → Action Step
  | .constant literal => do
      let value ← literal.build
      pure fun _ _ => pure value
  | .add literal => do
      let value ← literal.build
      pure fun _ previous => Value.add "+" previous value
  | .append literal => do
      let value ← literal.build
      pure fun _ previous => do
        let single ← Action.newList [value]
        Value.add "+" previous single
  | .expectation => pure fun _ previous => AssertionEngine.expectation previous
  | .equality literal => do
      let value ← literal.build
      pure fun _ previous => askEqual previous value
  | .fail error => do
      let value ← error.build
      pure fun _ _ => value.raise
  | .tick milliseconds => pure fun _ previous => do
      Effect.modify (World.tick milliseconds)
      pure previous
  | .same => pure fun _ previous => pure previous

end StepPlan

namespace DelayPlan

/-- Swallow an ordinary error and note its class; any other passes through. -/
def swallowError (error : ErrorRef) : Action Unit := do
  let isSwallowed ← Effect.read fun world => world.isOrdinary error
  if isSwallowed then do
    let className ← Effect.read fun world => (world.errorAt error).kind.className
    Action.note "swallowed" [.text className]
  else Effect.raise error

/-- The course of a number of runs, and what follows them. -/
def runs (swallow : Bool) (ending : Delay) : Nat → Delay
  | 0 => ending
  | times + 1 =>
      .callback fun
        | none => runs swallow ending times
        | some error =>
            if swallow then .act (swallowError error) (runs swallow ending times)
            else .fail error

/-- The course of a delay; being asked is noted. -/
def course (plan : DelayPlan) : Delay :=
  let ending : Delay :=
    match plan.after with
    | none => .finish
    | some error => .act error.raise .finish
  .act (Action.note "delay" []) <|
    match plan.raise with
    | some error => .act error.raise .finish
    | none => runs plan.swallow ending plan.times

end DelayPlan

namespace ErrandPlan

/-- Fail with an error while the number in a list is positive, and count it down. -/
def failCounted (counter : ListRef) (error : Value) : Action Unit := do
  let items ← Effect.read fun world => world.listAt counter
  match items with
  | [.integer remaining] =>
      if 0 < remaining then do
        Effect.modify (World.setList counter [.integer (remaining - 1)])
        error.raise
      else pure ()
  | _ => pure ()

/-- What code raises, if it raises something: one error, made now. -/
def failure (fail : Option Literal) (times : Option Nat) : Action (Action Unit) :=
  match fail, times with
  | none, _ => pure (pure ())
  | some literal, none => do
      let error ← literal.build
      pure error.raise
  | some literal, some times => do
      let error ← literal.build
      let counter ← Effect.update (World.newList [.integer times])
      pure (failCounted counter error)

/-- The code of an errand, without what it registers. What it raises and returns is made
once. -/
def routine : ErrandPlan → Action Routine
  | .make log _ fail times result => do
      let failure ← failure fail times
      let value ← result.build
      pure {
        opening :=
          match log with
          | some text => Action.note "ran" [.text text]
          | none => pure ()
        closing := do
          failure
          pure value }

end ErrandPlan

namespace EntryPlan

mutual

/-- The registration call of a plan. -/
def declaration : EntryPlan → Declaration
  | .group name body => .group name (declarations body)
  | .before errand => .before errand.routine (followUps errand)
  | .case name errand => .case name errand.routine (followUps errand)
  | .fail error => .fail error.toError

/-- The registration calls of several plans. -/
def declarations : List EntryPlan → List Declaration
  | [] => []
  | plan :: plans => declaration plan :: declarations plans

/-- The registration calls that an errand makes when it is run. -/
def followUps : ErrandPlan → List Declaration
  | .make _ register _ _ _ => declarations register

end

end EntryPlan

namespace SettingsPlan

/-- The settings under keywords, made in order. -/
def keywordSettings : List (String × Literal) → Action (List (String × Setting))
  | [] => pure []
  | (name, literal) :: rest => do
      let value ← literal.build
      let rest ← keywordSettings rest
      pure ((name, .value value) :: rest)

/-- The sources of a plan. -/
def sources (plan : SettingsPlan) : Action SettingSources := do
  let keywords ← keywordSettings plan.keywords
  let delay := plan.delay.toList.map fun delay => ("delay", Setting.course delay.course)
  pure (.withKeywords plan.environment (keywords ++ delay))

end SettingsPlan

end

end DeferredSpec
