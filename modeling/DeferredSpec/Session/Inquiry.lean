/-
# Inquiries

Single questions, each asked in a world of its own: how values are rendered, where
a chain of assertion words leads, what kind of member a value has, what an error
is, how code ends, which names a trap takes, and what settings come to.
-/

import DeferredSpec.Session.Answer
import DeferredSpec.Session.Plan
import DeferredSpec.Settings.Engine

namespace DeferredSpec

namespace Inquiry

variable [ObjectModel]

/-- The rendered text of a value, and its description, as far as it has them. -/
structure Rendering where
  rendered : Reply String
  described : Reply String

/-- Render and describe a value. -/
def render (literal : Literal) : Action Rendering := do
  let value ← literal.build
  let rendered ← (Action.render value).reply id
  let described ← (Action.describe value).reply id
  pure ⟨rendered, described⟩

/-- Render arguments. -/
def renderArguments (literals : List Literal) : Action String := do
  let values ← Literal.buildAll literals
  Action.renderAll values

/-- The sentence of a final assertion failure. -/
def expectedActual (expected actual : Literal) : Action String := do
  let expected ← expected.build
  let actual ← actual.build
  let wording ← Effect.read fun world =>
    SpecError.expectedActual (world.view expected) (world.view actual)
  Action.ofWording wording

/-- A word of an assertion chain, with the arguments of its call, if any. -/
structure ChainWordUse where
  word : String
  arguments : Option (List Literal) := none

/-- What came of a word: what it led to and whether that is the very context it was
asked of, or the error with its final wording, if it has one. -/
inductive WordAnswer
  | reached (value : Snapshot) (same : Option Bool)
  | failed (error : Snapshot) (reformatted : Option String)

/-- Use a word on a context: through the standard engine with its check of the
kind of the member, or plainly. -/
def useWord (checked : Bool) (context : Value) (word : String) (arguments : Option (List Value)) :
    Action Value :=
  if checked then AssertionEngine.standard.invoke context (.text word) arguments
  else do
    let member ← context.member word
    match arguments with
    | none => pure member
    | some arguments => member.call arguments

/-- Whether a value is code or a method, which no chain goes on from. -/
def isBareFunction : Value → Bool
  | .method .. => true
  | .code => true
  | _ => false

/-- The final wording of a failed expectation. -/
def finalWording? (error : ErrorRef) : Action (Option String) := do
  match ← FailureKind.ask error with
  | .assertion => do
      let reformatted ← SpecError.reformatted error
      let message ← Action.plain (.error reformatted)
      pure (some message)
  | .other => pure none

/-- Use words one after another. A result becomes the next context; after an error,
and after a function, the context stays. -/
def useWords (checked : Bool) (context : Value) :
    List (String × Option (List Value)) → Action (List WordAnswer)
  | [] => pure []
  | (word, arguments) :: uses => do
      let outcome ← (useWord checked context word arguments).attempt
      match outcome with
      | .returned value => do
          let shown ← Action.tell value
          let same := if value.isAssertion then some (context.isSameAssertion value) else none
          let next := if isBareFunction value then context else value
          let rest ← useWords checked next uses
          pure (.reached shown same :: rest)
      | .raised error => do
          let shown ← Action.tell (.error error)
          let wording ← finalWording? error
          let rest ← useWords checked context uses
          pure (.failed shown wording :: rest)

/-- The arguments of the calls behind words, made in order. -/
def buildUses : List ChainWordUse → Action (List (String × Option (List Value)))
  | [] => pure []
  | use :: uses => do
      let arguments ←
        match use.arguments with
        | none => pure none
        | some literals => do
            let values ← Literal.buildAll literals
            pure (some values)
      let rest ← buildUses uses
      pure ((use.word, arguments) :: rest)

/-- Follow an assertion chain over a subject. -/
def expectChain (subject : Literal) (checked : Bool) (uses : List ChainWordUse) :
    Action (List WordAnswer) := do
  let subject ← subject.build
  let uses ← buildUses uses
  let context ← AssertionEngine.expectation subject
  useWords checked context uses

/-- Look a member up with a check of its kind. -/
def checkedMember (owner : Literal) (name : String) (kind : MemberKind) : Action Snapshot := do
  let owner ← owner.build
  let member ← AssertionEngine.standard.lookUp owner (.text name) kind
  Action.tell member

/-- What is told about an error: how it looks, its displayed text, its families and kind,
and how it looks in its final wording, if it is a failed expectation. -/
structure ErrorAnswer where
  error : Snapshot
  text : String
  families : List ErrorFamily
  kind : FailureKind
  reformatted : Option Snapshot

/-- How a failed expectation looks in its final wording. It may be given a cause before,
which must be an error. -/
def describeReformatted (ref : ErrorRef) (cause : Option Literal) : Action Snapshot := do
  match cause with
  | none => pure ()
  | some literal => do
      let cause ← literal.build
      match cause with
      | .error cause => Effect.modify (World.setCause ref cause)
      | .null => pure ()
      | _ => Action.fail .causeNotAnError
  let final ← SpecError.reformatted ref
  Action.tell (.error final)

/-- Tell about an error. -/
def describeError (error : Literal) (cause : Option Literal) : Action ErrorAnswer := do
  let ref ← error.toError
  let shown ← Action.tell (.error ref)
  let text ← Action.display (.error ref)
  let kind ← Effect.read fun world => (world.errorAt ref).kind
  let families := [.spec, .assertion, .attribute, .value].filter fun family => kind.isIn family
  let failure ← FailureKind.ask ref
  let reformatted ←
    match failure with
    | .assertion => do
        let told ← describeReformatted ref cause
        pure (some told)
    | .other => pure none
  pure ⟨shown, text, families, failure, reformatted⟩

/-- How code ends: with a value, or with an ordinary error. Any other error is not
caught. -/
def outcome (errand : ErrandPlan) : Action (Reply Snapshot) := do
  let routine ← errand.routine
  let ended ←
    (do
      routine.opening
      routine.closing : Action Value).attempt
  match ended with
  | .returned value => Reply.tell (.returned value)
  | .raised error => do
      let isCaught ← Effect.read fun world => world.isOrdinary error
      if isCaught then Reply.tell (.raised error) else Effect.raise error

/-- What came of reading a name off a trap, and whether the trap has it. -/
structure TrapAnswer where
  read : Reply Snapshot
  has : Bool

/-- The member of a trap that is always there. -/
def trapMethod : String := "resolve_member"

/-- Look a name up in the table of a trap, which is noted. A trap without a table
resolves nothing. -/
def resolveName (table : Option (List (String × Value))) (name : String) :
    Action (Option Value) :=
  match table with
  | none => pure none
  | some entries => do
      Action.note "resolve" [.text name]
      match entries.lookup name with
      | some .null => pure none
      | found => pure found

/-- Read a name off a trap. -/
def readTrap (table : Option (List (String × Value))) (name : String) : Action Value :=
  if name == trapMethod then pure .code
  else
    MemberTrap.read Action.fail (if table.isSome then "Table" else "Plain") name
      (resolveName table)

/-- Read names off a trap, each of them twice. -/
def readNames (table : Option (List (String × Value))) : List String → Action (List TrapAnswer)
  | [] => pure []
  | name :: names => do
      let read ← (readTrap table name).attempt
      let shown ← Reply.tell read
      let again ← (readTrap table name).attempt
      let rest ← readNames table names
      pure (⟨shown, again.isReturned⟩ :: rest)

/-- The entries of a table of names. -/
def buildNames : List (String × Literal) → Action (List (String × Value))
  | [] => pure []
  | (name, literal) :: entries => do
      let value ← literal.build
      let rest ← buildNames entries
      pure ((name, value) :: rest)

/-- Read names off a trap, with a table or without; also tells what was noted. -/
def trap (names : List String) (table : Option (List (String × Literal))) :
    Action (List TrapAnswer × List Note) := do
  let table ←
    match table with
    | none => pure none
    | some entries => do
        let entries ← buildNames entries
        pure (some entries)
  let answers ← readNames table names
  let notes ← Effect.read World.notes
  pure (answers, notes.toList)

/-- What is told about settings: the settings, the problem of a forbidden change,
what their delay did, and the engine they come to. -/
structure SettingsAnswer where
  settings : Settings
  refused : Option ShownProblem
  delayRun : Reply Snapshot
  delayCalls : Nat
  delayNotes : List Note
  engine : Reply (Nat × Bool)

/-- What the runs of a retry are noted as while a delay is tried out. -/
def retryNote : String := "retry"

/-- Try a delay out with a retry that only notes its runs. -/
def tryDelay : DelayChoice → Execution Value
  | .custom (.value function) => Execution.ofAction (function.call [.code])
  | choice => do
      let _ ← choice.course.perform (Execution.ofAction (Action.note retryNote [])) none
      pure .null

/-- Settings cannot be changed: every assignment is a problem of its own. -/
def refuse (name : String) (literal : Literal) : Action ShownProblem := do
  let value ← literal.build
  ShownProblem.ofProblem ⟨name, value, .frozen⟩

/-- Tell about loaded settings. -/
def describeSettings (settings : Settings) (change : Option (String × Literal)) :
    Action SettingsAnswer := do
  let refused ←
    match change with
    | none => pure none
    | some (name, literal) => do
        let problem ← refuse name literal
        pure (some problem)
  let before ← Effect.get
  let (ended, bench) := tryDelay settings.delayChoice { world := before }
  Effect.modify fun _ => bench.world
  let notes := bench.world.notes.toList.drop before.notes.size
  let delayRun ← Reply.tell ended
  let engine ← (RetryEngine.ofSettings settings).reply id
  pure {
    settings, refused, delayRun
    delayCalls := notes.countP fun note => note.subject == retryNote
    delayNotes := notes.filter fun note => note.subject != retryNote
    engine := engine.map fun engine => (engine.maxRetries, engine.eventualByDefault) }

/-- What came of loading settings: an answer about them, problems, or another error. -/
inductive SettingsOutcome
  | accepted (answer : SettingsAnswer)
  | rejected (problems : List ShownProblem)
  | failed (error : Snapshot)

/-- Load settings, with recovery or without, and tell about them; also tells what
was logged. -/
def settings (plan : SettingsPlan) (recovering : Bool) (change : Option (String × Literal)) :
    Action (SettingsOutcome × List LogRecord) := do
  let sources ← plan.sources
  let loading :=
    if recovering then Settings.loadRecovering sources else pure (Settings.load sources)
  let loaded ← loading.attempt
  let records ← Effect.read World.records
  match loaded with
  | .returned (.ok settings) => do
      let answer ← describeSettings settings change
      pure (.accepted answer, records.toList)
  | .returned (.error problems) => do
      let shown ← Effect.collect ShownProblem.ofProblem problems
      pure (.rejected shown, records.toList)
  | .raised error => do
      let shown ← Action.tell (.error error)
      pure (.failed shown, records.toList)

/-- The settings that locations belong to. -/
def fieldsAt (locations : List Literal) : Action (List (Option SettingField)) := do
  let values ← Literal.buildAll locations
  let texts ← Effect.collect Action.plain values
  pure (texts.map SettingField.ofLocation?)

end Inquiry

end DeferredSpec
