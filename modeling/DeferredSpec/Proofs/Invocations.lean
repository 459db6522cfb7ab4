/-
# Invoking members

A link of a chain asks two things of values it knows nothing about: to find a member, and to be
called. Either may end with an error of any kind. An invocation makes these requests where it
is told to, so it can be watched: it looks the member up once, calls what it found once or not
at all, and every way in which the two can end has an end of its own.
-/

import DeferredSpec.Proofs.Checks
import DeferredSpec.Proofs.Masking
import DeferredSpec.Samples.Objects

namespace DeferredSpec

/-! ### What can be displayed has its other texts too -/

namespace Snapshot

variable {value : Snapshot} {text : String}

theorem exists_render (shown : value.display = .ok text) :
    ∃ rendered, value.render = .ok rendered := by
  rw [render, Written.rendered]
  cases value.written.json with
  | some json => exact ⟨json, rfl⟩
  | none => exact ⟨text, shown⟩

theorem exists_describe (shown : value.display = .ok text) :
    ∃ described, value.describe = .ok described := by
  unfold describe
  split
  · exact ⟨_, rfl⟩
  · rw [shown]
    exact ⟨_, rfl⟩

theorem exists_renderAll {values : List Snapshot}
    (shown : ∀ value ∈ values, ∃ text, value.display = .ok text) :
    ∃ rendered, renderAll values = .ok rendered := by
  have each : ∃ texts, values.mapM render = .ok texts := by
    induction values with
    | nil => exact ⟨[], rfl⟩
    | cons value values ih =>
        obtain ⟨text, here⟩ := shown value List.mem_cons_self
        obtain ⟨rendered, written⟩ := exists_render here
        obtain ⟨texts, further⟩ := ih fun other member => shown other (List.mem_cons_of_mem _ member)
        exact ⟨rendered :: texts, by rw [List.mapM_cons, written, further]; rfl⟩
  obtain ⟨texts, same⟩ := each
  exact ⟨_, by rw [renderAll, same]; rfl⟩

end Snapshot

/-- Whether a value can be displayed. -/
def Value.IsDisplayable (value : Value) (world : World) : Prop :=
  ∃ text, (world.view value).display = .ok text

/-! ### Where requests are made -/

/-- What an invocation asks of the values it meets. -/
inductive Request
  | find (owner name : Value)
  | call (function : Value) (arguments : List Value)

/-- A world with the requests that were made in it, the earliest first. -/
structure Transcript where
  world : World
  requests : List Request := []

/-- A place where members are invoked: how one acts on the world there, how a member is found and
how a function is called. -/
structure Host (σ : Type) where
  act : {α : Type} → Action α → Effect σ α
  find : Value → Value → Effect σ Value
  call : Value → List Value → Effect σ Value

namespace AssertionEngine

/-- Write to the log that a member is called. -/
def announce (context name : Value) (arguments : List Value) : Action Unit := do
  let message ← invocationMessage context name arguments
  Action.log debugLevel handleLogger message

/-- Raise that a member is of the wrong kind. -/
def refuse (owner name : Value) (kind : MemberKind) (reason : String) : Action Value := do
  let error ← SpecError.missingMember owner name (.text kind.word) (.text reason)
  Effect.raise error

/-- Raise what becomes of an error that looking a member up has raised. -/
def reclassify (owner name : Value) (kind : MemberKind) (cause : ErrorRef) : Action Value := do
  let cell ← Effect.read fun world => world.errorAt cause
  match cell.kind with
  | .missingMember .. => Effect.raise cause
  | other =>
      if other.isIn .attribute then do
        let error ← SpecError.missingMember owner name (.text kind.word)
          (.text SpecError.doesNotExist)
        Effect.modify (World.setCause error cause)
        Effect.raise error
      else Effect.raise cause

end AssertionEngine

namespace Host

open AssertionEngine

variable {σ : Type}

/-- Look a member up and check its kind. -/
def checkedMember (host : Host σ) (owner name : Value) (kind : MemberKind) : Effect σ Value := do
  let outcome ← (host.find owner name).attempt
  match outcome with
  | .returned member =>
      match kindFault? kind member with
      | none => pure member
      | some reason => host.act (refuse owner name kind reason)
  | .raised cause => host.act (reclassify owner name kind cause)

/-- Call a member if arguments were captured. -/
def use (host : Host σ) (arguments : Option (List Value)) (member : Value) : Effect σ Value :=
  match arguments with
  | none => pure member
  | some captured => host.call member captured

/-- Look a member up, and call it if arguments were captured. -/
def invoke (host : Host σ) (context name : Value) : Option (List Value) → Effect σ Value
  | none => host.checkedMember context name .property
  | some arguments => do
      host.act (announce context name arguments)
      let function ← host.checkedMember context name .function
      host.call function arguments

variable [ObjectModel]

/-- The world itself. -/
def plain : Host World where
  act action := action
  find := Value.memberNamed
  call := Value.call

/-- The world where all requests go down in a transcript. -/
def noting : Host Transcript where
  act action transcript :=
    ((action transcript.world).1, { transcript with world := (action transcript.world).2 })
  find owner name transcript :=
    let ended := owner.memberNamed name transcript.world
    (ended.1, ⟨ended.2, transcript.requests ++ [.find owner name]⟩)
  call function arguments transcript :=
    let ended := function.call arguments transcript.world
    (ended.1, ⟨ended.2, transcript.requests ++ [.call function arguments]⟩)

/-- In the world itself members are invoked as the standard engine does it. -/
theorem invoke_plain (context name : Value) (arguments : Option (List Value)) :
    plain.invoke context name arguments = standard.invoke context name arguments := by
  cases arguments with
  | none => rfl
  | some arguments =>
      simp only [invoke, AssertionEngine.invoke, announce, plain, bind_assoc]
      rfl

/-- What goes down in the transcript makes no difference to the rest. -/
def Follows {α : Type} (noted : Effect Transcript α) (action : Action α) : Prop :=
  ∀ transcript, action transcript.world = ((noted transcript).1, (noted transcript).2.world)

namespace Follows

variable {α β : Type}

omit [ObjectModel]

protected theorem pure (value : α) : Follows (pure value) (pure value) := fun _ => rfl

protected theorem bind {noted : Effect Transcript α} {action : Action α}
    {next : α → Effect Transcript β} {onward : α → Action β} (first : Follows noted action)
    (further : ∀ value, Follows (next value) (onward value)) :
    Follows (noted >>= next) (action >>= onward) := by
  intro transcript
  rw [Effect.bind_apply, Effect.bind_apply, first transcript]
  rcases noted transcript with ⟨outcome, later⟩
  cases outcome with
  | returned value => exact further value later
  | raised error => rfl

protected theorem attempt {noted : Effect Transcript α} {action : Action α}
    (follows : Follows noted action) : Follows noted.attempt action.attempt := by
  intro transcript
  rw [Effect.attempt_apply, Effect.attempt_apply, follows transcript]

end Follows

theorem follows_checkedMember (owner name : Value) (kind : MemberKind) :
    Follows (noting.checkedMember owner name kind) (plain.checkedMember owner name kind) := by
  refine .bind (.attempt fun _ => rfl) fun outcome => ?_
  cases outcome with
  | returned member =>
      dsimp only
      cases kindFault? kind member with
      | none => exact .pure member
      | some reason => exact fun _ => rfl
  | raised cause => exact fun _ => rfl

theorem follows_invoke (context name : Value) (arguments : Option (List Value)) :
    Follows (noting.invoke context name arguments) (plain.invoke context name arguments) := by
  cases arguments with
  | none => exact follows_checkedMember context name .property
  | some arguments =>
      exact .bind (fun _ => rfl) fun _ =>
        .bind (follows_checkedMember context name .function) fun _ => fun _ => rfl

end Host

/-! ### How an invocation ends -/

/-- Whether an error is one about a missing member. -/
def ErrorKind.isMissingMember : ErrorKind → Bool
  | .missingMember .. => true
  | _ => false

namespace AssertionEngine

variable (context : Value) (name : String)

/-- The error about a member that is missing or of the wrong kind. -/
def missingCell (kind : MemberKind) (reason message : String) (cause : Option ErrorRef) :
    ErrorCell where
  kind := .missingMember context (.text name) (.text kind.word) (.text reason)
  arguments := [.text message]
  cause := cause

/-- The world in which the member is looked up: a call is announced before. -/
def announced (arguments : Option (List Value)) (world : World) : World :=
  match arguments with
  | none => world
  | some arguments => (announce context (.text name) arguments world).2

/-- The kind of member that is wanted: a function just if arguments were captured. -/
def wantedKind (arguments : Option (List Value)) : MemberKind :=
  if arguments.isSome then .function else .property

variable {context} {world : World}

/-- An error about a member can be made where its owner can be displayed. -/
theorem exists_missingMember (shown : context.IsDisplayable world) (kind : MemberKind)
    (reason : String) :
    ∃ message,
      SpecError.missingMember context (.text name) (.text kind.word) (.text reason) world =
        (.returned (world.newError (missingCell context name kind reason message none)).1,
          (world.newError (missingCell context name kind reason message none)).2) := by
  obtain ⟨text, displayed⟩ := shown
  obtain ⟨rendered, written⟩ := Snapshot.exists_render displayed
  have owner : Action.render context world = (.returned rendered, world) := by
    rw [Action.render, Effect.bind_apply, Action.view, Effect.read_apply]
    simp only [written, Action.ofWording, Effect.pure_apply]
  have told (part : String) : Action.plain (.text part) world = (.returned part, world) := by
    rfl
  simp only [SpecError.missingMember, SpecError.missingMemberMessage, CaseForm.apply,
    Effect.bind_apply, Effect.pure_apply, told, owner, Action.typeName, Effect.read_apply]
  exact ⟨_, rfl⟩

theorem refuse_apply (shown : context.IsDisplayable world) (kind : MemberKind)
    (reason : String) :
    ∃ message, refuse context (.text name) kind reason world =
      (.raised (world.newError (missingCell context name kind reason message none)).1,
        (world.newError (missingCell context name kind reason message none)).2) := by
  obtain ⟨message, made⟩ := exists_missingMember name shown kind reason
  refine ⟨message, ?_⟩
  rw [refuse, Effect.bind_apply, made]
  rfl

/-- An error about a missing member and one of another family are raised again. -/
theorem reclassify_of_passed {cause : ErrorRef} (kind : MemberKind)
    (passed : (world.errorAt cause).kind.isIn .attribute = true →
      (world.errorAt cause).kind.isMissingMember = true) :
    reclassify context (.text name) kind cause world = (.raised cause, world) := by
  rw [reclassify, Effect.bind_apply, Effect.read_apply]
  dsimp only
  generalize (world.errorAt cause).kind = met at passed ⊢
  cases met with
  | missingMember owner member wanted reason => rfl
  | _ =>
      have foreign := eq_false_of_ne_true fun family => Bool.false_ne_true (passed family)
      simp only [foreign, Bool.false_eq_true, if_false, Effect.raise_apply]

/-- Any other error of the attribute family becomes the cause of one about a missing member. -/
theorem reclassify_of_attribute {cause : ErrorRef} (shown : context.IsDisplayable world)
    (kind : MemberKind) (family : (world.errorAt cause).kind.isIn .attribute = true)
    (other : (world.errorAt cause).kind.isMissingMember = false) :
    ∃ message, reclassify context (.text name) kind cause world =
      (.raised (world.newError
          (missingCell context name kind SpecError.doesNotExist message cause)).1,
        (world.newError
          (missingCell context name kind SpecError.doesNotExist message cause)).2) := by
  obtain ⟨message, made⟩ := exists_missingMember name shown kind SpecError.doesNotExist
  refine ⟨message, ?_⟩
  have caused : World.setCause
      (world.newError (missingCell context name kind SpecError.doesNotExist message none)).1 cause
        (world.newError (missingCell context name kind SpecError.doesNotExist message none)).2 =
      (world.newError
        (missingCell context name kind SpecError.doesNotExist message cause)).2 := by
    rw [World.setCause, World.errorAt_newError]
    have replaced (first second : ErrorCell) :
        (world.errors.push first).setIfInBounds world.errors.size second =
          world.errors.push second := by
      apply Array.ext'
      simp
    simp [World.newError, missingCell, replaced]
  rw [reclassify, Effect.bind_apply, Effect.read_apply]
  dsimp only
  generalize (world.errorAt cause).kind = met at family other ⊢
  cases met with
  | missingMember => cases other
  | _ =>
      simp only [family, if_true, Effect.bind_apply, made, Effect.modify_apply, caused]
      rfl

/-- A call can be announced where the context and the arguments can be displayed. -/
theorem announce_apply {arguments : List Value} (shown : context.IsDisplayable world)
    (told : ∀ argument ∈ arguments, argument.IsDisplayable world) :
    announce context (.text name) arguments world =
      (.returned (), announced context name (some arguments) world) := by
  obtain ⟨text, displayed⟩ := shown
  obtain ⟨described, short⟩ := Snapshot.exists_describe displayed
  have each : ∀ value ∈ arguments.map world.view, ∃ text, value.display = .ok text := by
    intro value member
    obtain ⟨argument, listed, rfl⟩ := List.mem_map.mp member
    exact told argument listed
  obtain ⟨rendered, written⟩ := Snapshot.exists_renderAll each
  have begun : Action.describe context world = (.returned described, world) := by
    rw [Action.describe, Effect.bind_apply, Action.view, Effect.read_apply]
    simp only [short, Action.ofWording, Effect.pure_apply]
  have listed : Action.renderAll arguments world = (.returned rendered, world) := by
    rw [Action.renderAll, Effect.bind_apply, Effect.read_apply]
    simp only [written, Action.ofWording, Effect.pure_apply]
  have named : Action.plain (.text name) world = (.returned name, world) := rfl
  rw [announced]
  simp only [announce, invocationMessage, Effect.bind_apply, begun, listed, named,
    Effect.pure_apply]
  rfl

variable [ObjectModel]

/-- How an invocation ends and which requests it makes, by how looking the member up ended. -/
structure EndsBy (context : Value) (name : String) (arguments : Option (List Value))
    (looked : Outcome Value × World) (ended : Outcome Value × Transcript) : Prop where
  own : ∀ error later, looked = (.raised error, later) →
    (later.errorAt error).kind.isMissingMember = true →
      ended = (.raised error, ⟨later, [.find context (.text name)]⟩)
  foreign : ∀ error later, looked = (.raised error, later) →
    (later.errorAt error).kind.isIn .attribute = false →
      ended = (.raised error, ⟨later, [.find context (.text name)]⟩)
  missing : ∀ error later, looked = (.raised error, later) →
    (later.errorAt error).kind.isIn .attribute = true →
      (later.errorAt error).kind.isMissingMember = false →
        ∃ message,
          let cell := missingCell context name (wantedKind arguments) SpecError.doesNotExist
            message (some error)
          ended = (.raised (later.newError cell).1,
            ⟨(later.newError cell).2, [.find context (.text name)]⟩)
  wrongKind : ∀ member later, looked = (.returned member, later) →
    member.isCallable ≠ arguments.isSome →
      ∃ reason message,
        let cell := missingCell context name (wantedKind arguments) reason message none
        ended = (.raised (later.newError cell).1,
          ⟨(later.newError cell).2, [.find context (.text name)]⟩)
  read : ∀ member later, looked = (.returned member, later) → member.isCallable = false →
    arguments = none → ended = (.returned member, ⟨later, [.find context (.text name)]⟩)
  called : ∀ member later captured, looked = (.returned member, later) →
    member.isCallable = true → arguments = some captured →
      ended = ((member.call captured later).1, ⟨(member.call captured later).2,
        [.find context (.text name), .call member captured]⟩)

/-- An error that a retry takes was raised as a failed expectation, by the lookup or by the
call. -/
def RetriesOnlyFailures (arguments : Option (List Value)) (looked : Outcome Value × World)
    (ended : Outcome Value × World) : Prop :=
  ∀ error, ended.1 = .raised error →
    ∀ (engine : RetryEngine) tree address later,
      engine.mayRetry tree address error ended.2 = (.returned true, later) →
        ended.2.isAssertionFailure error ∧
          (looked = ended ∨ ∃ member middle captured, looked = (.returned member, middle) ∧
            arguments = some captured ∧ member.call captured middle = ended)

section Ends

variable {name} {arguments : Option (List Value)} {later : World}

/-- A call is announced first, and then the member is looked up. -/
theorem noting_invoke_apply (shown : context.IsDisplayable world)
    (told : ∀ captured, arguments = some captured →
      ∀ argument ∈ captured, argument.IsDisplayable world) :
    Host.noting.invoke context (.text name) arguments ⟨world, []⟩ =
      (Host.noting.checkedMember context (.text name) (wantedKind arguments) >>=
        Host.noting.use arguments) ⟨announced context name arguments world, []⟩ := by
  cases arguments with
  | none => exact (congrFun (bind_pure _) _).symm
  | some captured =>
      have begun : Host.noting.act (announce context (.text name) captured) ⟨world, []⟩ =
          (.returned (), ⟨announced context name (some captured) world, []⟩) := by
        show ((announce context (.text name) captured world).1, _) = _
        rw [announce_apply name shown (told captured rfl)]
      rw [Host.invoke, Effect.bind_apply, begun]
      rfl

theorem noting_find_apply (context : Value) (name : String) (world : World) :
    (Host.noting.find context (.text name)).attempt ⟨world, []⟩ =
      (.returned (context.member name world).1,
        ⟨(context.member name world).2, [.find context (.text name)]⟩) := rfl

theorem noting_use_some (member : Value) (captured : List Value) (transcript : Transcript) :
    Host.noting.use (some captured) member transcript =
      ((member.call captured transcript.world).1,
        ⟨(member.call captured transcript.world).2,
          transcript.requests ++ [.call member captured]⟩) := rfl

theorem noting_checkedMember_of_raised {cause : ErrorRef} (kind : MemberKind)
    (looked : context.member name world = (.raised cause, later)) :
    Host.noting.checkedMember context (.text name) kind ⟨world, []⟩ =
      ((reclassify context (.text name) kind cause later).1,
        ⟨(reclassify context (.text name) kind cause later).2, [.find context (.text name)]⟩) := by
  rw [Host.checkedMember, Effect.bind_apply, noting_find_apply, looked]
  rfl

theorem noting_checkedMember_of_wrongKind {member : Value} {kind : MemberKind} {reason : String}
    (looked : context.member name world = (.returned member, later))
    (wrong : kindFault? kind member = some reason) :
    Host.noting.checkedMember context (.text name) kind ⟨world, []⟩ =
      ((refuse context (.text name) kind reason later).1,
        ⟨(refuse context (.text name) kind reason later).2, [.find context (.text name)]⟩) := by
  rw [Host.checkedMember, Effect.bind_apply, noting_find_apply, looked]
  simp only [wrong]
  rfl

theorem noting_checkedMember_of_rightKind {member : Value} {kind : MemberKind}
    (looked : context.member name world = (.returned member, later))
    (right : kindFault? kind member = none) :
    Host.noting.checkedMember context (.text name) kind ⟨world, []⟩ =
      (.returned member, ⟨later, [.find context (.text name)]⟩) := by
  rw [Host.checkedMember, Effect.bind_apply, noting_find_apply, looked]
  simp only [right]
  rfl

omit [ObjectModel] in
theorem kindFault?_eq_none_iff (arguments : Option (List Value)) (member : Value) :
    kindFault? (wantedKind arguments) member = none ↔ member.isCallable = arguments.isSome := by
  cases arguments <;> cases callable : member.isCallable <;>
    simp [kindFault?, wantedKind, callable]

/-- An invocation whose lookup ends with an error ends with what becomes of that error. -/
theorem noting_invoke_of_raised (shown : context.IsDisplayable world)
    (told : ∀ captured, arguments = some captured →
      ∀ argument ∈ captured, argument.IsDisplayable world) {cause error : ErrorRef}
    {final : World}
    (looked : context.member name (announced context name arguments world) =
      (.raised cause, later))
    (raised : reclassify context (.text name) (wantedKind arguments) cause later =
      (.raised error, final)) :
    Host.noting.invoke context (.text name) arguments ⟨world, []⟩ =
      (.raised error, ⟨final, [.find context (.text name)]⟩) := by
  rw [noting_invoke_apply shown told, Effect.bind_apply,
    noting_checkedMember_of_raised _ looked, raised]

theorem noting_invoke_of_wrongKind (shown : context.IsDisplayable world)
    (told : ∀ captured, arguments = some captured →
      ∀ argument ∈ captured, argument.IsDisplayable world) {member : Value} {reason : String}
    {error : ErrorRef} {final : World}
    (looked : context.member name (announced context name arguments world) =
      (.returned member, later))
    (wrong : kindFault? (wantedKind arguments) member = some reason)
    (raised : refuse context (.text name) (wantedKind arguments) reason later =
      (.raised error, final)) :
    Host.noting.invoke context (.text name) arguments ⟨world, []⟩ =
      (.raised error, ⟨final, [.find context (.text name)]⟩) := by
  rw [noting_invoke_apply shown told, Effect.bind_apply,
    noting_checkedMember_of_wrongKind looked wrong, raised]

theorem noting_invoke_of_rightKind (shown : context.IsDisplayable world)
    (told : ∀ captured, arguments = some captured →
      ∀ argument ∈ captured, argument.IsDisplayable world) {member : Value}
    (looked : context.member name (announced context name arguments world) =
      (.returned member, later))
    (right : member.isCallable = arguments.isSome) :
    Host.noting.invoke context (.text name) arguments ⟨world, []⟩ =
      Host.noting.use arguments member ⟨later, [.find context (.text name)]⟩ := by
  rw [noting_invoke_apply shown told, Effect.bind_apply,
    noting_checkedMember_of_rightKind looked ((kindFault?_eq_none_iff arguments member).mpr right)]

/-- How an invocation ends follows from how looking the member up ends. -/
theorem noting_invoke_endsBy (shown : context.IsDisplayable world)
    (told : ∀ captured, arguments = some captured →
      ∀ argument ∈ captured, argument.IsDisplayable world)
    (still : context.IsDisplayable
      (context.member name (announced context name arguments world)).2) :
    EndsBy context name arguments (context.member name (announced context name arguments world))
      (Host.noting.invoke context (.text name) arguments ⟨world, []⟩) where
  own error later looked own := by
    apply noting_invoke_of_raised shown told looked
    exact reclassify_of_passed name _ fun _ => own
  foreign error later looked foreign := by
    apply noting_invoke_of_raised shown told looked
    refine reclassify_of_passed name _ fun family => ?_
    rw [foreign] at family
    cases family
  missing error later looked family other := by
    rw [looked] at still
    obtain ⟨message, made⟩ := reclassify_of_attribute name still (wantedKind arguments) family other
    exact ⟨message, noting_invoke_of_raised shown told looked made⟩
  wrongKind member later looked wrong := by
    rw [looked] at still
    obtain ⟨reason, fault⟩ := Option.ne_none_iff_exists'.mp
      (mt (kindFault?_eq_none_iff arguments member).mp wrong)
    obtain ⟨message, made⟩ := refuse_apply name still (wantedKind arguments) reason
    exact ⟨reason, message, noting_invoke_of_wrongKind shown told looked fault made⟩
  read member later looked plain uncalled := by
    subst uncalled
    exact noting_invoke_of_rightKind shown told looked plain
  called member later captured looked callable written := by
    subst written
    rw [noting_invoke_of_rightKind shown told looked callable, noting_use_some]
    rfl

omit [ObjectModel] in
/-- An error about a member is no failed expectation. -/
theorem not_isAssertionFailure_missingCell (kind : MemberKind) (reason message : String)
    (cause : Option ErrorRef) :
    (world.newError (missingCell context name kind reason message cause)).2.isAssertionFailure
      (world.newError (missingCell context name kind reason message cause)).1 = false := by
  rw [World.isAssertionFailure, World.errorAt_newError]
  rfl

/-- What is retried is a failed expectation, and invocations make none of their own. -/
theorem EndsBy.retriesOnlyFailures {looked : Outcome Value × World}
    {ended : Outcome Value × Transcript} (ends : EndsBy context name arguments looked ended) :
    RetriesOnlyFailures arguments looked (ended.1, ended.2.world) := by
  intro error raised engine tree address final retried
  have failure := RetryEngine.isAssertionFailure_of_mayRetry retried
  refine ⟨failure, ?_⟩
  rcases looked with ⟨outcome, later⟩
  cases outcome with
  | raised cause =>
      cases family : (later.errorAt cause).kind.isIn .attribute with
      | false =>
          rw [ends.foreign cause later rfl family]
          exact .inl rfl
      | true =>
          cases missing : (later.errorAt cause).kind.isMissingMember with
          | true =>
              rw [ends.own cause later rfl missing]
              exact .inl rfl
          | false =>
              obtain ⟨message, same⟩ := ends.missing cause later rfl family missing
              rw [same] at raised failure
              cases raised
              exact absurd failure (by simp [not_isAssertionFailure_missingCell])
  | returned member =>
      by_cases right : member.isCallable = arguments.isSome
      · cases captured : arguments with
        | none =>
            rw [captured] at right
            rw [ends.read member later rfl right captured] at raised
            cases raised
        | some written =>
            rw [captured] at right
            have same := ends.called member later written rfl right captured
            refine .inr ⟨member, later, written, rfl, rfl, ?_⟩
            rw [same]
      · obtain ⟨reason, message, same⟩ := ends.wrongKind member later rfl right
        rw [same] at raised failure
        cases raised
        exact absurd failure (by simp [not_isAssertionFailure_missingCell])

end Ends

/-- **Invocations.** Take a context, the name of a member, and captured arguments or none, such that
the context and the arguments can be displayed, and the context still can once the member was
looked up. The invocation by the standard engine is the one that is watched. It looks the member
up once. An error about a missing member and every error outside of the attribute family is
raised again as it is; any other error of that family becomes the cause of one about the member
of the wanted kind. A member of the other kind is refused without a call. Otherwise the member
is called once with just the captured arguments, and the invocation ends as the call does, or it
is returned. So what is retried was raised as a failed expectation by the lookup or by the
call. -/
theorem invoke_classifiesFailures {context : Value} {name : String}
    {arguments : Option (List Value)} {world : World} (shown : context.IsDisplayable world)
    (told : ∀ captured, arguments = some captured →
      ∀ argument ∈ captured, argument.IsDisplayable world)
    (still : context.IsDisplayable
      (context.member name (announced context name arguments world)).2) :
    let looked := context.member name (announced context name arguments world)
    let ended := Host.noting.invoke context (.text name) arguments ⟨world, []⟩
    standard.invoke context (.text name) arguments world = (ended.1, ended.2.world) ∧
      EndsBy context name arguments looked ended ∧
      RetriesOnlyFailures arguments looked (ended.1, ended.2.world) := by
  intro looked ended
  have ends := noting_invoke_endsBy shown told still
  refine ⟨?_, ends, ends.retriesOnlyFailures⟩
  rw [← Host.invoke_plain]
  exact Host.follows_invoke context (.text name) arguments ⟨world, []⟩

end AssertionEngine

open AssertionEngine in
/-- A context over five that is asked whether it equals six: one lookup, one call, and what the
call raises may be retried. -/
theorem AssertionEngine.invoke_classifiesFailures_of_unequal :
    let context := Value.assertion 0 (.integer 5) false
    let captured := [Value.integer 6]
    let looked := context.member "equal" (announced context "equal" (some captured) {})
    let ended := Host.noting.invoke context (.text "equal") (some captured) ⟨{}, []⟩
    (context.IsDisplayable {} ∧ (∀ argument ∈ captured, argument.IsDisplayable {}) ∧
        context.IsDisplayable looked.2) ∧
      ended.1 = .raised ⟨0⟩ ∧ ended.2.world.isAssertionFailure ⟨0⟩ = true ∧
      ended.2.requests =
        [.find context (.text "equal"), .call (.method context "equal") captured] ∧
      RetriesOnlyFailures (some captured) looked (ended.1, ended.2.world) := by
  intro context captured looked ended
  have displayed (world : World) : context.IsDisplayable world := ⟨_, rfl⟩
  have told : ∀ argument ∈ captured, argument.IsDisplayable {} := by
    intro argument member
    obtain rfl := List.mem_singleton.mp member
    exact ⟨_, rfl⟩
  obtain ⟨actual, ends, retries⟩ := invoke_classifiesFailures (displayed {})
    (fun _ same => Option.some.inj same ▸ told) (displayed looked.2)
  have known : ChainWord.ofName? ({ name := "equal" } : Link).name = some (.called .equal) := by
    decide +kernel
  have read : context.member "equal" = pure (.method context "equal") := by
    refine (Link.member_of_ofName? known 0 (.integer 5) false).trans ?_
    rw [Value.contextMember, known]
    rfl
  have found : looked = (.returned (.method context "equal"), looked.2) := by
    rw [show looked = _ from congrFun read _]
    rfl
  have called := ends.called _ _ captured found rfl rfl
  refine ⟨⟨displayed {}, told, displayed looked.2⟩, ?_, ?_, ?_, retries⟩
  · exact Outcome.eq_raised_of_error? (by decide +kernel)
  · decide +kernel
  · rw [show ended = _ from called]

end DeferredSpec
