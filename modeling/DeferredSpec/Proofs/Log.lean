/-
# Actions and the log

Log records are written for readers and not for the program. An action ignores the log
if another log before it changes nothing but the log after it; it may still write records
of its own. An action that only asks leaves the world as it is when it returns.
Both properties are kept by sequencing, so they hold of whatever is composed of
actions that have them.
-/

import DeferredSpec.Tree.Execution

namespace DeferredSpec

namespace World

/-- The world with another log. -/
def withRecords (records : Array LogRecord) (world : World) : World :=
  { world with records := records }

@[simp] theorem withRecords_withRecords (first second : Array LogRecord) (world : World) :
    (world.withRecords first).withRecords second = world.withRecords second := rfl

@[simp] theorem tableAt_withRecords (records : Array LogRecord) (world : World) (ref : TableRef) :
    (world.withRecords records).tableAt ref = world.tableAt ref := rfl

@[simp] theorem errorAt_withRecords (records : Array LogRecord) (world : World) (ref : ErrorRef) :
    (world.withRecords records).errorAt ref = world.errorAt ref := rfl

/-- What a reference leads to does not depend on the log. -/
theorem follow_withRecords (records : Array LogRecord) (world : World) (depth : Nat) :
    (world.withRecords records).follow depth = world.follow depth := by
  induction depth with
  | zero => rfl
  | succ depth ih =>
      funext entered place
      simp only [follow, ih]
      rfl

@[simp] theorem view_withRecords (records : Array LogRecord) (world : World) (value : Value) :
    (world.withRecords records).view value = world.view value := by
  unfold view
  rw [follow_withRecords]
  rfl

theorem view_withRecords_eq (records : Array LogRecord) (world : World) :
    (world.withRecords records).view = world.view :=
  funext (view_withRecords records world)

@[simp] theorem typeName_withRecords (records : Array LogRecord) (world : World) (value : Value) :
    (world.withRecords records).typeName value = world.typeName value := by
  unfold typeName
  rw [view_withRecords]

end World

namespace Action

variable {α β : Type}

/-- Another log before the action changes nothing but the log after it. The action may write
to the log. -/
def IgnoresLog (action : Action α) : Prop :=
  ∀ (records : Array LogRecord) (world : World), ∃ written,
    action (world.withRecords records) =
      ((action world).1, (action world).2.withRecords written)

/-- The action leaves the world as it is whenever it returns. -/
def OnlyAsks (action : Action α) : Prop :=
  ∀ (world : World) (value : α) (later : World),
    action world = (.returned value, later) → later = world

namespace IgnoresLog

protected theorem pure (value : α) : IgnoresLog (pure value : Action α) :=
  fun records _ => ⟨records, rfl⟩

protected theorem raise (error : ErrorRef) : IgnoresLog (Effect.raise error : Action α) :=
  fun records _ => ⟨records, rfl⟩

protected theorem ite {condition : Prop} [Decidable condition] {first second : Action α}
    (ignores : IgnoresLog first) (also : IgnoresLog second) :
    IgnoresLog (if condition then first else second) := by
  split
  · exact ignores
  · exact also

protected theorem bind {first : Action α} {next : α → Action β} (ignores : IgnoresLog first)
    (further : ∀ value, IgnoresLog (next value)) : IgnoresLog (first >>= next) := by
  intro records world
  obtain ⟨written, same⟩ := ignores records world
  rw [Effect.bind_apply, Effect.bind_apply, same]
  rcases first world with ⟨outcome, later⟩
  cases outcome with
  | returned value => exact further value written later
  | raised error => exact ⟨written, rfl⟩

protected theorem read {view : World → α}
    (blind : ∀ records world, view (world.withRecords records) = view world) :
    IgnoresLog (Effect.read view) := by
  intro records world
  refine ⟨records, ?_⟩
  rw [Effect.read_apply, Effect.read_apply, blind]

protected theorem update {change : World → α × World}
    (blind : ∀ records world,
      change (world.withRecords records) =
        ((change world).1, (change world).2.withRecords records)) :
    IgnoresLog (Effect.update change) := by
  intro records world
  refine ⟨records, ?_⟩
  rw [Effect.update_apply, Effect.update_apply, blind]

protected theorem modify {change : World → World}
    (blind : ∀ records world,
      change (world.withRecords records) = (change world).withRecords records) :
    IgnoresLog (Effect.modify change) := by
  intro records world
  refine ⟨records, ?_⟩
  rw [Effect.modify_apply, Effect.modify_apply, blind]

protected theorem attempt {action : Action α} (ignores : IgnoresLog action) :
    IgnoresLog action.attempt := by
  intro records world
  obtain ⟨written, same⟩ := ignores records world
  refine ⟨written, ?_⟩
  rw [Effect.attempt_apply, Effect.attempt_apply, same]

protected theorem collect {action : α → Action β} (ignores : ∀ item, IgnoresLog (action item)) :
    ∀ items : List α, IgnoresLog (Effect.collect action items)
  | [] => IgnoresLog.pure []
  | item :: items =>
      (ignores item).bind fun first =>
        (IgnoresLog.collect ignores items).bind fun rest => IgnoresLog.pure (first :: rest)

end IgnoresLog

namespace OnlyAsks

protected theorem pure (value : α) : OnlyAsks (pure value : Action α) := by
  rintro world _ _ ⟨⟩
  rfl

protected theorem read (view : World → α) : OnlyAsks (Effect.read view) := by
  rintro world _ _ ⟨⟩
  rfl

protected theorem bind {first : Action α} {next : α → Action β} (asks : OnlyAsks first)
    (further : ∀ value, OnlyAsks (next value)) : OnlyAsks (first >>= next) := by
  intro world value later ended
  rw [Effect.bind_apply] at ended
  rcases middle : first world with ⟨outcome, between⟩
  rw [middle] at ended
  cases outcome with
  | returned found =>
      rw [← asks world found between middle]
      exact further found between value later ended
  | raised error => cases ended

/-- An action that never returns asks for all one knows. -/
theorem of_raised {action : Action α} (raises : ∀ world, ∃ error, (action world).1 = .raised error) :
    OnlyAsks action := by
  intro world value later ended
  obtain ⟨error, raised⟩ := raises world
  rw [ended] at raised
  cases raised

theorem exists_returned {action : Action α} (asks : OnlyAsks action) {world : World}
    (returns : (action world).1.isReturned) : ∃ value, action world = (.returned value, world) := by
  rcases ended : action world with ⟨outcome, later⟩
  rw [ended] at returns
  cases outcome with
  | raised error => cases returns
  | returned value =>
      obtain rfl := asks world value later ended
      exact ⟨value, rfl⟩

end OnlyAsks

/-! ### Texts and faults -/

theorem ignoresLog_raiseNew (kind : ErrorKind) (arguments : List Value) :
    IgnoresLog (raiseNew kind arguments : Action α) :=
  (IgnoresLog.update fun _ _ => rfl).bind fun error => IgnoresLog.raise error

theorem ignoresLog_fail (fault : Fault) : IgnoresLog (fail fault : Action α) :=
  ignoresLog_raiseNew fault.kind fault.arguments

theorem onlyAsks_fail (fault : Fault) : OnlyAsks (fail fault : Action α) :=
  OnlyAsks.of_raised fun _ => ⟨_, rfl⟩

theorem ignoresLog_ofWording (wording : Wording) : IgnoresLog (ofWording wording) := by
  cases wording with
  | ok text => exact IgnoresLog.pure text
  | error reason => exact ignoresLog_fail (.unwritable reason)

theorem onlyAsks_ofWording (wording : Wording) : OnlyAsks (ofWording wording) := by
  cases wording with
  | ok text => exact OnlyAsks.pure text
  | error reason => exact onlyAsks_fail (.unwritable reason)

theorem ignoresLog_view (value : Value) : IgnoresLog (view value) :=
  IgnoresLog.read fun records world => World.view_withRecords records world value

theorem ignoresLog_typeName (value : Value) : IgnoresLog (typeName value) :=
  IgnoresLog.read fun records world => World.typeName_withRecords records world value

theorem ignoresLog_display (value : Value) : IgnoresLog (display value) :=
  (ignoresLog_view value).bind fun snapshot => ignoresLog_ofWording snapshot.display

theorem onlyAsks_display (value : Value) : OnlyAsks (display value) :=
  (OnlyAsks.read _).bind fun snapshot => onlyAsks_ofWording snapshot.display

theorem ignoresLog_render (value : Value) : IgnoresLog (render value) :=
  (ignoresLog_view value).bind fun snapshot => ignoresLog_ofWording snapshot.render

theorem onlyAsks_render (value : Value) : OnlyAsks (render value) :=
  (OnlyAsks.read _).bind fun snapshot => onlyAsks_ofWording snapshot.render

theorem ignoresLog_describe (value : Value) : IgnoresLog (describe value) :=
  (ignoresLog_view value).bind fun snapshot => ignoresLog_ofWording snapshot.describe

theorem onlyAsks_describe (value : Value) : OnlyAsks (describe value) :=
  (OnlyAsks.read _).bind fun snapshot => onlyAsks_ofWording snapshot.describe

theorem ignoresLog_plain (value : Value) : IgnoresLog (plain value) :=
  (ignoresLog_view value).bind fun snapshot => ignoresLog_ofWording snapshot.plain

theorem onlyAsks_plain (value : Value) : OnlyAsks (plain value) :=
  (OnlyAsks.read _).bind fun snapshot => onlyAsks_ofWording snapshot.plain

theorem ignoresLog_renderAll (values : List Value) : IgnoresLog (renderAll values) :=
  (IgnoresLog.read fun records world => by rw [World.view_withRecords_eq]).bind
    fun snapshots => ignoresLog_ofWording (Snapshot.renderAll snapshots)

theorem onlyAsks_renderAll (values : List Value) : OnlyAsks (renderAll values) :=
  (OnlyAsks.read _).bind fun snapshots => onlyAsks_ofWording (Snapshot.renderAll snapshots)

end Action

end DeferredSpec
