/-
# Members ignore the log

Reading a member of a plain value, of an error or of an object does not look at the log, and
neither does calling one.
-/

import DeferredSpec.Member.Invoke
import DeferredSpec.Proofs.Unlogged.Operations

namespace DeferredSpec

open DeferredSpec.Action

namespace ErrorCell

variable (records : Array LogRecord) (world : World)

theorem whole_withRecords (value : Value) : whole (world.withRecords records) value =
    whole world value := by
  rw [whole, whole, World.view_withRecords]

theorem systemDetails_withRecords (className : String) (cell : ErrorCell) :
    systemDetails (world.withRecords records) className cell =
      systemDetails world className cell := by
  simp only [systemDetails, whole_withRecords]

theorem sourceDetails_withRecords (cell : ErrorCell) :
    sourceDetails (world.withRecords records) cell = sourceDetails world cell := by
  simp only [sourceDetails, Value.members?_withRecords]

theorem codecDetails_withRecords (names : List String) (cell : ErrorCell) :
    codecDetails (world.withRecords records) names cell = codecDetails world names cell := by
  simp only [codecDetails, whole_withRecords]

theorem detailsOf_withRecords (cell : ErrorCell) :
    detailsOf (world.withRecords records) cell = detailsOf world cell := by
  simp only [detailsOf, systemDetails_withRecords, sourceDetails_withRecords,
    codecDetails_withRecords, Value.members?_withRecords]

end ErrorCell

namespace ErrorRef

theorem member?_withRecords (records : Array LogRecord) (world : World) (error : ErrorRef)
    (name : String) : error.member? (world.withRecords records) name = error.member? world name := by
  simp only [member?, World.errorAt_withRecords, ErrorCell.detailsOf_withRecords]

theorem ignoresLog_reworded (error : ErrorRef) (arguments : List Value) :
    IgnoresLog (error.reworded arguments) :=
  (rewording.ignoresLog_check arguments).bind fun _ =>
    (SpecError.ignoresLog_reformatted error).bind fun copy => .pure (Value.error copy)

end ErrorRef

namespace Value

/-! ### Methods of plain values -/

theorem ignoresLog_placeOf (length absent : Nat) (index : Option Value) :
    IgnoresLog (placeOf length absent index) := by
  unfold placeOf
  split
  · exact .pure _
  · exact .pure _
  · split
    · exact .pure _
    · exact ignoresLog_fail _

theorem ignoresLog_sliceOf {α : Type} (items : List α) (indices : List Value) :
    IgnoresLog (sliceOf items indices) :=
  (ignoresLog_placeOf items.length 0 _).bind fun _ =>
    (ignoresLog_placeOf items.length items.length _).bind fun _ => .pure _

theorem ignoresLog_checkSearch (arguments : List Value) : IgnoresLog (checkSearch arguments) := by
  unfold checkSearch
  split
  · exact ignoresLog_fail _
  · exact .ite (ignoresLog_fail _) (.pure ())

theorem ignoresLog_countText (value : String) (arguments : List Value) :
    IgnoresLog (countText value arguments) := by
  apply (ignoresLog_checkSearch arguments).bind
  intro _
  apply (ignoresLog_sliceOf _ _).bind
  intro slice
  split
  · exact .pure _
  · exact (ignoresLog_typeName _).bind fun kind => ignoresLog_fail _

theorem ignoresLog_soughtBytes (sought : Value) : IgnoresLog (soughtBytes sought) := by
  unfold soughtBytes
  split
  · exact .pure _
  · split
    · exact .ite (.pure _) (ignoresLog_fail _)
    · exact (ignoresLog_typeName _).bind fun kind => ignoresLog_fail _

theorem ignoresLog_countBytes (value : List UInt8) (arguments : List Value) :
    IgnoresLog (countBytes value arguments) :=
  (ignoresLog_checkSearch arguments).bind fun _ =>
    (ignoresLog_sliceOf value _).bind fun _ =>
      (ignoresLog_soughtBytes _).bind fun _ => .pure _

theorem ignoresLog_countMembers (items : List Value) (sought : Value) :
    IgnoresLog (countMembers items sought) := by
  refine (IgnoresLog.read fun records world => ?_).bind fun count => .pure (Value.integer count)
  simp only [World.view_withRecords]

theorem ignoresLog_avoids (container : Value) (items : List Value) :
    IgnoresLog (container.avoids items) := by
  induction items with
  | nil => exact .pure true
  | cons item items ih =>
      exact (ignoresLog_contains container item).bind fun there => .ite (.pure false) ih

theorem ignoresLog_isDisjoint (self other : Value) : IgnoresLog (self.isDisjoint other) := by
  refine (IgnoresLog.read fun records world => ?_).bind fun mine => ?_
  · rw [members?_withRecords]
  · apply (ignoresLog_iterate other).bind
    intro others
    refine (IgnoresLog.read fun records world => ?_).bind fun isSet => ?_
    · rw [World.view_withRecords]
    · exact .ite ((ignoresLog_avoids other mine).bind fun holds => .pure _)
        ((ignoresLog_avoids self others).bind fun holds => .pure _)

theorem ignoresLog_newView (kind : ViewKind) (ref : TableRef) : IgnoresLog (newView kind ref) :=
  ignoresLog_newIdentity.bind fun identity => .pure (Value.view identity kind ref)

theorem ignoresLog_getKey (ref : TableRef) (arguments : List Value) :
    IgnoresLog (getKey ref arguments) := by
  unfold getKey
  split
  · exact ignoresLog_fail _
  · refine .ite (ignoresLog_fail _) ((ignoresLog_checkKey _).bind fun _ => ?_)
    refine (IgnoresLog.read fun records world => ?_).bind fun found => .pure _
    simp only [World.view_withRecords, World.tableAt_withRecords]

theorem ignoresLog_withNone (self : Value) (name : String) (arguments : List Value)
    {run : Action Value} (ignores : IgnoresLog run) :
    IgnoresLog (self.withNone name arguments run) :=
  .ite ignores ((ignoresLog_typeName self).bind fun _ => ignoresLog_fail _)

theorem ignoresLog_withOne (self : Value) (name : String) (arguments : List Value)
    {run : Value → Action Value} (ignores : ∀ argument, IgnoresLog (run argument)) :
    IgnoresLog (self.withOne name arguments run) := by
  unfold withOne
  split
  · exact ignores _
  · exact (ignoresLog_typeName self).bind fun kind => ignoresLog_fail _

theorem ignoresLog_changeList (ref : ListRef) (change : List Value → List Value) :
    IgnoresLog (changeList ref change) :=
  (IgnoresLog.modify fun _ _ => rfl).bind fun _ => .pure Value.null

theorem ignoresLog_copyTable (ref : TableRef) : IgnoresLog (copyTable ref) :=
  (IgnoresLog.read fun _ _ => rfl).bind fun _ =>
    (IgnoresLog.update fun _ _ => rfl).bind fun copy => .pure (Value.table copy)

theorem ignoresLog_callInteger (self : Value) (number : Int) (name : String)
    (arguments : List Value) : IgnoresLog (self.callInteger number name arguments) := by
  refine ignoresLog_withNone self name arguments ?_
  split <;> exact .pure _

theorem ignoresLog_callCaseForm (self : Value) (name : String) (arguments : List Value) :
    IgnoresLog (self.callCaseForm name arguments) := by
  refine ignoresLog_withNone self name arguments ?_
  split
  · exact CaseForm.ignoresLog_apply _ self
  · exact .pure self

theorem ignoresLog_callList (self : Value) (ref : ListRef) (name : String)
    (arguments : List Value) : IgnoresLog (self.callList ref name arguments) := by
  unfold callList
  split
  · exact ignoresLog_withOne self _ arguments fun item => ignoresLog_changeList ref _
  · refine ignoresLog_withOne self _ arguments fun item => ?_
    exact (IgnoresLog.read fun _ _ => rfl).bind fun items => ignoresLog_countMembers items item
  · refine ignoresLog_withOne self _ arguments fun more => ?_
    exact (ignoresLog_iterate more).bind fun items => ignoresLog_changeList ref _
  · refine ignoresLog_withNone self _ arguments ?_
    exact (IgnoresLog.read fun _ _ => rfl).bind fun items => ignoresLog_newList items
  · exact ignoresLog_withNone self _ arguments (ignoresLog_changeList ref _)
  · exact ignoresLog_withNone self _ arguments (ignoresLog_changeList ref _)

theorem ignoresLog_callTable (self : Value) (ref : TableRef) (name : String)
    (arguments : List Value) : IgnoresLog (self.callTable ref name arguments) := by
  unfold callTable
  split
  · exact ignoresLog_withNone self _ arguments (ignoresLog_newView _ ref)
  · exact ignoresLog_getKey ref arguments
  · exact ignoresLog_withNone self _ arguments (ignoresLog_copyTable ref)
  · refine ignoresLog_withNone self _ arguments ?_
    exact (IgnoresLog.modify fun _ _ => rfl).bind fun _ => .pure _

theorem ignoresLog_callPlain (self : Value) (name : String) (arguments : List Value) :
    IgnoresLog (self.callPlain name arguments) := by
  unfold callPlain
  split
  · exact ignoresLog_callInteger _ _ name arguments
  · exact ignoresLog_callInteger _ _ name arguments
  · exact ignoresLog_withNone _ name arguments (.ite (.pure _) (.pure _))
  · exact .ite (ignoresLog_countText _ arguments) (ignoresLog_callCaseForm _ name arguments)
  · exact .ite (ignoresLog_countBytes _ arguments) (ignoresLog_callCaseForm _ name arguments)
  · exact ignoresLog_withOne _ name arguments (ignoresLog_countMembers _)
  · exact ignoresLog_callList _ _ name arguments
  · exact ignoresLog_callTable _ _ name arguments
  · exact .ite (ignoresLog_withNone _ name arguments (.pure _))
      (ignoresLog_withOne _ name arguments (ignoresLog_isDisjoint _))

end Value

end DeferredSpec
