/-
# The sample objects ignore the log

Nothing that the sample objects do looks at the log: they read and change their own fields,
lists and tables, and compute with what they find there.
-/

import DeferredSpec.Proofs.Unlogged.Operations
import DeferredSpec.Samples.Objects

namespace DeferredSpec

open DeferredSpec.Action

namespace ObjectRef

theorem ignoresLog_field (ref : ObjectRef) (name : String) : IgnoresLog (ref.field name) :=
  IgnoresLog.read fun _ _ => rfl

theorem ignoresLog_setField (ref : ObjectRef) (name : String) (value : Value) :
    IgnoresLog (ref.setField name value) :=
  IgnoresLog.modify fun _ _ => rfl

end ObjectRef

namespace Value

theorem ignoresLog_operands? (first second : Value) : IgnoresLog (operands? first second) := by
  unfold operands?
  split
  · exact .pure _
  · split
    · exact (ignoresLog_toDouble _).bind fun _ => .pure _
    · exact .pure _
  · split
    · exact (ignoresLog_toDouble _).bind fun _ => .pure _
    · exact .pure _
  · split
    · exact .pure _
    · exact .pure _

theorem ignoresLog_add (sign : String) (first second : Value) :
    IgnoresLog (add sign first second) := by
  apply (ignoresLog_operands? first second).bind
  intro numbers
  split
  · exact .pure _
  · exact ignoresLog_newIdentity.bind fun _ => .pure _
  · apply (ignoresLog_typeName first).bind
    intro left
    apply (ignoresLog_typeName second).bind
    intro right
    split
    · exact .pure _
    · exact ignoresLog_fail _
    · exact .pure _
    · exact ignoresLog_fail _
    · exact .pure _
    · exact ignoresLog_fail _
    · apply (IgnoresLog.read fun _ _ => rfl).bind
      intro ours
      exact (IgnoresLog.read fun _ _ => rfl).bind fun theirs => ignoresLog_newList _
    · exact ignoresLog_fail _
    · exact ignoresLog_fail _

theorem ignoresLog_addInPlace (first second : Value) : IgnoresLog (addInPlace first second) := by
  unfold addInPlace
  split
  · apply (ignoresLog_iterate second).bind
    intro more
    exact (IgnoresLog.modify fun _ _ => rfl).bind fun _ => .pure _
  · exact ignoresLog_add "+=" first second

theorem ignoresLog_repeatSequence? (count : Int) (value : Value) {otherwise : Action Value}
    (ignores : IgnoresLog otherwise) :
    IgnoresLog ((repeatSequence? count value).getD otherwise) := by
  unfold repeatSequence?
  split
  · exact (ignoresLog_checkRepetition _ _ _).bind fun _ => .pure _
  · exact (ignoresLog_checkRepetition _ _ _).bind fun _ => .pure _
  · exact (ignoresLog_checkRepetition _ _ _).bind fun _ => .pure _
  · apply (IgnoresLog.read fun _ _ => rfl).bind
    intro items
    exact (ignoresLog_checkRepetition _ _ _).bind fun _ => ignoresLog_newList _
  · exact ignores

theorem ignoresLog_mul (first second : Value) : IgnoresLog (mul first second) := by
  apply (ignoresLog_operands? first second).bind
  intro numbers
  split
  · exact .pure _
  · exact ignoresLog_newIdentity.bind fun _ => .pure _
  · apply (ignoresLog_typeName first).bind
    intro left
    apply (ignoresLog_typeName second).bind
    intro right
    split
    · exact ignoresLog_repeatSequence? _ first (ignoresLog_fail _)
    · exact ignoresLog_repeatSequence? _ second (ignoresLog_fail _)
    · exact .ite (ignoresLog_fail _) (.ite (ignoresLog_fail _) (ignoresLog_fail _))

theorem ignoresLog_absolute (value : Value) : IgnoresLog value.absolute := by
  unfold absolute
  split
  · exact .pure _
  · split
    · exact .pure _
    · exact (ignoresLog_typeName _).bind fun kind => ignoresLog_fail _

theorem ignoresLog_raise {α : Type} (value : Value) : IgnoresLog (value.raise : Action α) := by
  unfold raise
  split
  · exact .raise _
  · exact ignoresLog_fail _

end Value

namespace Samples

theorem ignoresLog_itemAt (items : List Value) (position : Int) :
    IgnoresLog (itemAt items position) := by
  unfold itemAt
  dsimp only
  split
  · exact .pure _
  · exact ignoresLog_fail _

theorem ignoresLog_gaugeValue (self : ObjectRef) : IgnoresLog (gaugeValue self) := by
  apply (self.ignoresLog_field _).bind
  intro readings
  apply (self.ignoresLog_field _).bind
  intro reads
  -- The readings may be no tuple, but what is done with the items is the same.
  split
  all_goals
    apply (IgnoresLog.pure _).bind
    intro items
    apply (ignoresLog_itemAt items _).bind
    intro reading
    apply (self.ignoresLog_setField _ _).bind
    intro _
    split
    · exact .raise _
    · exact .pure _

theorem ignoresLog_total (values : List Value) : IgnoresLog (total values) := by
  unfold total
  generalize Value.integer 0 = sum
  induction values generalizing sum with
  | nil => exact .pure sum
  | cons value values ih =>
      rw [List.foldlM_cons]
      exact (Value.ignoresLog_add "+" sum value).bind ih

theorem ignoresLog_stock (self : ObjectRef) (name quantity : Value) :
    IgnoresLog (stock self name quantity) := by
  apply (self.ignoresLog_field _).bind
  intro items
  split
  · rename_i ref
    apply (Value.ignoresLog_contains _ name).bind
    intro present
    refine (IgnoresLog.read fun records world => ?_).bind fun held => ?_
    · simp only [World.view_withRecords, World.tableAt_withRecords]
    · apply (Value.ignoresLog_add "+" held quantity).bind
      intro sum
      refine (IgnoresLog.modify fun records world => ?_).bind fun _ => .pure _
      simp only [World.view_withRecords, World.tableAt_withRecords]
      rfl
  · exact .pure _

theorem ignoresLog_newObject (className : String) (fields : List (String × Value))
    (texts shown : List String) : IgnoresLog (newObject className fields texts shown) :=
  (IgnoresLog.update fun _ _ => rfl).bind fun ref => .pure (Value.object ref)

theorem ignoresLog_property {className name : String} {compute : ObjectRef → Action Value}
    (known : property? className name = some compute) (ref : ObjectRef) :
    IgnoresLog (compute ref) := by
  unfold property? at known
  split at known
  · cases known
    exact ref.ignoresLog_field _
  · cases known
    exact ignoresLog_gaugeValue ref
  · cases known
    apply (ref.ignoresLog_field _).bind
    intro items
    split
    · exact (IgnoresLog.read fun _ _ => rfl).bind fun entries => ignoresLog_total _
    · exact .pure _
  · cases known
    exact (ref.ignoresLog_field _).bind fun error => error.ignoresLog_raise
  · cases known

theorem ignoresLog_method {className name : String} {found : ObjectMethod}
    (known : method? className name = some found) (ref : ObjectRef) (arguments : List Value) :
    IgnoresLog (found.run ref arguments) := by
  unfold method? at known
  dsimp only at known
  split at known
  · cases known
    apply (ref.ignoresLog_field _).bind
    intro count
    apply (Value.ignoresLog_addInPlace count _).bind
    intro sum
    exact (ref.ignoresLog_setField _ _).bind fun _ => .pure _
  · cases known
    exact (ref.ignoresLog_setField _ _).bind fun _ => .pure _
  · cases known
    exact ignoresLog_raiseNew _ _
  · cases known
    exact (ignoresLog_gaugeValue ref).bind fun value => Value.ignoresLog_add "+" value _
  · cases known
    apply (ref.ignoresLog_field _).bind
    intro calls
    have scaled : IgnoresLog (do
        let foo ← ref.field "foo"
        Value.mul foo (arguments.headD .null)) :=
      (ref.ignoresLog_field _).bind fun foo => Value.ignoresLog_mul foo _
    split
    · exact (IgnoresLog.modify fun _ _ => rfl).bind fun _ => scaled
    · exact (IgnoresLog.pure ()).bind fun _ => scaled
  · cases known
    apply (ref.ignoresLog_field _).bind
    intro x
    apply (Value.ignoresLog_absolute x).bind
    intro first
    apply (ref.ignoresLog_field _).bind
    intro y
    apply (Value.ignoresLog_absolute y).bind
    intro second
    exact Value.ignoresLog_add "+" first second
  · cases known
    dsimp only
    split
    · exact ignoresLog_stock ref _ _
    · exact ignoresLog_stock ref _ _
    · exact .pure _
  · cases known
    exact (ref.ignoresLog_field _).bind fun error => error.ignoresLog_raise
  · cases known

theorem ignoresLog_apply (predicate : String) (value : Value) :
    IgnoresLog (apply predicate value) := by
  unfold apply
  split
  · exact .pure _
  · exact (Value.ignoresLog_compare _ value _).bind fun holds => .pure _
  · exact .pure value
  · exact (Value.ignoresLog_isEqual value _).bind fun holds => .pure _
  · exact ignoresLog_raiseNew _ _

theorem ignoresLog_build (className : String) (arguments : List Value) :
    IgnoresLog (build className arguments) := by
  unfold build
  dsimp only
  split
  · exact ignoresLog_newObject _ _ _ _
  · exact ignoresLog_newObject _ _ _ _
  · exact (ignoresLog_newList []).bind fun calls => ignoresLog_newObject _ _ _ _
  · exact ignoresLog_newObject _ _ _ _
  · exact (IgnoresLog.update fun _ _ => rfl).bind fun items => ignoresLog_newObject _ _ _ _
  · exact ignoresLog_newObject _ _ _ _
  · split
    · exact ignoresLog_newObject _ _ _ _
    · apply (ignoresLog_typeName _).bind
      intro kind
      exact (IgnoresLog.update fun _ _ => rfl).bind fun ref => .pure _

theorem ignoresLog_construct (className : String) (arguments : List Value) :
    IgnoresLog (construct className arguments) := by
  unfold construct
  split
  · rename_i signature _
    exact (signature.ignoresLog_check arguments).bind fun _ => ignoresLog_build className arguments
  · exact (ignoresLog_fail _).bind fun _ => ignoresLog_build className arguments

/-- The sample objects neither look at the log nor write to it. -/
instance isBlind : ObjectModel.IsBlind where
  property := ignoresLog_property
  method := ignoresLog_method
  length := by
    intro className claimed known ref
    have sized : Samples.length? className = some claimed := known
    rw [length?] at sized
    split at sized
    · cases sized
      exact ref.ignoresLog_field _
    · cases sized
  apply := ignoresLog_apply
  construct := ignoresLog_construct

end Samples

end DeferredSpec
