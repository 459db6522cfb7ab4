/-
# Operations ignore the log

No operation on values looks at the log, and none writes to it. Objects are as free as any
code, so what is built on them ignores the log if the model of objects does.
-/

import DeferredSpec.Operation.Conversion
import DeferredSpec.Proofs.Log

namespace DeferredSpec

open DeferredSpec.Action

/-- No object of the model looks at the log. -/
class ObjectModel.IsBlind [ObjectModel] : Prop where
  property : ∀ {className name compute}, ObjectModel.property? className name = some compute →
    ∀ ref, IgnoresLog (compute ref)
  method : ∀ {className name found}, ObjectModel.method? className name = some found →
    ∀ ref arguments, IgnoresLog (found.run ref arguments)
  length : ∀ {className claimed}, ObjectModel.length? className = some claimed →
    ∀ ref, IgnoresLog (claimed ref)
  apply : ∀ predicate value, IgnoresLog (ObjectModel.apply predicate value)
  construct : ∀ className arguments, IgnoresLog (ObjectModel.construct className arguments)

theorem Signature.ignoresLog_check (signature : Signature) (arguments : List Value) :
    IgnoresLog (signature.check arguments) := by
  rw [Signature.check]
  cases signature.fault? arguments.length with
  | none => exact .pure ()
  | some fault => exact ignoresLog_fail fault

theorem Action.ignoresLog_newList (items : List Value) : IgnoresLog (newList items) :=
  (IgnoresLog.update fun _ _ => rfl).bind fun ref => .pure (Value.list ref)

theorem Action.ignoresLog_newIdentity : IgnoresLog (Effect.update World.newIdentity) :=
  IgnoresLog.update fun _ _ => rfl

theorem HostError.ignoresLog_make (className : String) (arguments details : List Value) :
    IgnoresLog (make className arguments details) :=
  IgnoresLog.update fun _ _ => rfl

theorem CaseForm.ignoresLog_apply (form : CaseForm) (value : Value) :
    IgnoresLog (form.apply value) := by
  unfold CaseForm.apply
  split
  case h_6 => exact (ignoresLog_typeName value).bind fun kind => ignoresLog_fail _
  all_goals first | exact .pure _ | exact ignoresLog_fail _

namespace SpecError

theorem ignoresLog_make (kind : ErrorKind) (message : Value) : IgnoresLog (make kind message) :=
  IgnoresLog.update fun _ _ => rfl

theorem ignoresLog_expectationFailed (message expected actual operator : Value) :
    IgnoresLog (expectationFailed message expected actual operator) :=
  ignoresLog_make _ message

theorem ignoresLog_reformatted (error : ErrorRef) : IgnoresLog (reformatted error) := by
  apply (IgnoresLog.read fun _ _ => rfl).bind
  intro cell
  split
  · refine (IgnoresLog.read fun records world => ?_).bind fun wording => ?_
    · rw [World.view_withRecords, World.view_withRecords]
    · exact (ignoresLog_ofWording wording).bind fun message => IgnoresLog.update fun _ _ => rfl
  · exact .pure error

end SpecError

namespace Value

/-! ### Comparison and membership -/

theorem members?_withRecords (records : Array LogRecord) (world : World) (value : Value) :
    value.members? (world.withRecords records) = value.members? world := by
  cases value <;> rfl

theorem ignoresLog_iterate (value : Value) : IgnoresLog value.iterate := by
  refine (IgnoresLog.read fun records world => members?_withRecords records world value).bind
    fun members => ?_
  cases members with
  | some members => exact .pure members
  | none => exact (ignoresLog_typeName value).bind fun kind => ignoresLog_fail _

theorem ignoresLog_isEqual (first second : Value) : IgnoresLog (first.isEqual second) := by
  refine (ignoresLog_view first).bind fun left => (ignoresLog_view second).bind fun right => ?_
  split
  · exact ignoresLog_fail _
  · exact .pure _

theorem ignoresLog_compare (test : OrderTest) (first second : Value) :
    IgnoresLog (first.compare test second) := by
  refine (ignoresLog_view first).bind fun left => (ignoresLog_view second).bind fun right => ?_
  split
  · exact ignoresLog_fail _
  · exact .pure _
  · exact ignoresLog_fail _

theorem ignoresLog_contains (container member : Value) :
    IgnoresLog (container.contains member) := by
  refine (ignoresLog_view container).bind fun whole => (ignoresLog_view member).bind fun part => ?_
  split
  · exact .pure _
  · exact ignoresLog_fail _

theorem ignoresLog_isInstance (value classes : Value) : IgnoresLog (value.isInstance classes) := by
  apply (ignoresLog_view value).bind
  intro snapshot
  split
  · exact .pure _
  · exact ignoresLog_fail _

/-! ### Numbers -/

theorem ignoresLog_refuse {α : Type} (fault : ConversionFault) :
    IgnoresLog (refuse fault : Action α) :=
  ignoresLog_fail (.conversion fault)

theorem ignoresLog_refuseType {α : Type} (value : Value) (fault : String → ConversionFault) :
    IgnoresLog (do let kind ← Action.typeName value; refuse (fault kind) : Action α) :=
  (ignoresLog_typeName value).bind fun kind => ignoresLog_refuse (fault kind)

theorem ignoresLog_toDouble (value : Int) : IgnoresLog (toDouble value) := by
  rw [toDouble]
  split
  · exact .pure _
  · exact ignoresLog_fail _

theorem ignoresLog_checkRepetition (count : Int) (length : Nat) (beyond : Fault) :
    IgnoresLog (checkRepetition count length beyond) := by
  exact .ite (ignoresLog_fail _) (.ite (ignoresLog_fail _) (.ite (ignoresLog_fail _) (.pure ())))

theorem ignoresLog_readInteger (base : Nat) (text : Option String) (shown : String) :
    IgnoresLog (readInteger base text shown) := by
  rw [readInteger]
  split
  · exact .pure _
  · exact ignoresLog_refuse _
  · exact ignoresLog_refuse _

theorem ignoresLog_integerFromText? (base : Nat) (value : Value) {otherwise : Action Value}
    (ignores : IgnoresLog otherwise) :
    IgnoresLog ((integerFromText? base value).getD otherwise) := by
  unfold integerFromText?
  split
  · rw [Option.getD_some]
    exact ignoresLog_readInteger base _ _
  · rw [Option.getD_some]
    exact ignoresLog_readInteger base _ _
  · exact ignores

theorem ignoresLog_toInteger (value : Value) : IgnoresLog value.toInteger := by
  unfold toInteger
  split
  · exact .pure _
  · exact .pure _
  · split
    · exact .pure _
    · split <;> exact ignoresLog_refuse _
  · exact ignoresLog_integerFromText? 10 value (ignoresLog_refuseType value _)

theorem ignoresLog_toIntegerIn (value base : Value) : IgnoresLog (value.toIntegerIn base) := by
  unfold toIntegerIn
  split
  · exact (ignoresLog_typeName base).bind fun kind => ignoresLog_fail _
  · split
    · exact ignoresLog_integerFromText? _ value (ignoresLog_refuse _)
    · exact ignoresLog_refuse _

theorem ignoresLog_toFloat (value : Value) : IgnoresLog value.toFloat := by
  unfold toFloat
  split
  · exact .pure _
  · apply ignoresLog_newIdentity.bind
    intro payload
    split
    · exact .pure _
    · exact ignoresLog_refuse _
  · apply ignoresLog_newIdentity.bind
    intro payload
    split
    · exact .pure _
    · exact ignoresLog_refuse _
  · split
    · exact (ignoresLog_toDouble _).bind fun double => .pure (Value.float double)
    · exact ignoresLog_refuseType value _

/-! ### Texts and byte strings -/

theorem ignoresLog_checkOptions (callee : String) (options : List Value) :
    IgnoresLog (checkOptions callee options) := by
  refine IgnoresLog.collect (fun entry => ?_) _
  split
  · exact .pure _
  · refine (IgnoresLog.read fun records world => ?_).bind fun type => ignoresLog_refuse _
    unfold HostError.partType
    split
    · rfl
    · exact World.typeName_withRecords records world _

theorem ignoresLog_codecNamed (name : String) : IgnoresLog (codecNamed name) := by
  rw [codecNamed]
  cases Codec.ofName? name with
  | some codec => exact .pure codec
  | none => exact ignoresLog_refuse _

theorem ignoresLog_meetTrouble (className : String) (codec : Codec) (object : Value)
    (trouble : Codec.Trouble) (handler : String) :
    IgnoresLog (meetTrouble className codec object trouble handler) :=
  .ite ((HostError.ignoresLog_make className _ _).bind fun error => .raise error)
    (ignoresLog_refuse _)

theorem ignoresLog_decodeText (source : Value) (options : List Value) :
    IgnoresLog (source.decodeText options) := by
  apply (ignoresLog_checkOptions "str" options).bind
  intro names
  split
  · exact ignoresLog_refuse _
  · exact .pure _
  · apply (ignoresLog_codecNamed _).bind
    intro codec
    split
    · exact .pure _
    · exact ignoresLog_meetTrouble _ codec _ _ _
  · exact ignoresLog_refuseType source _

theorem ignoresLog_encodeBytes (source : Value) (options : List Value) :
    IgnoresLog (source.encodeBytes options) := by
  apply (ignoresLog_checkOptions "bytes" options).bind
  intro names
  split
  · apply (ignoresLog_codecNamed _).bind
    intro codec
    split
    · exact .pure _
    · exact ignoresLog_meetTrouble _ codec _ _ _
  · exact ignoresLog_refuse _

theorem ignoresLog_toByte (value : Value) : IgnoresLog value.toByte := by
  unfold toByte
  split
  · exact .ite (.pure _) (ignoresLog_refuse _)
  · exact (ignoresLog_typeName value).bind fun kind => ignoresLog_fail _

theorem ignoresLog_toBytes (value : Value) : IgnoresLog value.toBytes := by
  unfold toBytes
  split
  · exact .pure _
  · exact ignoresLog_refuse _
  · split
    · exact .ite (ignoresLog_refuse _)
        ((ignoresLog_checkRepetition _ 1 .outOfMemory).bind fun _ => .pure _)
    · refine (IgnoresLog.read fun records world => members?_withRecords records world value).bind
        fun members => ?_
      cases members with
      | some members =>
          exact (IgnoresLog.collect ignoresLog_toByte members).bind fun collected => .pure _
      | none => exact ignoresLog_refuseType value _

/-! ### Collections -/

theorem ignoresLog_checkKey (value : Value) : IgnoresLog value.checkKey := by
  apply (ignoresLog_view value).bind
  intro snapshot
  split
  · exact ignoresLog_fail _
  · exact .pure ()

theorem ignoresLog_insertKey (entries : List (Value × Value)) (key value : Value) :
    IgnoresLog (insertKey entries key value) := by
  refine (ignoresLog_checkKey key).bind fun _ => IgnoresLog.read fun records world => ?_
  simp only [World.insertEntry, World.view_withRecords]

theorem ignoresLog_toEntry (index : Nat) (value : Value) : IgnoresLog (toEntry index value) := by
  refine (IgnoresLog.read fun records world => members?_withRecords records world value).bind
    fun members => ?_
  split
  · exact .pure _
  · exact ignoresLog_refuse _
  · exact ignoresLog_refuse _

theorem ignoresLog_insertPairs (entries : List (Value × Value)) (next : Nat)
    (pairs : List Value) : IgnoresLog (insertPairs entries next pairs) := by
  induction pairs generalizing entries next with
  | nil => exact .pure entries
  | cons pair pairs ih =>
      apply (ignoresLog_toEntry next pair).bind
      intro entry
      exact (ignoresLog_insertKey entries entry.1 entry.2).bind fun grown => ih grown (next + 1)

theorem ignoresLog_toTable (value : Value) : IgnoresLog value.toTable := by
  unfold toTable
  split
  · apply (IgnoresLog.read fun _ _ => rfl).bind
    intro entries
    exact (IgnoresLog.update fun _ _ => rfl).bind fun ref => .pure _
  · apply (ignoresLog_iterate value).bind
    intro pairs
    apply (ignoresLog_insertPairs [] 0 pairs).bind
    intro entries
    exact (IgnoresLog.update fun _ _ => rfl).bind fun ref => .pure _

theorem ignoresLog_toList (value : Value) : IgnoresLog value.toList :=
  (ignoresLog_iterate value).bind fun items => ignoresLog_newList items

theorem ignoresLog_toTuple (value : Value) : IgnoresLog value.toTuple :=
  (ignoresLog_iterate value).bind fun items => .pure (Value.tuple items)

theorem ignoresLog_toText (value : Value) : IgnoresLog value.toText :=
  (ignoresLog_plain value).bind fun text => .pure (Value.text text)

theorem ignoresLog_plainObject : IgnoresLog plainObject :=
  (IgnoresLog.update fun _ _ => rfl).bind fun ref => .pure (Value.object ref)

/-- A conversion of one argument, or of none. -/
theorem ignoresLog_single (tag : TypeTag) (arguments : List Value) {absent : Action Value}
    {convert : Value → Action Value} (ignores : IgnoresLog absent)
    (also : ∀ value, IgnoresLog (convert value)) :
    IgnoresLog (match arguments with
      | [] => absent
      | [value] => convert value
      | arguments => Action.fail (.atMostExpected tag.name 1 arguments.length)) := by
  split
  · exact ignores
  · exact also _
  · exact ignoresLog_fail _

/-! ### What objects take part in -/

theorem ignoresLog_claimedLength (claimed : Value) : IgnoresLog (claimedLength claimed) := by
  unfold claimedLength
  split
  · exact .pure _
  · exact .ite (ignoresLog_fail _) (.ite (ignoresLog_fail _) (.pure _))
  · exact (ignoresLog_typeName claimed).bind fun kind => ignoresLog_fail _

section Objects

variable [ObjectModel] [ObjectModel.IsBlind]

theorem ignoresLog_length (value : Value) : IgnoresLog value.length := by
  unfold length
  split
  case h_8 ref =>
    apply (IgnoresLog.read fun _ _ => rfl).bind
    intro className
    split
    · rename_i claimed known
      apply (ObjectModel.IsBlind.length known ref).bind
      intro claimed
      exact ignoresLog_claimedLength claimed
    · exact ignoresLog_fail _
  case h_9 => exact (ignoresLog_typeName _).bind fun kind => ignoresLog_fail _
  all_goals first | exact .pure _ | exact IgnoresLog.read fun _ _ => rfl

omit [ObjectModel.IsBlind] in
theorem ignoresLog_isSized (value : Value) :
    IgnoresLog (Effect.read fun world => value.isSized world) := by
  refine IgnoresLog.read fun records world => ?_
  cases value <;> rfl

theorem ignoresLog_truth (value : Value) : IgnoresLog value.truth := by
  unfold truth
  split
  case h_5 =>
    refine (ignoresLog_isSized _).bind fun sized => .ite ?_ (.pure true)
    exact (ignoresLog_length _).bind fun length => .pure _
  all_goals exact .pure _

theorem ignoresLog_toBoolean (value : Value) : IgnoresLog value.toBoolean :=
  (ignoresLog_truth value).bind fun holds => .pure (Value.boolean holds)

theorem ignoresLog_toContext (arguments : List Value) : IgnoresLog (toContext arguments) := by
  apply (contextSignature.ignoresLog_check arguments).bind
  intro _
  apply (ignoresLog_truth _).bind
  intro negated
  exact ignoresLog_newIdentity.bind fun identity => .pure _

theorem ignoresLog_construct (tag : TypeTag) (arguments : List Value) :
    IgnoresLog (construct tag arguments) := by
  unfold construct
  cases tag with
  | defined place name => exact ObjectModel.IsBlind.construct name arguments
  | assertion => exact ignoresLog_toContext arguments
  | boolean => exact ignoresLog_single _ arguments (.pure _) ignoresLog_toBoolean
  | float => exact ignoresLog_single _ arguments (.pure _) ignoresLog_toFloat
  | list => exact ignoresLog_single _ arguments (ignoresLog_newList []) ignoresLog_toList
  | tuple => exact ignoresLog_single _ arguments (.pure _) ignoresLog_toTuple
  | table => exact ignoresLog_single _ arguments (ignoresLog_toTable _) ignoresLog_toTable
  | object => exact .ite ignoresLog_plainObject (ignoresLog_fail _)
  | null => exact .ite (.pure _) (ignoresLog_fail _)
  | integer =>
      simp only
      split
      · exact .pure _
      · exact ignoresLog_toInteger _
      · exact ignoresLog_toIntegerIn _ _
      · exact ignoresLog_fail _
  | text =>
      simp only
      split
      · exact .pure _
      · exact ignoresLog_toText _
      · exact .ite (ignoresLog_fail _) (ignoresLog_decodeText _ _)
  | bytes =>
      simp only
      split
      · exact .pure _
      · exact ignoresLog_toBytes _
      · exact .ite (ignoresLog_fail _) (ignoresLog_encodeBytes _ _)

end Objects

end Value

end DeferredSpec
