/-
# Conversion

Calling a type makes a value of it: integers from numbers and texts, texts from
everything, truth values by the rule of truth, collections from what can be
iterated, byte strings from numbers of bytes or from texts by a codec. Classes of
objects make their objects.
-/

import DeferredSpec.Number.IntegerText
import DeferredSpec.Operation.Arithmetic
import DeferredSpec.Text.Codec
import DeferredSpec.World.HostError

namespace DeferredSpec

/-- A table with an entry added: an equal key keeps its place and takes the value. -/
def World.insertEntry (world : World) (entries : List (Value × Value)) (key value : Value) :
    List (Value × Value) :=
  let isKey (entry : Value × Value) : Bool :=
    (world.view key).equals true (world.view entry.1)
  if entries.any isKey then
    entries.map fun entry => if isKey entry then (entry.1, value) else entry
  else entries ++ [(key, value)]

namespace Value

/-- Fail with a fault of a conversion. -/
def refuse {α : Type} (fault : ConversionFault) : Action α := Action.fail (.conversion fault)

/-- Accept a value as a key or as the member of a set. -/
def checkKey (value : Value) : Action Unit := do
  let snapshot ← Action.view value
  match snapshot.unhashable? with
  | some kind => Action.fail (.unhashable kind)
  | none => pure ()

/-- A table with an entry added, if the key can be one. -/
def insertKey (entries : List (Value × Value)) (key value : Value) :
    Action (List (Value × Value)) := do
  checkKey key
  Effect.read fun world => world.insertEntry entries key value

/-- The text that bytes spell as far as numbers are concerned, which is ASCII. -/
def numberText? (bytes : List UInt8) : Option String :=
  if bytes.all fun byte => byte.toNat < 128 then
    some (String.ofList (bytes.map fun byte => Char.ofNat byte.toNat))
  else none

/-- The longest displayed text that the fault of an integer text keeps. -/
def faultWidth : Nat := 200

/-- A displayed text cut to the width of faults. -/
def cut (shown : String) : String := String.ofList (shown.toList.take faultWidth)

/-- The integer that a text spells in a base. -/
def readInteger (base : Nat) (text : Option String) (shown : String) : Action Value :=
  match text.map (NumberReader.integer base) with
  | some (.ok number) => pure (.integer number)
  | some (.error (.tooManyDigits count)) => refuse (.integerDigits count)
  | _ => refuse (.integerText base (cut shown))

/-- The integer that a text or byte string spells in a base. -/
def integerFromText? (base : Nat) : Value → Option (Action Value)
  | .text value =>
      some (readInteger base (some (CharacterClass.plainDigits value)) (Quoted.displayed value))
  | .bytes value => some (readInteger base (numberText? value) (Quoted.displayedBytes value))
  | _ => none

/-- The integer that a value converts to, a fraction being cut off. -/
def toInteger (value : Value) : Action Value :=
  match value with
  | .boolean value => pure (.integer (if value then 1 else 0))
  | .integer value => pure (.integer value)
  | .float value =>
      match value.truncate? with
      | some number => pure (.integer number)
      | none =>
          match value with
          | .nan _ => refuse .notANumberAsInteger
          | _ => refuse .infinityAsInteger
  | value =>
      (integerFromText? 10 value).getD do
        let kind ← Action.typeName value
        refuse (.integerSource kind)

/-- The integer that a text spells in a base that is given as a value. -/
def toIntegerIn (value base : Value) : Action Value :=
  match base.asInteger? with
  | none => do
      let kind ← Action.typeName base
      Action.fail (.notAnInteger kind)
  | some base =>
      if base = 0 || (2 ≤ base && base ≤ 36) then
        (integerFromText? base.toNat value).getD (refuse .baseWithoutText)
      else refuse .baseOutOfRange

/-- The double that a value converts to. -/
def toFloat (value : Value) : Action Value :=
  match value with
  | .float value => pure (.float value)
  | .text value => do
      let payload ← Effect.update World.newIdentity
      match NumberReader.double? payload (CharacterClass.plainDigits value) with
      | some double => pure (.float double)
      | none => refuse (.floatText (Quoted.displayed value))
  | .bytes value => do
      let payload ← Effect.update World.newIdentity
      match (numberText? value).bind (NumberReader.double? payload) with
      | some double => pure (.float double)
      | none => refuse (.floatText (Quoted.displayedBytes value))
  | value =>
      match asInteger? value with
      | some number => do
          let double ← toDouble number
          pure (.float double)
      | none => do
          let kind ← Action.typeName value
          refuse (.floatSource kind)

/-- Accept texts as the options of a conversion between texts and bytes. -/
def checkOptions (callee : String) (options : List Value) : Action (List String) :=
  Effect.collect
    (fun entry =>
      match entry with
      | (_, .text word) => pure word
      | (option, value) => do
          let type ← Effect.read fun world => HostError.partType world value
          refuse (.optionNotText callee option type))
    (["encoding", "errors"].zip options)

/-- The codec with a name. -/
def codecNamed (name : String) : Action Codec :=
  match Codec.ofName? name with
  | some codec => pure codec
  | none => refuse (.unknownCodec name)

/-- How trouble is to be met: it is an error, unless another word is given, which must be
known by then. -/
def meetTrouble (className : String) (codec : Codec) (object : Value) (trouble : Codec.Trouble)
    (handler : String) : Action Value :=
  if handler == "strict" then do
    let error ← HostError.make className
      [.text codec.name, object, .integer trouble.start, .integer trouble.stop,
        .text trouble.reason] []
    Effect.raise error
  else refuse (.unknownHandler handler)

/-- The text of a byte string by a codec. -/
def decodeText (source : Value) (options : List Value) : Action Value := do
  let names ← checkOptions "str" options
  match source with
  | .text _ => refuse .textFromText
  | .bytes [] => pure (.text "")
  | .bytes read => do
      let codec ← codecNamed (names.headD "")
      match codec.decode read with
      | .ok decoded => pure (.text decoded)
      | .error trouble =>
          meetTrouble "UnicodeDecodeError" codec source trouble ((names[1]?).getD "strict")
  | source => do
      let kind ← Action.typeName source
      refuse (.textFrom kind)

/-- The byte string of a text by a codec. -/
def encodeBytes (source : Value) (options : List Value) : Action Value := do
  let names ← checkOptions "bytes" options
  match source with
  | .text written => do
      let codec ← codecNamed (names.headD "")
      match codec.encode written with
      | .ok encoded => pure (.bytes encoded)
      | .error trouble =>
          meetTrouble "UnicodeEncodeError" codec source trouble ((names[1]?).getD "strict")
  | _ => refuse .codecWithoutText

/-- The byte that a value is. -/
def toByte (value : Value) : Action UInt8 :=
  match value.asInteger? with
  | some number =>
      if 0 ≤ number && number < 256 then pure (UInt8.ofNat number.toNat)
      else refuse .byteOutOfRange
  | none => do
      let kind ← Action.typeName value
      Action.fail (.notAnInteger kind)

/-- The byte string that a value converts to: as many zeros as a number says, or the
bytes that a collection holds. -/
def toBytes (value : Value) : Action Value :=
  match value with
  | .bytes same => pure (.bytes same)
  | .text _ => refuse .textWithoutCodec
  | value =>
      match value.asInteger? with
      | some count => do
          if count < 0 && -greatestLength - 1 ≤ count then refuse .negativeCount
          else do
            checkRepetition count 1 .outOfMemory
            pure (.bytes (List.replicate count.toNat 0))
      | none => do
          match ← Effect.read value.members? with
          | some members => do
              let collected ← Effect.collect toByte members
              pure (.bytes collected)
          | none => do
              let kind ← Action.typeName value
              refuse (.bytesFrom kind)

/-- The pair that an entry of a table is given by, at its place among the others. -/
def toEntry (index : Nat) (value : Value) : Action (Value × Value) := do
  match ← Effect.read value.members? with
  | some [key, value] => pure (key, value)
  | some members => refuse (.entryLength index members.length)
  | none => refuse (.entryNotSequence index)

/-- A table with further entries, given as pairs; the first of them has the given place. -/
def insertPairs (entries : List (Value × Value)) (next : Nat) :
    List Value → Action (List (Value × Value))
  | [] => pure entries
  | pair :: pairs => do
      let entry ← toEntry next pair
      let grown ← insertKey entries entry.1 entry.2
      insertPairs grown (next + 1) pairs

/-- The table that a value converts to: a copy of a table, or one of the pairs that a
collection holds. -/
def toTable (value : Value) : Action Value := do
  let entries ←
    match value with
    | .table ref => Effect.read fun world => world.tableAt ref
    | value => do
        let pairs ← value.iterate
        insertPairs [] 0 pairs
  let ref ← Effect.update (World.newTable entries)
  pure (.table ref)

/-- An object without a class of its own. -/
def plainObject : Action Value := do
  let ref ← Effect.update
    (World.newObject ⟨"object", [], ["<object object>"], [], none⟩)
  pure (.object ref)

variable [ObjectModel]

/-- The truth value that a value converts to. -/
def toBoolean (value : Value) : Action Value := do
  let holds ← value.truth
  pure (.boolean holds)

/-- The text that a value converts to. -/
def toText (value : Value) : Action Value := do
  let text ← Action.plain value
  pure (.text text)

/-- The list that a value converts to. -/
def toList (value : Value) : Action Value := do
  let items ← value.iterate
  Action.newList items

/-- The tuple that a value converts to. -/
def toTuple (value : Value) : Action Value := do
  let items ← value.iterate
  pure (.tuple items)

/-- How assertion contexts are made by calling their type. -/
def contextSignature : Signature where
  function := "Assertion.__init__"
  required := ["subject"]
  optional := 1

/-- An assertion context over a value, of the polarity that another value stands for. -/
def toContext (arguments : List Value) : Action Value := do
  contextSignature.check arguments
  let negated ← ((arguments[1]?).getD (Value.boolean false)).truth
  let identity ← Effect.update World.newIdentity
  pure (.assertion identity (arguments.headD .null) negated)

/-- Call a type with arguments. -/
def construct (tag : TypeTag) (arguments : List Value) : Action Value :=
  let single (absent : Action Value) (convert : Value → Action Value) : Action Value :=
    match arguments with
    | [] => absent
    | [value] => convert value
    | arguments => Action.fail (.atMostExpected tag.name 1 arguments.length)
  match tag with
  | .defined _ name => ObjectModel.construct name arguments
  | .assertion => toContext arguments
  | .boolean => single (pure (.boolean false)) toBoolean
  | .float => single (pure (.float (Binary64.zero false))) toFloat
  | .list => single (Action.newList []) toList
  | .tuple => single (pure (.tuple [])) toTuple
  | .table => single (toTable (.tuple [])) toTable
  | .integer =>
      match arguments with
      | [] => pure (.integer 0)
      | [value] => toInteger value
      | [value, base] => toIntegerIn value base
      | arguments => Action.fail (.atMostTaken "int" 2 arguments.length)
  | .text =>
      match arguments with
      | [] => pure (.text "")
      | [value] => toText value
      | value :: options =>
          if 2 < options.length then Action.fail (.atMostTaken "str" 3 arguments.length)
          else decodeText value options
  | .bytes =>
      match arguments with
      | [] => pure (.bytes [])
      | [value] => toBytes value
      | value :: options =>
          if 2 < options.length then Action.fail (.atMostTaken "bytes" 3 arguments.length)
          else encodeBytes value options
  | .object => if arguments.isEmpty then plainObject else Action.fail (.nothingTaken "object()")
  | .null => if arguments.isEmpty then pure .null else Action.fail (.nothingTaken "NoneType")

end Value

end DeferredSpec
