/-
# The texts of values

A value has a displayed text, unless an object in it displays something that is no
text, or an integer in it has too many digits. A value also has a JSON text, unless
a cycle, a table key that JSON cannot express, or a part without displayed text
occurs in it; parts that JSON does not know are the JSON string of their displayed
text. Rendering takes the JSON text where there is one and the displayed text
otherwise.
-/

import DeferredSpec.Text.Quoted
import DeferredSpec.Value.Snapshot

namespace DeferredSpec

/-- Why a value has no text: what an object displays, or says of itself, is of a type
that is no text, or an integer has too many digits. -/
inductive Unwritable
  | displayOf (type : String)
  | plainOf (type : String)
  | tooManyDigits
  deriving DecidableEq, Repr

/-- A text, or why there is none. -/
abbrev Wording : Type := Except Unwritable String

/-- The two texts of a value. -/
structure Written where
  shown : Wording
  json : Option String

namespace Written

/-- The JSON text, or the displayed one where there is none. -/
def rendered (written : Written) : Wording :=
  match written.json with
  | some text => .ok text
  | none => written.shown

/-- A value that JSON does not know: its JSON text is that of its displayed text. -/
def foreign (shown : Wording) : Written := ⟨shown, shown.toOption.map Quoted.json⟩

/-- The displayed texts of several values with commas between them. -/
def shownAll (parts : List Written) : Wording := do
  let texts ← parts.mapM shown
  pure (", ".intercalate texts)

/-- A displayed text between two others. -/
def between (opening closing : String) (shown : Wording) : Wording :=
  shown.map fun text => opening ++ text ++ closing

/-- Texts in brackets with a separator; the JSON text needs that of every part. -/
def enclosed (opening closing : String) (parts : List Written) : Written where
  shown := between opening closing (shownAll parts)
  json := (parts.mapM json).map fun texts => "[" ++ ",".intercalate texts ++ "]"

end Written

namespace Snapshot

/-- The displayed text of a truth value. -/
def truthText (value : Bool) : String := if value then "True" else "False"

/-- The JSON text of a truth value. -/
def jsonTruth (value : Bool) : String := if value then "true" else "false"

/-- The greatest number of digits that an integer is written with. -/
def digitLimit : Nat := 4300

/-- The text of an integer. One below 2 to the 14284th power keeps within the limit. -/
def integerText (value : Int) : Wording :=
  if value.natAbs.log2 < 14284 || value.natAbs < Nat.pow 10 digitLimit then .ok (toString value)
  else .error .tooManyDigits

/-- The JSON text of a table key: texts, numbers, truth values and null can be keys. -/
def jsonKey? : Snapshot → Option String
  | .null => some (Quoted.json "null")
  | .boolean value => some (Quoted.json (jsonTruth value))
  | .integer value => (integerText value).toOption.map Quoted.json
  | .float value => some (Quoted.json (value.text Decimal.rendered))
  | .text value => some (Quoted.json value)
  | _ => none

/-- Texts with the shown members between them. -/
def weave : List String → List String → String
  | [], members => String.join members
  | [last], members => last ++ String.join members
  | piece :: pieces, [] => piece ++ weave pieces []
  | piece :: pieces, member :: members => piece ++ member ++ weave pieces members

/-- A tuple of one keeps a comma behind it. -/
def tupleText (parts : List Written) : Written :=
  match parts with
  | [part] => Written.enclosed "(" ",)" [part]
  | parts => Written.enclosed "(" ")" parts

/-- The displayed text of a set; the empty one has no literal form. -/
def setText (parts : List Written) : Wording :=
  if parts.isEmpty then .ok "set()" else Written.between "\x7b" "\x7d" (Written.shownAll parts)

/-- The displayed text of an object: its texts with the shown members between them. -/
def objectText (misfit : Option String) (texts : List String) (parts : List Written) : Wording :=
  match misfit with
  | some kind => .error (.displayOf kind)
  | none => (parts.mapM Written.shown).map (weave texts)

/-- The texts of a table entry. -/
def entryText (jsonKey : Option String) (key value : Written) : Written where
  shown := do
    let key ← key.shown
    let value ← value.shown
    pure (key ++ ": " ++ value)
  json := do
    let key ← jsonKey
    let value ← value.json
    pure (key ++ ":" ++ value)

/-- The texts of a table from the texts of its entries. -/
def tableText (entries : List Written) : Written where
  shown := Written.between "\x7b" "\x7d" (Written.shownAll entries)
  json := (entries.mapM Written.json).map fun texts => "\x7b" ++ ",".intercalate texts ++ "\x7d"

/-- The displayed text of an assertion context over a rendered subject. -/
def assertionText (negated : Bool) (subject : String) : String :=
  "Assertion(" ++ (if negated then "not " else "") ++ subject ++ ")"

/-- The displayed text of a method of a receiver. -/
def methodText (receiver : Snapshot) (shown : Wording) (name : String) : Wording :=
  if receiver.hasOwnMethods then
    shown.map fun shown =>
      "<bound method " ++ receiver.typeName ++ "." ++ name ++ " of " ++ shown ++ ">"
  else .ok ("<built-in method " ++ name ++ " of " ++ receiver.typeName ++ " object>")

mutual

/-- Both texts of a value. -/
def written : Snapshot → Written
  | .null => ⟨.ok "None", some "null"⟩
  | .boolean value => ⟨.ok (truthText value), some (jsonTruth value)⟩
  | .integer value => ⟨integerText value, (integerText value).toOption⟩
  | .float value => ⟨.ok (value.text Decimal.displayed), some (value.text Decimal.rendered)⟩
  | .text value => ⟨.ok (Quoted.displayed value), some (Quoted.json value)⟩
  | .bytes value => Written.foreign (.ok (Quoted.displayedBytes value))
  | .tuple items => tupleText (writtenAll items)
  | .set items => Written.foreign (setText (writtenAll items))
  | .list _ items => Written.enclosed "[" "]" (writtenAll items)
  | .table _ entries => tableText (writtenEntries entries)
  | .view _ kind items =>
      Written.foreign
        (Written.between (kind.typeName ++ "([") "])" (Written.shownAll (writtenAll items)))
  | .cycle (.list _) => ⟨.ok "[...]", none⟩
  | .cycle (.table _) => ⟨.ok "\x7b...\x7d", none⟩
  | .object _ _ texts shown misfit => Written.foreign (objectText misfit texts (writtenAll shown))
  | .error _ className arguments _ _ _ =>
      Written.foreign
        (Written.between (className ++ "(") ")" (Written.shownAll (writtenAll arguments)))
  | .assertion _ subject negated =>
      Written.foreign ((written subject).rendered.map (assertionText negated))
  | .predicate _ name => Written.foreign (.ok ("<fn " ++ name ++ ">"))
  | .type tag => Written.foreign (.ok tag.displayed)
  | .method receiver name => Written.foreign (methodText receiver (written receiver).shown name)
  | .code => Written.foreign (.ok "<function>")

/-- The texts of several values. -/
def writtenAll : List Snapshot → List Written
  | [] => []
  | item :: items => written item :: writtenAll items

/-- The texts of the entries of a table. -/
def writtenEntries : List (Snapshot × Snapshot) → List Written
  | [] => []
  | (key, value) :: entries =>
      entryText (jsonKey? key) (written key) (written value) :: writtenEntries entries

end

/-- The displayed text of a value. -/
def display (value : Snapshot) : Wording := (written value).shown

/-- The rendered text of a value. -/
def render (value : Snapshot) : Wording := (written value).rendered

/-- Rendered arguments, separated by commas and without brackets. -/
def renderAll (values : List Snapshot) : Wording := do
  let texts ← values.mapM render
  pure (",".intercalate texts)

/-- The longest displayed text that a description keeps whole. -/
def descriptionWidth : Nat := 60

/-- A text cut to the description width, three dots showing the cut. -/
def shortened (text : String) : String :=
  let chars := text.toList
  if chars.length > descriptionWidth then String.ofList (chars.take (descriptionWidth - 3)) ++ "..."
  else text

/-- A short description of a value: its type with its displayed text. -/
def describe : Snapshot → Wording
  | .null => .ok "None"
  | value => value.display.map fun shown => value.typeName ++ "(" ++ shortened shown ++ ")"

end Snapshot

end DeferredSpec
