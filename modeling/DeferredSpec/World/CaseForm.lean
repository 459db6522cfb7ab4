/-
# Case forms of values

Texts and byte strings can be asked for their form in capitals, in small letters, or
with the first letter large. Every other value lacks the question.
-/

import DeferredSpec.Text.LetterCase
import DeferredSpec.World.Fault

namespace DeferredSpec

/-- A change of case. -/
inductive CaseForm
  | capitals
  | smalls
  | capitalized
  deriving DecidableEq, Repr

namespace CaseForm

/-- The name under which texts and byte strings offer a change of case. -/
def name : CaseForm → String
  | .capitals => "upper"
  | .smalls => "lower"
  | .capitalized => "capitalize"

/-- The form of a text. -/
def ofText : CaseForm → String → String
  | .capitals => LetterCase.capitals
  | .smalls => LetterCase.smalls
  | .capitalized => LetterCase.capitalized

/-- The form of a byte string, of which only ASCII letters change. -/
def ofBytes : CaseForm → List UInt8 → List UInt8
  | .capitals => List.map LetterCase.capitalByte
  | .smalls => List.map LetterCase.smallByte
  | .capitalized => LetterCase.capitalizedBytes

/-- The form of a value, which is of the kind of the value. The types of texts and of
byte strings know the question but have nothing to ask it of. -/
def apply (form : CaseForm) (value : Value) : Action Value :=
  match value with
  | .text value => pure (.text (form.ofText value))
  | .bytes value => pure (.bytes (form.ofBytes value))
  | .type .text => Action.fail (.unboundMethod ("str." ++ form.name))
  | .type .bytes => Action.fail (.unboundMethod ("bytes." ++ form.name))
  | .type tag => Action.fail (.noTypeAttribute tag.name form.name)
  | value => do
      let kind ← Action.typeName value
      Action.fail (.noAttribute kind form.name)

end CaseForm

end DeferredSpec
