/-
# JSON texts

A JSON value is written without spaces, and with none but printable ASCII characters. Nothing
marks where the text of a value ends, but nothing needs to: no text of a value goes on as the
text of another one. Behind an integer there is no further digit, every escape of a character
has as many characters as its beginning says, and only an unescaped quote ends a string. So a
text can be read back, and texts that are joined by commas can be told apart.
-/

import DeferredSpec.Text.Quoted
import Mathlib.Algebra.Group.Nat.Defs
import Mathlib.Data.List.Basic
import Mathlib.Data.Char

namespace DeferredSpec

/-- A JSON value. The entries of a table are in order. -/
inductive Json
  | null
  | boolean (value : Bool)
  | integer (value : Int)
  | text (value : String)
  | list (items : List Json)
  | table (entries : List (String × Json))

namespace Quoted

/-! ### Hexadecimal digits -/

theorem length_hex (width value : Nat) : (hex width value).length = width := by
  induction width generalizing value with
  | zero => rfl
  | succ width ih => rw [hex, List.length_append, ih, List.length_singleton]

theorem hexDigit_inj : ∀ first < 16, ∀ second < 16, hexDigit first = hexDigit second →
    first = second := by
  decide

theorem hex_inj {width first second : Nat} (same : hex width first = hex width second) :
    first % 16 ^ width = second % 16 ^ width := by
  induction width generalizing first second with
  | zero => rw [Nat.pow_zero, Nat.mod_one, Nat.mod_one]
  | succ width ih =>
      obtain ⟨high, low⟩ := List.append_inj' same rfl
      have last := hexDigit_inj _ (Nat.mod_lt _ (by decide)) _ (Nat.mod_lt _ (by decide))
        (List.singleton_inj.mp low)
      rw [Nat.pow_succ, Nat.mul_comm, Nat.mod_mul, Nat.mod_mul, ih high, last]

/-- An escape of a unit can be read back, whatever stands behind it. -/
theorem unitEscape_append {first second : Nat} {rest more : List Char}
    (small : first < 0x10000) (also : second < 0x10000)
    (same : unitEscape first ++ rest = unitEscape second ++ more) :
    first = second ∧ rest = more := by
  obtain ⟨escapes, behind⟩ := List.append_inj same (by simp [unitEscape, length_hex])
  have digits : hex 4 first = hex 4 second := by
    simpa only [unitEscape, List.cons.injEq, true_and] using escapes
  have units := hex_inj digits
  rw [show 16 ^ 4 = 0x10000 from rfl, Nat.mod_eq_of_lt small, Nat.mod_eq_of_lt also] at units
  exact ⟨units, behind⟩

/-! ### Characters of a string -/

/-- What a short escape stands for, by its second character. -/
def unescaped : Char → Char
  | 'n' => '\n'
  | 'r' => '\r'
  | 't' => '\t'
  | 'b' => '\x08'
  | 'f' => '\x0c'
  | c => c

/-- How a character is written. -/
inductive Spelling (c : Char) : List Char → Prop
  | plain (printable : 0x20 ≤ c.toNat ∧ c.toNat ≤ 0x7e) (quote : c ≠ '"')
      (backslash : c ≠ '\\') : Spelling c [c]
  | short (mark : Char) (known : mark ∈ ['"', '\\', 'n', 'r', 't', 'b', 'f'])
      (same : c = unescaped mark) : Spelling c ['\\', mark]
  | unit (basic : c.toNat < 0x10000) : Spelling c (unitEscape c.toNat)
  | pair (beyond : 0x10000 ≤ c.toNat) :
      Spelling c (unitEscape (0xd800 + (c.toNat - 0x10000) / 0x400) ++
        unitEscape (0xdc00 + (c.toNat - 0x10000) % 0x400))

theorem spelling (c : Char) : Spelling c (jsonChar c) := by
  unfold jsonChar
  split
  case h_8 c quote backslash _ _ _ _ _ =>
    dsimp only
    split
    · next printable =>
        rw [Bool.and_eq_true, decide_eq_true_eq, decide_eq_true_eq] at printable
        exact .plain printable quote backslash
    · split
      · next basic => exact .unit basic
      · next beyond => exact .pair (Nat.le_of_not_lt beyond)
  all_goals exact .short _ (by decide) rfl

/-- No character is one half of a surrogate pair. -/
theorem not_surrogate (c : Char) : ¬ (0xd800 ≤ c.toNat ∧ c.toNat < 0xe000) := by
  have valid : c.toNat < 0xd800 ∨ 0xdfff < c.toNat ∧ c.toNat < 0x110000 := c.valid
  omega

theorem lt_of_beyond (c : Char) : (c.toNat - 0x10000) / 0x400 < 0x400 := by
  have valid : c.toNat < 0xd800 ∨ 0xdfff < c.toNat ∧ c.toNat < 0x110000 := c.valid
  omega

theorem ne_of_mark {mark : Char} (known : mark ∈ ['"', '\\', 'n', 'r', 't', 'b', 'f']) :
    mark ≠ 'u' := by
  rintro rfl
  exact absurd known (by decide)

/-- A written character can be read back, whatever stands behind it. -/
theorem jsonChar_append {first second : Char} {rest more : List Char}
    (same : jsonChar first ++ rest = jsonChar second ++ more) : first = second ∧ rest = more := by
  have one := spelling first
  have two := spelling second
  generalize jsonChar first = written at same one
  generalize jsonChar second = other at same two
  cases one with
  | plain _ _ backslash =>
      cases two with
      | plain => exact List.cons.inj same
      | short | unit | pair => exact absurd (List.cons.inj same).1 backslash
  | short mark known spelt =>
      cases two with
      | plain _ _ backslash => exact absurd (List.cons.inj same).1.symm backslash
      | short further _ also =>
          obtain ⟨marks, behind⟩ := List.cons.inj (List.cons.inj same).2
          exact ⟨by rw [spelt, also, marks], behind⟩
      | unit | pair => exact absurd (List.cons.inj (List.cons.inj same).2).1 (ne_of_mark known)
  | unit basic =>
      cases two with
      | plain _ _ backslash => exact absurd (List.cons.inj same).1.symm backslash
      | short mark known _ =>
          exact absurd (List.cons.inj (List.cons.inj same).2).1.symm (ne_of_mark known)
      | unit also =>
          obtain ⟨units, behind⟩ := unitEscape_append basic also same
          exact ⟨Char.toNat_inj.mp units, behind⟩
      | pair beyond =>
          have bound := lt_of_beyond second
          rw [List.append_assoc] at same
          obtain ⟨units, _⟩ := unitEscape_append basic (by omega) same
          exact absurd (by omega) (not_surrogate first)
  | pair beyond =>
      have bound := lt_of_beyond first
      cases two with
      | plain _ _ backslash => exact absurd (List.cons.inj same).1.symm backslash
      | short mark known _ =>
          exact absurd (List.cons.inj (List.cons.inj same).2).1.symm (ne_of_mark known)
      | unit also =>
          rw [List.append_assoc] at same
          obtain ⟨units, _⟩ := unitEscape_append (by omega) also same
          exact absurd (by omega) (not_surrogate second)
      | pair further =>
          have within := lt_of_beyond second
          rw [List.append_assoc, List.append_assoc] at same
          obtain ⟨high, low⟩ := unitEscape_append (by omega) (by omega) same
          obtain ⟨low, behind⟩ := unitEscape_append (by omega) (by omega) low
          exact ⟨Char.toNat_inj.mp (by omega), behind⟩

/-- A written character is no quote. -/
theorem exists_jsonChar (c : Char) : ∃ first rest, jsonChar c = first :: rest ∧ first ≠ '"' := by
  have spelt := spelling c
  generalize jsonChar c = written at spelt
  cases spelt with
  | plain _ quote _ => exact ⟨c, [], rfl, quote⟩
  | short mark => exact ⟨'\\', [mark], rfl, by decide⟩
  | unit => exact ⟨'\\', _, rfl, by decide⟩
  | pair => exact ⟨'\\', _, rfl, by decide⟩

/-- The characters of a string can be read back, for none but the quote behind them is one. -/
theorem jsonChars_append {first second rest more : List Char}
    (same : jsonChars first ++ '"' :: rest = jsonChars second ++ '"' :: more) :
    first = second ∧ rest = more := by
  induction first generalizing second with
  | nil =>
      cases second with
      | nil => exact ⟨rfl, (List.cons.inj same).2⟩
      | cons d ds =>
          obtain ⟨head, tail, spelt, quote⟩ := exists_jsonChar d
          simp only [jsonChars, List.flatMap_cons, spelt, List.flatMap_nil, List.nil_append,
            List.cons_append] at same
          exact absurd (List.cons.inj same).1.symm quote
  | cons c cs ih =>
      cases second with
      | nil =>
          obtain ⟨head, tail, spelt, quote⟩ := exists_jsonChar c
          simp only [jsonChars, List.flatMap_cons, spelt, List.flatMap_nil, List.nil_append,
            List.cons_append] at same
          exact absurd (List.cons.inj same).1 quote
      | cons d ds =>
          simp only [jsonChars, List.flatMap_cons, List.append_assoc] at same
          obtain ⟨rfl, behind⟩ := jsonChar_append same
          obtain ⟨rfl, final⟩ := ih behind
          exact ⟨rfl, final⟩

/-- Whether a character is one of printable ASCII. -/
def IsPlain (c : Char) : Prop := 0x20 ≤ c.toNat ∧ c.toNat ≤ 0x7e

instance : DecidablePred IsPlain := fun _ => inferInstanceAs (Decidable (_ ∧ _))

/-- Whether all characters of a text are plain can be told by looking at each. -/
theorem isPlain_of_all {written : List Char} (all : written.all fun c => IsPlain c) :
    ∀ c ∈ written, IsPlain c := fun c member =>
  of_decide_eq_true (List.all_eq_true.mp all c member)

theorem isPlain_hexDigit : ∀ value < 16, IsPlain (hexDigit value) := by
  decide

theorem isPlain_of_mem_unitEscape {unit : Nat} {c : Char} (member : c ∈ unitEscape unit) :
    IsPlain c := by
  have digits : ∀ width value, ∀ c ∈ hex width value, IsPlain c := by
    intro width
    induction width with
    | zero => simp [hex]
    | succ width ih =>
        intro value c member
        rcases List.mem_append.mp member with earlier | last
        · exact ih _ c earlier
        · rw [List.mem_singleton.mp last]
          exact isPlain_hexDigit _ (Nat.mod_lt _ (by decide))
  rcases List.mem_cons.mp member with rfl | member
  · decide
  rcases List.mem_cons.mp member with rfl | member
  · decide
  exact digits 4 unit c member

theorem isPlain_of_mark : ∀ mark ∈ ['"', '\\', 'n', 'r', 't', 'b', 'f'], IsPlain mark :=
  isPlain_of_all (by decide)

theorem isPlain_of_mem_jsonChar {c d : Char} (member : d ∈ jsonChar c) : IsPlain d := by
  have spelt := spelling c
  generalize jsonChar c = written at member spelt
  cases spelt with
  | plain printable => rwa [List.mem_singleton.mp member]
  | short mark known =>
      rcases List.mem_cons.mp member with rfl | last
      · decide
      · rw [List.mem_singleton.mp last]
        exact isPlain_of_mark mark known
  | unit => exact isPlain_of_mem_unitEscape member
  | pair =>
      rcases List.mem_append.mp member with high | low
      · exact isPlain_of_mem_unitEscape high
      · exact isPlain_of_mem_unitEscape low

end Quoted

namespace Json

open Quoted (IsPlain isPlain_of_all)

/-- An integer as a JSON text. -/
def numeral (value : Int) : List Char := (toString value).toList

/-- A string as a JSON text. -/
def quoted (text : String) : List Char := '"' :: (Quoted.jsonChars text.toList ++ ['"'])

mutual

/-- The JSON text of a value. -/
def chars : Json → List Char
  | .null => ['n', 'u', 'l', 'l']
  | .boolean true => ['t', 'r', 'u', 'e']
  | .boolean false => ['f', 'a', 'l', 's', 'e']
  | .integer value => numeral value
  | .text value => quoted value
  | .list items => '[' :: ((charsBehind items).tail ++ [']'])
  | .table entries => '\x7b' :: ((entriesBehind entries).tail ++ ['\x7d'])

/-- The JSON texts of several values, a comma before each. -/
def charsBehind : List Json → List Char
  | [] => []
  | item :: items => ',' :: (chars item ++ charsBehind items)

/-- The JSON texts of the entries of a table, a comma before each. -/
def entriesBehind : List (String × Json) → List Char
  | [] => []
  | (key, value) :: entries =>
      ',' :: (quoted key ++ ':' :: (chars value ++ entriesBehind entries))

end

/-- The JSON texts of several values, joined by commas. -/
def charsAll (items : List Json) : List Char := (charsBehind items).tail

/-- What may stand behind the text of a value: nothing, or what parts it from the next one. -/
def Stops (rest : List Char) : Prop :=
  rest.head? ∈ [none, some ',', some ']', some '\x7d', some ' ']

/-- What may stand behind the last of several values. -/
def Closes (rest : List Char) : Prop := rest.head? ∈ [none, some ']', some '\x7d']

/-- Whether a character is a digit or a sign. -/
def isNumeral (c : Char) : Bool := c.isDigit || c == '-'

theorem numeral_ofNat (value : Nat) : numeral (.ofNat value) = Nat.toDigits 10 value := by
  rw [numeral, Int.toString_eq_repr]
  exact Nat.toList_repr

theorem numeral_negSucc (value : Nat) :
    numeral (.negSucc value) = '-' :: Nat.toDigits 10 (value + 1) := by
  rw [numeral, Int.toString_eq_repr, Int.repr, String.toList_append, Nat.toList_repr]
  rfl

theorem isDigit_of_mem {value : Nat} {c : Char} (member : c ∈ Nat.toDigits 10 value) :
    c.isDigit :=
  Nat.isDigit_of_mem_toDigits (by decide) (by decide) member

theorem toDigits_inj {first second : Nat} (same : Nat.toDigits 10 first = Nat.toDigits 10 second) :
    first = second := by
  have read := congrArg (Nat.ofDigitChars 10 · 0) same
  simpa only [Nat.ofDigitChars_ten_toDigits] using read

theorem isNumeral_of_mem {value : Int} {c : Char} (member : c ∈ numeral value) :
    isNumeral c := by
  cases value with
  | ofNat value =>
      rw [numeral_ofNat] at member
      rw [isNumeral, isDigit_of_mem member, Bool.true_or]
  | negSucc value =>
      rw [numeral_negSucc] at member
      rcases List.mem_cons.mp member with rfl | member
      · rfl
      · rw [isNumeral, isDigit_of_mem member, Bool.true_or]

theorem numeral_inj {first second : Int} (same : numeral first = numeral second) :
    first = second := by
  have unsigned {value : Nat} {digits : List Char}
      (signed : Nat.toDigits 10 value = '-' :: digits) : False := by
    have digit := isDigit_of_mem (signed ▸ List.mem_cons_self : '-' ∈ Nat.toDigits 10 value)
    exact absurd digit (by decide)
  cases first with
  | ofNat one =>
      rw [numeral_ofNat] at same
      cases second with
      | ofNat other =>
          rw [numeral_ofNat] at same
          rw [toDigits_inj same]
      | negSucc other =>
          rw [numeral_negSucc] at same
          exact (unsigned same).elim
  | negSucc one =>
      rw [numeral_negSucc] at same
      cases second with
      | ofNat other =>
          rw [numeral_ofNat] at same
          exact (unsigned same.symm).elim
      | negSucc other =>
          rw [numeral_negSucc] at same
          rw [Nat.succ.inj (toDigits_inj (List.cons.inj same).2)]

theorem takeWhile_numeral {value : Int} {rest : List Char} (stops : Stops rest) :
    (numeral value ++ rest).takeWhile isNumeral = numeral value := by
  rw [List.takeWhile_append_of_pos fun c => isNumeral_of_mem]
  cases rest with
  | nil => rw [List.takeWhile_nil, List.append_nil]
  | cons c rest =>
      have other : isNumeral c = false := by
        simp only [Stops, List.head?_cons, List.mem_cons, List.not_mem_nil, or_false,
          Option.some.injEq, reduceCtorEq, false_or] at stops
        rcases stops with rfl | rfl | rfl | rfl <;> rfl
      rw [List.takeWhile_cons_of_neg (by rw [other]; decide), List.append_nil]

/-- An integer is read to its last digit. -/
theorem numeral_append {first second : Int} {rest more : List Char} (stops : Stops rest)
    (also : Stops more) (same : numeral first ++ rest = numeral second ++ more) :
    first = second ∧ rest = more := by
  have digits := congrArg (List.takeWhile isNumeral) same
  rw [takeWhile_numeral stops, takeWhile_numeral also] at digits
  rw [digits] at same
  exact ⟨numeral_inj digits, List.append_cancel_left same⟩

/-- A string is read to its last quote. -/
theorem quoted_append {first second : String} {rest more : List Char}
    (same : quoted first ++ rest = quoted second ++ more) : first = second ∧ rest = more := by
  simp only [quoted, List.cons_append, List.append_assoc, List.nil_append, List.cons.injEq,
    true_and] at same
  obtain ⟨chars, behind⟩ := Quoted.jsonChars_append same
  exact ⟨String.toList_inj.mp chars, behind⟩

/-! ### Reading a value -/

/-- The kinds of values, as the first characters of their texts tell them. -/
inductive Kind
  | null
  | boolean (value : Bool)
  | integer
  | text
  | list
  | table
  | none
  deriving DecidableEq

def kind : Json → Kind
  | .null => .null
  | .boolean value => .boolean value
  | .integer _ => .integer
  | .text _ => .text
  | .list _ => .list
  | .table _ => .table

/-- The kind of value whose text begins with a character. -/
def kindOf (c : Char) : Kind :=
  if c = 'n' then .null
  else if c = 't' then .boolean true
  else if c = 'f' then .boolean false
  else if isNumeral c then .integer
  else if c = '"' then .text
  else if c = '[' then .list
  else if c = '\x7b' then .table
  else .none

/-- The text of a value begins with a character that tells its kind. -/
theorem exists_chars (value : Json) :
    ∃ first rest, value.chars = first :: rest ∧ kindOf first = value.kind := by
  cases value with
  | null => exact ⟨_, _, rfl, rfl⟩
  | boolean truth => cases truth <;> exact ⟨_, _, rfl, rfl⟩
  | integer value =>
      have some : numeral value ≠ [] := by
        cases value with
        | ofNat value =>
            rw [numeral_ofNat]
            exact Nat.toDigits_ne_nil
        | negSucc value =>
            rw [numeral_negSucc]
            exact List.cons_ne_nil _ _
      obtain ⟨first, rest, spelt⟩ := List.exists_cons_of_ne_nil some
      refine ⟨first, rest, spelt, ?_⟩
      have number := isNumeral_of_mem (spelt ▸ List.mem_cons_self : first ∈ numeral value)
      have apart (c : Char) (other : isNumeral c = false) : first ≠ c := by
        rintro rfl
        rw [number] at other
        cases other
      rw [kindOf, if_neg (apart 'n' rfl), if_neg (apart 't' rfl), if_neg (apart 'f' rfl),
        if_pos number, kind]
  | text value => exact ⟨_, _, rfl, rfl⟩
  | list items => exact ⟨_, _, rfl, rfl⟩
  | table entries => exact ⟨_, _, rfl, rfl⟩

/-- Values of one kind; where there is but one value of it, they are the same. -/
inductive SameKind : Json → Json → Prop
  | null : SameKind .null .null
  | boolean (value : Bool) : SameKind (.boolean value) (.boolean value)
  | integer (first second : Int) : SameKind (.integer first) (.integer second)
  | text (first second : String) : SameKind (.text first) (.text second)
  | list (first second : List Json) : SameKind (.list first) (.list second)
  | table (first second : List (String × Json)) : SameKind (.table first) (.table second)

theorem sameKind_of_kind_eq {first second : Json} (same : first.kind = second.kind) :
    SameKind first second := by
  cases first <;> cases second <;> simp only [kind, reduceCtorEq, Kind.boolean.injEq] at same
  case boolean.boolean => exact same ▸ .boolean _
  all_goals constructor

/-- Texts that are the same from the start are those of values of one kind. -/
theorem sameKind_of_chars {first second : Json} {rest more : List Char}
    (same : first.chars ++ rest = second.chars ++ more) : SameKind first second := by
  obtain ⟨one, behind, spelt, told⟩ := first.exists_chars
  obtain ⟨other, further, also, heard⟩ := second.exists_chars
  rw [spelt, also] at same
  apply sameKind_of_kind_eq
  rw [← told, ← heard, (List.cons.inj same).1]

/-- No value begins where the values of a list or table are closed. -/
theorem not_closes_chars (value : Json) (rest : List Char) : ¬ Closes (value.chars ++ rest) := by
  obtain ⟨first, behind, spelt, told⟩ := value.exists_chars
  intro closes
  have closing : kindOf first = .none := by
    simp only [spelt, Closes, List.cons_append, List.head?_cons, List.mem_cons, List.not_mem_nil,
      or_false, Option.some.injEq, reduceCtorEq, false_or] at closes
    rcases closes with rfl | rfl <;> rfl
  rw [told] at closing
  cases value <;> cases closing

theorem Closes.stops {rest : List Char} (closes : Closes rest) : Stops rest := by
  simp only [Closes, Stops, List.mem_cons] at closes ⊢
  tauto

theorem stops_charsBehind (items : List Json) {rest : List Char} (closes : Closes rest) :
    Stops (charsBehind items ++ rest) := by
  cases items with
  | nil => exact closes.stops
  | cons item items => simp [charsBehind, Stops]

theorem stops_entriesBehind (entries : List (String × Json)) {rest : List Char}
    (closes : Closes rest) : Stops (entriesBehind entries ++ rest) := by
  cases entries with
  | nil => exact closes.stops
  | cons entry entries => simp [entriesBehind, Stops]

theorem not_closes_cons {c : Char} {rest : List Char} (other : c ≠ ']') (also : c ≠ '\x7d') :
    ¬ Closes (c :: rest) := by
  simp [Closes, other, also]

/-- Values that are joined alike are alike with a comma before each. -/
theorem charsBehind_of_tail {items others : List Json} {rest more : List Char}
    (closes : Closes rest) (also : Closes more)
    (same : (charsBehind items).tail ++ rest = (charsBehind others).tail ++ more) :
    charsBehind items ++ rest = charsBehind others ++ more := by
  cases items with
  | nil =>
      cases others with
      | nil => exact same
      | cons other others =>
          simp only [charsBehind, List.tail_nil, List.tail_cons, List.nil_append,
            List.append_assoc] at same
          exact absurd (same ▸ closes) (not_closes_chars other _)
  | cons item items =>
      cases others with
      | nil =>
          simp only [charsBehind, List.tail_nil, List.tail_cons, List.nil_append,
            List.append_assoc] at same
          exact absurd (same ▸ also) (not_closes_chars item _)
      | cons other others => exact congrArg (List.cons ',') same

/-- Entries that are joined alike are alike with a comma before each. -/
theorem entriesBehind_of_tail {entries others : List (String × Json)} {rest more : List Char}
    (closes : Closes rest) (also : Closes more)
    (same : (entriesBehind entries).tail ++ rest = (entriesBehind others).tail ++ more) :
    entriesBehind entries ++ rest = entriesBehind others ++ more := by
  cases entries with
  | nil =>
      cases others with
      | nil => exact same
      | cons other others =>
          exact absurd ((show rest = _ from same) ▸ closes)
            (not_closes_cons (by decide) (by decide))
  | cons entry entries =>
      cases others with
      | nil =>
          exact absurd ((show more = _ from same.symm) ▸ also)
            (not_closes_cons (by decide) (by decide))
      | cons other others => exact congrArg (List.cons ',') same

mutual

/-- The text of a value can be read back, whatever may stand behind it. -/
theorem chars_append : ∀ (first second : Json) {rest more : List Char}, Stops rest → Stops more →
    first.chars ++ rest = second.chars ++ more → first = second ∧ rest = more
  | .null, second, rest, more, _, _, same => by
      cases sameKind_of_chars same with
      | null => exact ⟨rfl, List.append_cancel_left same⟩
  | .boolean value, second, rest, more, _, _, same => by
      cases sameKind_of_chars same with
      | boolean => exact ⟨rfl, List.append_cancel_left same⟩
  | .integer value, second, rest, more, stops, also, same => by
      cases sameKind_of_chars same with
      | integer _ other =>
          obtain ⟨rfl, behind⟩ := numeral_append stops also same
          exact ⟨rfl, behind⟩
  | .text value, second, rest, more, _, _, same => by
      cases sameKind_of_chars same with
      | text _ other =>
          obtain ⟨rfl, behind⟩ := quoted_append same
          exact ⟨rfl, behind⟩
  | .list items, second, rest, more, _, _, same => by
      cases sameKind_of_chars same with
      | list _ others =>
          simp only [chars, List.cons_append, List.append_assoc, List.nil_append, List.cons.injEq,
            true_and] at same
          have closes (rest : List Char) : Closes (']' :: rest) := by simp [Closes]
          obtain ⟨rfl, behind⟩ := charsBehind_append items others (closes _) (closes _)
            (charsBehind_of_tail (closes _) (closes _) same)
          exact ⟨rfl, (List.cons.inj behind).2⟩
  | .table entries, second, rest, more, _, _, same => by
      cases sameKind_of_chars same with
      | table _ others =>
          simp only [chars, List.cons_append, List.append_assoc, List.nil_append, List.cons.injEq,
            true_and] at same
          have closes (rest : List Char) : Closes ('\x7d' :: rest) := by simp [Closes]
          obtain ⟨rfl, behind⟩ := entriesBehind_append entries others (closes _) (closes _)
            (entriesBehind_of_tail (closes _) (closes _) same)
          exact ⟨rfl, (List.cons.inj behind).2⟩

/-- The texts of several values can be read back. -/
theorem charsBehind_append : ∀ (items others : List Json) {rest more : List Char},
    Closes rest → Closes more → charsBehind items ++ rest = charsBehind others ++ more →
      items = others ∧ rest = more
  | [], [], _, _, _, _, same => ⟨rfl, same⟩
  | [], other :: others, rest, more, closes, _, same => by
      exact absurd ((show rest = _ from same) ▸ closes) (not_closes_cons (by decide) (by decide))
  | item :: items, [], rest, more, _, closes, same => by
      exact absurd ((show more = _ from same.symm) ▸ closes)
        (not_closes_cons (by decide) (by decide))
  | item :: items, other :: others, rest, more, closes, also, same => by
      simp only [charsBehind, List.cons_append, List.append_assoc, List.cons.injEq,
        true_and] at same
      obtain ⟨rfl, behind⟩ := chars_append item other (stops_charsBehind items closes)
        (stops_charsBehind others also) same
      obtain ⟨rfl, final⟩ := charsBehind_append items others closes also behind
      exact ⟨rfl, final⟩

/-- The texts of several entries can be read back. -/
theorem entriesBehind_append :
    ∀ (entries others : List (String × Json)) {rest more : List Char},
      Closes rest → Closes more → entriesBehind entries ++ rest = entriesBehind others ++ more →
        entries = others ∧ rest = more
  | [], [], _, _, _, _, same => ⟨rfl, same⟩
  | [], (key, other) :: others, rest, more, closes, _, same => by
      exact absurd ((show rest = _ from same) ▸ closes) (not_closes_cons (by decide) (by decide))
  | (key, value) :: entries, [], rest, more, _, closes, same => by
      exact absurd ((show more = _ from same.symm) ▸ closes)
        (not_closes_cons (by decide) (by decide))
  | (key, value) :: entries, (name, other) :: others, rest, more, closes, also, same => by
      simp only [entriesBehind, List.cons_append, List.append_assoc, List.cons.injEq,
        true_and] at same
      obtain ⟨rfl, held⟩ := quoted_append same
      obtain ⟨rfl, behind⟩ := chars_append value other (stops_entriesBehind entries closes)
        (stops_entriesBehind others also) (List.cons.inj held).2
      obtain ⟨rfl, final⟩ := entriesBehind_append entries others closes also behind
      exact ⟨rfl, final⟩

end

/-- Values that are joined alike are the same. -/
theorem charsAll_inj {items others : List Json} (same : charsAll items = charsAll others) :
    items = others := by
  have closes : Closes [] := by simp [Closes]
  have behind := charsBehind_of_tail closes closes (congrArg (· ++ []) same)
  exact (charsBehind_append items others closes closes behind).1

/-! ### The characters of a text -/

theorem isPlain_of_mem_numeral {value : Int} {c : Char} (member : c ∈ numeral value) :
    IsPlain c := by
  have number := isNumeral_of_mem member
  rw [isNumeral, Bool.or_eq_true, beq_iff_eq] at number
  rcases number with digit | rfl
  · have bounds := Char.isDigit_iff_toNat.mp digit
    exact ⟨Nat.le_trans (by decide) bounds.1, Nat.le_trans bounds.2 (by decide)⟩
  · decide

theorem isPlain_of_mem_quoted {text : String} {c : Char} (member : c ∈ quoted text) :
    IsPlain c := by
  rcases List.mem_cons.mp member with rfl | member
  · decide
  rcases List.mem_append.mp member with inner | last
  · obtain ⟨d, _, spelt⟩ := List.mem_flatMap.mp inner
    exact Quoted.isPlain_of_mem_jsonChar spelt
  · rw [List.mem_singleton.mp last]
    decide

mutual

/-- The text of a value has none but printable ASCII characters. -/
theorem isPlain_of_mem_chars : ∀ (value : Json), ∀ c ∈ value.chars, IsPlain c
  | .null => isPlain_of_all (by decide)
  | .boolean true => isPlain_of_all (by decide)
  | .boolean false => isPlain_of_all (by decide)
  | .integer _ => fun _ => isPlain_of_mem_numeral
  | .text _ => fun _ => isPlain_of_mem_quoted
  | .list items => by
      have inner := isPlain_of_mem_charsBehind items
      rw [chars, List.forall_mem_cons, List.forall_mem_append, List.forall_mem_singleton]
      exact ⟨by decide, fun c member => inner c (List.mem_of_mem_tail member), by decide⟩
  | .table entries => by
      have inner := isPlain_of_mem_entriesBehind entries
      rw [chars, List.forall_mem_cons, List.forall_mem_append, List.forall_mem_singleton]
      exact ⟨by decide, fun c member => inner c (List.mem_of_mem_tail member), by decide⟩

theorem isPlain_of_mem_charsBehind : ∀ (items : List Json), ∀ c ∈ charsBehind items, IsPlain c
  | [] => by simp [charsBehind]
  | item :: items => by
      rw [charsBehind, List.forall_mem_cons, List.forall_mem_append]
      exact ⟨by decide, isPlain_of_mem_chars item, isPlain_of_mem_charsBehind items⟩

theorem isPlain_of_mem_entriesBehind :
    ∀ (entries : List (String × Json)), ∀ c ∈ entriesBehind entries, IsPlain c
  | [] => by simp [entriesBehind]
  | (key, value) :: entries => by
      rw [entriesBehind, List.forall_mem_cons, List.forall_mem_append, List.forall_mem_cons,
        List.forall_mem_append]
      exact ⟨by decide, fun _ => isPlain_of_mem_quoted, by decide, isPlain_of_mem_chars value,
        isPlain_of_mem_entriesBehind entries⟩

end

end Json

end DeferredSpec
