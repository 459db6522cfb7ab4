/-
# What can be told of a value without its names

A snapshot without names still shows what a value is made of; only which list, table, object
or error is which can no longer be told. All texts of a value, what it says in running text
among them, are told from that.
-/

import DeferredSpec.Value.Message

namespace DeferredSpec

namespace Snapshot

mutual

/-- The snapshot with all names left out. -/
def nameless : Snapshot → Snapshot
  | .tuple items => .tuple (namelessAll items)
  | .set items => .set (namelessAll items)
  | .list _ items => .list ⟨0⟩ (namelessAll items)
  | .table _ entries => .table ⟨0⟩ (namelessEntries entries)
  | .cycle (.list _) => .cycle (.list ⟨0⟩)
  | .cycle (.table _) => .cycle (.table ⟨0⟩)
  | .view _ kind items => .view 0 kind (namelessAll items)
  | .object _ className texts shown misfit =>
      .object ⟨0⟩ className texts (namelessAll shown) misfit
  | .error _ className arguments fields details cause =>
      .error ⟨0⟩ className (namelessAll arguments) (namelessFields fields) (namelessAll details)
        (namelessAll cause)
  | .assertion _ subject negated => .assertion 0 (nameless subject) negated
  | .predicate _ name => .predicate 0 name
  | .method receiver name => .method (nameless receiver) name
  | other => other

/-- Snapshots with all names left out. -/
def namelessAll : List Snapshot → List Snapshot
  | [] => []
  | item :: items => nameless item :: namelessAll items

/-- The entries of a table with all names left out. -/
def namelessEntries : List (Snapshot × Snapshot) → List (Snapshot × Snapshot)
  | [] => []
  | (key, value) :: entries => (nameless key, nameless value) :: namelessEntries entries

/-- The fields of an error with all names left out but their own. -/
def namelessFields : List (String × Snapshot) → List (String × Snapshot)
  | [] => []
  | (name, value) :: fields => (name, nameless value) :: namelessFields fields

end

theorem namelessAll_eq_map (items : List Snapshot) : namelessAll items = items.map nameless := by
  induction items with
  | nil => rfl
  | cons item items ih => rw [namelessAll, ih, List.map_cons]

theorem namelessEntries_eq_map (entries : List (Snapshot × Snapshot)) :
    namelessEntries entries = entries.map fun entry => (entry.1.nameless, entry.2.nameless) := by
  induction entries with
  | nil => rfl
  | cons entry entries ih => rw [namelessEntries, ih, List.map_cons]

theorem namelessFields_eq_map (fields : List (String × Snapshot)) :
    namelessFields fields = fields.map fun field => (field.1, field.2.nameless) := by
  induction fields with
  | nil => rfl
  | cons field fields ih => rw [namelessFields, ih, List.map_cons]

theorem hasOwnMethods_nameless (value : Snapshot) :
    value.nameless.hasOwnMethods = value.hasOwnMethods := by
  fun_cases nameless value <;> rfl

theorem typeName_nameless (value : Snapshot) : value.nameless.typeName = value.typeName := by
  fun_cases nameless value
  case case12 receiver name => simp only [typeName, hasOwnMethods_nameless]
  all_goals rfl

theorem jsonKey?_nameless (value : Snapshot) : value.nameless.jsonKey? = value.jsonKey? := by
  fun_cases nameless value <;> rfl

mutual

/-- The texts of a value do not tell names. -/
theorem written_nameless : ∀ value : Snapshot, value.nameless.written = value.written
  | .null | .boolean _ | .integer _ | .float _ | .text _ | .bytes _ | .type _ | .code => rfl
  | .cycle (.list _) | .cycle (.table _) | .predicate _ _ => rfl
  | .tuple items => by rw [nameless, written, written, writtenAll_nameless items]
  | .set items => by rw [nameless, written, written, writtenAll_nameless items]
  | .list _ items => by rw [nameless, written, written, writtenAll_nameless items]
  | .table _ entries => by rw [nameless, written, written, writtenEntries_nameless entries]
  | .view _ kind items => by rw [nameless, written, written, writtenAll_nameless items]
  | .object _ className texts shown misfit => by
      rw [nameless, written, written, writtenAll_nameless shown]
  | .error _ className arguments fields details cause => by
      rw [nameless, written, written, writtenAll_nameless arguments]
  | .assertion _ subject negated => by rw [nameless, written, written, written_nameless subject]
  | .method receiver name => by
      rw [nameless, written, written, written_nameless receiver, methodText, methodText,
        hasOwnMethods_nameless, typeName_nameless]

theorem writtenAll_nameless : ∀ items : List Snapshot,
    writtenAll (namelessAll items) = writtenAll items
  | [] => rfl
  | item :: items => by
      rw [namelessAll, writtenAll, writtenAll, written_nameless item, writtenAll_nameless items]

theorem writtenEntries_nameless : ∀ entries : List (Snapshot × Snapshot),
    writtenEntries (namelessEntries entries) = writtenEntries entries
  | [] => rfl
  | (key, value) :: entries => by
      rw [namelessEntries, writtenEntries, writtenEntries, jsonKey?_nameless key,
        written_nameless key, written_nameless value, writtenEntries_nameless entries]

end

theorem display_nameless (value : Snapshot) : value.nameless.display = value.display := by
  rw [display, display, written_nameless]

theorem render_nameless (value : Snapshot) : value.nameless.render = value.render := by
  rw [render, render, written_nameless]

theorem ownText_nameless (value : Snapshot) : value.nameless.ownText = value.ownText := by
  fun_cases nameless value <;> rfl

theorem asInteger?_nameless (value : Snapshot) : value.nameless.asInteger? = value.asInteger? := by
  fun_cases nameless value <;> rfl

theorem position_nameless (value : Snapshot) : value.nameless.position = value.position := by
  rw [position, position, asInteger?_nameless]

theorem members_nameless (value : Snapshot) :
    value.nameless.members = value.members.map nameless := by
  cases value with
  | tuple items => exact namelessAll_eq_map items
  | set items => exact namelessAll_eq_map items
  | list ref items => exact namelessAll_eq_map items
  | view identity kind items => exact namelessAll_eq_map items
  | table ref entries =>
      rw [nameless, members, members, namelessEntries_eq_map, List.map_map, List.map_map]
      rfl
  | text value =>
      rw [members, List.map_map]
      rfl
  | bytes value =>
      rw [members, List.map_map]
      rfl
  | cycle container => cases container <;> rfl
  | _ => rfl

theorem nameless_eq_text {value : Snapshot} {text : String} :
    value.nameless = .text text ↔ value = .text text := by
  fun_cases nameless value <;> simp

theorem nameless_eq_bytes {value : Snapshot} {data : List UInt8} :
    value.nameless = .bytes data ↔ value = .bytes data := by
  fun_cases nameless value <;> simp

theorem nameless_eq_integer {value : Snapshot} {number : Int} :
    value.nameless = .integer number ↔ value = .integer number := by
  fun_cases nameless value <;> simp

theorem placeText_nameless (place : Snapshot) : place.nameless.placeText = place.placeText := by
  unfold placeText
  rw [members_nameless]
  generalize place.members = members
  split
  next path line rest same =>
    simp only [List.map_eq_cons_iff] at same
    obtain ⟨_, _, rfl, one, _, _, rfl, two, rfl⟩ := same
    rw [nameless_eq_text.mp one, nameless_eq_integer.mp two]
  next path rest other same =>
    simp only [List.map_eq_cons_iff] at same
    obtain ⟨_, _, rfl, one, rfl⟩ := same
    obtain rfl := nameless_eq_text.mp one
    split
    next same => 
      cases same
      exact (other _ _ rfl).elim
    next same => 
      cases same
      rfl
    next same =>
      cases same
      exact (other _ _ rfl).elim
    next unlike _ => exact (unlike _ _ rfl).elim
  next first line rest other same =>
    simp only [List.map_eq_cons_iff] at same
    obtain ⟨_, _, rfl, rfl, _, _, rfl, two, rfl⟩ := same
    obtain rfl := nameless_eq_integer.mp two
    split
    next same => 
      cases same
      exact (other _ rfl).elim
    next same => 
      cases same
      exact (other _ rfl).elim
    next same => 
      cases same
      rfl
    next other => exact (other _ _ _ rfl).elim
  next one two three =>
    split
    · exact (one _ _ _ rfl).elim
    · exact (two _ _ rfl).elim
    · exact (three _ _ _ rfl).elim
    · rfl

theorem codecText_nameless (style : MessageStyle) (arguments : List Snapshot) :
    codecText style (arguments.map nameless) = codecText style arguments := by
  unfold codecText
  split
  next same =>
    simp only [List.map_eq_cons_iff, List.map_eq_nil_iff] at same
    obtain ⟨_, _, rfl, rfl, _, _, rfl, found, _, _, rfl, rfl, _, _, rfl, rfl, _, _, rfl, rfl,
      rfl⟩ := same
    rw [nameless_eq_bytes.mp found]
    simp only [ownText_nameless, position_nameless]
  next same =>
    simp only [List.map_eq_cons_iff, List.map_eq_nil_iff] at same
    obtain ⟨_, _, rfl, rfl, _, _, rfl, found, _, _, rfl, rfl, _, _, rfl, rfl, _, _, rfl, rfl,
      rfl⟩ := same
    rw [nameless_eq_text.mp found]
    simp only [ownText_nameless, position_nameless]
  next same =>
    simp only [List.map_eq_cons_iff, List.map_eq_nil_iff] at same
    obtain ⟨_, _, rfl, found, _, _, rfl, rfl, _, _, rfl, rfl, _, _, rfl, rfl, rfl⟩ := same
    rw [nameless_eq_text.mp found]
    simp only [ownText_nameless, position_nameless]
  next decoding encoding translating =>
    split
    · exact (decoding _ _ _ _ _ rfl rfl).elim
    · exact (encoding _ _ _ _ _ rfl rfl).elim
    · exact (translating _ _ _ _ rfl rfl).elim
    · rfl

theorem filesText_nameless (files : List Snapshot) :
    filesText (files.map nameless) = filesText files := by
  match files with
  | [] => rfl
  | [file] => simp only [List.map_cons, List.map_nil, filesText, display_nameless]
  | file :: other :: _ => simp only [List.map_cons, filesText, display_nameless]

mutual

/-- What a value says does not tell names. -/
theorem plain_nameless : ∀ value : Snapshot, value.nameless.plain = value.plain
  | .error _ className arguments fields details cause => by
      rw [nameless, plain, plain, namelessAll_eq_map details]
      exact message_nameless _ details arguments
  | .object ref className texts shown none =>
      display_nameless (.object ref className texts shown none)
  | .object _ _ _ _ (some _) => rfl
  | .text _ => rfl
  | .null | .boolean _ | .integer _ | .float _ | .bytes _ | .type _ | .code => rfl
  | .cycle (.list _) | .cycle (.table _) | .predicate _ _ => rfl
  | .tuple items => display_nameless (.tuple items)
  | .set items => display_nameless (.set items)
  | .list ref items => display_nameless (.list ref items)
  | .table ref entries => display_nameless (.table ref entries)
  | .view identity kind items => display_nameless (.view identity kind items)
  | .assertion identity subject negated => display_nameless (.assertion identity subject negated)
  | .method receiver name => display_nameless (.method receiver name)

theorem message_nameless (style : MessageStyle) (details : List Snapshot) :
    ∀ arguments : List Snapshot,
      message style (details.map nameless) (namelessAll arguments) =
        message style details arguments
  | [] => rfl
  | [argument] => by
      rw [namelessAll, namelessAll, message, message, display_nameless, plain_nameless argument]
  | first :: second :: rest => by
      have shown := display_nameless (.tuple (first :: second :: rest))
      have coded := codecText_nameless style (first :: second :: rest)
      rw [← namelessAll_eq_map] at coded
      rw [nameless] at shown
      simp only [namelessAll] at shown coded ⊢
      unfold message
      rw [plain_nameless first, plain_nameless second, filesText_nameless, placeText_nameless,
        shown, members_nameless, List.length_map, namelessAll_eq_map, List.length_map,
        List.isEmpty_map, ← namelessAll_eq_map]
      cases style <;> first
        | rfl
        | exact congrArg Except.ok coded

end

end Snapshot

end DeferredSpec
