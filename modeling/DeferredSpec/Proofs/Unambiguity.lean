/-
# Calls and messages that can be told apart

Values that are JSON have the JSON text wherever they are held, and under whatever names, as
long as no integer in them has more digits than can be written. So two calls of one member whose
arguments are JSON have one label only if the arguments are the same, and a message about an
expected and an actual value tells both.
-/

import DeferredSpec.Proofs.JsonTexts
import DeferredSpec.Proofs.Likeness.Views
import DeferredSpec.Proofs.Titles

namespace DeferredSpec

namespace Json

/-! ### Values that are JSON -/

mutual

/-- The value is the JSON value in a world, with everything in it. -/
def IsIn (world : World) : Json → Value → Prop
  | .null, value => value = .null
  | .boolean truth, value => value = .boolean truth
  | .integer number, value => value = .integer number
  | .text words, value => value = .text words
  | .list items, value => ∃ ref, value = .list ref ∧ AreIn world items (world.listAt ref)
  | .table entries, value =>
      ∃ ref, value = .table ref ∧ EntriesAreIn world entries (world.tableAt ref)

/-- The values are the JSON values in a world, in order. -/
def AreIn (world : World) : List Json → List Value → Prop
  | [], values => values = []
  | item :: items, values =>
      ∃ value rest, values = value :: rest ∧ IsIn world item value ∧ AreIn world items rest

/-- The entries have texts as keys, and are those of the JSON table in a world, in order. -/
def EntriesAreIn (world : World) : List (String × Json) → List (Value × Value) → Prop
  | [], values => values = []
  | (key, item) :: entries, values =>
      ∃ value rest, values = (.text key, value) :: rest ∧ IsIn world item value ∧
        EntriesAreIn world entries rest

end

mutual

/-- No integer in the value has too many digits to be written. -/
def isWritable : Json → Bool
  | .integer number => (Snapshot.integerText number).isOk
  | .list items => areWritable items
  | .table entries => entriesAreWritable entries
  | _ => true

def areWritable : List Json → Bool
  | [] => true
  | item :: items => isWritable item && areWritable items

def entriesAreWritable : List (String × Json) → Bool
  | [] => true
  | (_, value) :: entries => isWritable value && entriesAreWritable entries

end

/-- The JSON text of a value. -/
def asText (value : Json) : String := String.ofList value.chars

/-- The JSON texts of values, joined by commas. -/
def asTexts (items : List Json) : String := String.ofList (charsAll items)

mutual

/-- A value of a world is one JSON value at most. -/
theorem eq_of_isIn {world : World} : ∀ (first second : Json) {value : Value},
    first.IsIn world value → second.IsIn world value → first = second
  | .null, second, value, held, also => by
      cases second <;> simp_all [IsIn]
  | .boolean truth, second, value, held, also => by
      cases second <;> simp_all [IsIn]
  | .integer number, second, value, held, also => by
      cases second <;> simp_all [IsIn]
  | .text words, second, value, held, also => by
      cases second <;> simp_all [IsIn]
  | .list items, second, value, held, also => by
      obtain ⟨ref, rfl, here⟩ := held
      cases second with
      | list others =>
          obtain ⟨_, ⟨⟩, there⟩ := also
          rw [eq_of_areIn items others here there]
      | _ => simp [IsIn] at also
  | .table entries, second, value, held, also => by
      obtain ⟨ref, rfl, here⟩ := held
      cases second with
      | table others =>
          obtain ⟨_, ⟨⟩, there⟩ := also
          rw [eq_of_entriesAreIn entries others here there]
      | _ => simp [IsIn] at also

theorem eq_of_areIn {world : World} : ∀ (first second : List Json) {values : List Value},
    AreIn world first values → AreIn world second values → first = second
  | [], [], _, _, _ => rfl
  | [], _ :: _, _, held, ⟨_, _, same, _⟩ => by
      cases held
      cases same
  | _ :: _, [], _, ⟨_, _, same, _⟩, also => by
      cases also
      cases same
  | first :: firsts, second :: seconds, _, ⟨_, _, same, here, behind⟩,
      ⟨_, _, also, there, further⟩ => by
      subst same
      cases also
      rw [eq_of_isIn first second here there, eq_of_areIn firsts seconds behind further]

theorem eq_of_entriesAreIn {world : World} :
    ∀ (first second : List (String × Json)) {values : List (Value × Value)},
      EntriesAreIn world first values → EntriesAreIn world second values → first = second
  | [], [], _, _, _ => rfl
  | [], _ :: _, _, held, ⟨_, _, same, _⟩ => by
      cases held
      cases same
  | _ :: _, [], _, ⟨_, _, same, _⟩, also => by
      cases also
      cases same
  | (key, first) :: firsts, (name, second) :: seconds, _, ⟨_, _, same, here, behind⟩,
      ⟨_, _, also, there, further⟩ => by
      subst same
      cases also
      rw [eq_of_isIn first second here there, eq_of_entriesAreIn firsts seconds behind further]

end

/-! ### The texts of lists and tables -/

theorem areWritable_eq_all (items : List Json) : areWritable items = items.all isWritable := by
  induction items with
  | nil => rfl
  | cons item items ih => rw [areWritable, ih, List.all_cons]

theorem entriesAreWritable_eq_all (entries : List (String × Json)) :
    entriesAreWritable entries = entries.all fun entry => entry.2.isWritable := by
  induction entries with
  | nil => rfl
  | cons entry entries ih => rw [entriesAreWritable, ih, List.all_cons]

/-- To join texts by commas is to put a comma before each and to drop the first one. -/
theorem intercalate_comma (texts : List (List Char)) :
    [','].intercalate texts = (texts.flatMap fun text => ',' :: text).tail := by
  cases texts with
  | nil => rfl
  | cons text texts =>
      rw [List.flatMap_cons, List.cons_append, List.tail_cons]
      induction texts generalizing text with
      | nil => simp
      | cons next texts ih => simp [List.intercalate_cons_cons, ih]

theorem charsBehind_eq_flatMap (items : List Json) :
    charsBehind items = (items.map chars).flatMap fun text => ',' :: text := by
  induction items with
  | nil => rfl
  | cons item items ih => simp [charsBehind, ih]

/-- The JSON text of an entry. -/
def entryAsText (entry : String × Json) : String :=
  Quoted.json entry.1 ++ ":" ++ entry.2.asText

theorem toList_entryAsText (entry : String × Json) :
    (entryAsText entry).toList = quoted entry.1 ++ ':' :: entry.2.chars := by
  simp [entryAsText, Quoted.json, quoted, asText]

theorem entriesBehind_eq_flatMap (entries : List (String × Json)) :
    entriesBehind entries =
      (entries.map fun entry => (entryAsText entry).toList).flatMap fun text => ',' :: text := by
  induction entries with
  | nil => rfl
  | cons entry entries ih => simp [entriesBehind, toList_entryAsText, ih]

theorem asTexts_eq (items : List Json) : asTexts items = ",".intercalate (items.map asText) := by
  apply String.toList_inj.mp
  rw [String.toList_intercalate, List.map_map, asTexts, String.toList_ofList, charsAll,
    charsBehind_eq_flatMap, ← intercalate_comma]
  congr 2
  funext item
  rw [Function.comp_apply, asText, String.toList_ofList]

theorem asText_list (items : List Json) :
    (Json.list items).asText = "[" ++ ",".intercalate (items.map asText) ++ "]" := by
  apply String.toList_inj.mp
  rw [← asTexts_eq]
  simp [asText, asTexts, chars, charsAll]

theorem asText_table (entries : List (String × Json)) :
    (Json.table entries).asText =
      "\x7b" ++ ",".intercalate (entries.map entryAsText) ++ "\x7d" := by
  apply String.toList_inj.mp
  have joined := intercalate_comma (entries.map fun entry => (entryAsText entry).toList)
  rw [← entriesBehind_eq_flatMap] at joined
  simp [asText, chars, String.toList_intercalate, ← joined, Function.comp_def]

end Json

namespace Written

/-- The texts of a value are the given JSON text and a displayed one, unless an integer in it has
too many digits. -/
def Tells (written : Written) (writable : Bool) (text : String) : Prop :=
  if writable then written.json = some text ∧ ∃ shown, written.shown = .ok shown
  else written.json = none ∧ written.shown = .error .tooManyDigits

/-- What several values tell, in order. -/
def AllTell (parts : List Written) (told : List (Bool × String)) : Prop :=
  List.Forall₂ (fun part tells => part.Tells tells.1 tells.2) parts told

variable {parts : List Written} {told : List (Bool × String)}

theorem mapM_json_of_allTell (all : AllTell parts told) :
    parts.mapM json = if told.all Prod.fst then some (told.map Prod.snd) else none := by
  induction all with
  | nil => rfl
  | @cons part tells _ told here _ ih =>
      rw [List.mapM_cons, ih, List.all_cons]
      obtain ⟨writable, text⟩ := tells
      cases writable with
      | false =>
          rw [here.1]
          rfl
      | true =>
          rw [here.1]
          cases told.all Prod.fst <;> rfl

theorem mapM_shown_of_allTell (all : AllTell parts told) :
    if told.all Prod.fst then ∃ texts, parts.mapM shown = .ok texts
    else parts.mapM shown = .error .tooManyDigits := by
  induction all with
  | nil => exact ⟨[], rfl⟩
  | @cons part tells _ told here _ ih =>
      rw [List.mapM_cons, List.all_cons]
      obtain ⟨writable, text⟩ := tells
      cases writable with
      | false =>
          rw [here.2]
          rfl
      | true =>
          obtain ⟨shown, same⟩ := here.2
          rw [same]
          cases more : told.all Prod.fst <;> rw [more] at ih
          · simp only [Bool.and_false]
            rw [if_neg (by decide)] at ih ⊢
            rw [ih]
            rfl
          · obtain ⟨texts, also⟩ := ih
            rw [also]
            exact ⟨shown :: texts, rfl⟩

/-- What parts in brackets tell. -/
theorem tells_bracketed (all : AllTell parts told) (opening closing before behind : String) :
    Tells
      { shown := between opening closing (shownAll parts)
        json := (parts.mapM json).map fun texts => before ++ ",".intercalate texts ++ behind }
      (told.all Prod.fst) (before ++ ",".intercalate (told.map Prod.snd) ++ behind) := by
  have texts := mapM_json_of_allTell all
  have shown := mapM_shown_of_allTell all
  cases writable : told.all Prod.fst <;> rw [writable] at texts shown
  · exact ⟨by rw [texts]; rfl, by rw [shownAll, shown]; rfl⟩
  · obtain ⟨words, same⟩ := shown
    exact ⟨by rw [texts]; rfl, _, by rw [shownAll, same]; rfl⟩

/-- What an entry with a text as its key tells. -/
theorem tells_entry {value : Written} {writable : Bool} {text : String}
    (tells : value.Tells writable text) (key : String) :
    (Snapshot.entryText (Snapshot.jsonKey? (.text key)) (Snapshot.written (.text key))
      value).Tells writable (Quoted.json key ++ ":" ++ text) := by
  cases writable with
  | false =>
      exact ⟨by rw [Snapshot.entryText, tells.1]; rfl, by rw [Snapshot.entryText, tells.2]; rfl⟩
  | true =>
      obtain ⟨json, shown, same⟩ := tells
      exact ⟨by rw [Snapshot.entryText, json]; rfl, _, by rw [Snapshot.entryText, same]; rfl⟩

end Written

namespace Json

open Quoted (IsPlain isPlain_of_all)
open Snapshot World

/-! ### The view of a JSON value -/

/-- The value that refers to a place, if it can be a JSON value. -/
def valueAt : Place → Option Value
  | .list ref => some (.list ref)
  | .table ref => some (.table ref)
  | _ => none

/-- A view has come to a value of less than a size. The places that it has entered are values
around it, so each of them is greater, and depth is left for all places beside them. -/
structure Looking (world : World) (depth : Nat) (entered : List Place) (size : Nat) : Prop where
  around : ∀ place ∈ entered, ∃ (outer : Json) (held : Value),
    valueAt place = some held ∧ outer.IsIn world held ∧ size ≤ sizeOf outer
  distinct : entered.Nodup
  there : ∀ place ∈ entered, world.Has place
  enough : world.size < depth + entered.length

namespace Looking

variable {world : World} {depth size : Nat} {entered : List Place} {place : Place}
  {value : Json} {held : Value}

theorem exists_depth (looking : Looking world depth entered size) :
    ∃ further, depth = further + 1 := by
  have bound := length_le_size looking.distinct looking.there
  have enough := looking.enough
  exact ⟨depth - 1, by omega⟩

/-- A value does not lie inside itself. -/
theorem not_mem (looking : Looking world depth entered size) (located : valueAt place = some held)
    (isIn : value.IsIn world held) (inside : sizeOf value < size) : place ∉ entered := by
  intro member
  obtain ⟨outer, other, also, isThere, greater⟩ := looking.around place member
  rw [located] at also
  cases also
  rw [eq_of_isIn outer value isThere isIn] at greater
  omega

theorem enter (looking : Looking world (depth + 1) entered size)
    (located : valueAt place = some held) (isIn : value.IsIn world held)
    (inside : sizeOf value < size) (has : world.Has place) :
    Looking world depth (place :: entered) (sizeOf value) where
  around := by
    rw [List.forall_mem_cons]
    refine ⟨⟨value, held, located, isIn, Nat.le_refl _⟩, fun other member => ?_⟩
    obtain ⟨outer, further, also, isThere, greater⟩ := looking.around other member
    exact ⟨outer, further, also, isThere, by omega⟩
  distinct := List.nodup_cons.mpr ⟨looking.not_mem located isIn inside, looking.distinct⟩
  there := List.forall_mem_cons.mpr ⟨has, looking.there⟩
  enough := by
    have enough := looking.enough
    rw [List.length_cons]
    omega

end Looking

theorem has_of_listAt {world : World} {ref : ListRef} (some : world.listAt ref ≠ []) :
    world.Has (.list ref) := by
  by_contra absent
  refine some ?_
  rw [World.listAt, Array.getElem?_eq_none (Nat.le_of_not_lt absent)]
  rfl

theorem has_of_tableAt {world : World} {ref : TableRef} (some : world.tableAt ref ≠ []) :
    world.Has (.table ref) := by
  by_contra absent
  refine some ?_
  rw [World.tableAt, Array.getElem?_eq_none (Nat.le_of_not_lt absent)]
  rfl

mutual

/-- A JSON value is written as such wherever it is held, for a view enters it down to its
leaves. -/
theorem tells_of_isIn {world : World} : ∀ (value : Json) {held : Value} {depth : Nat}
    {entered : List Place} {size : Nat},
    value.IsIn world held → Looking world depth entered size → sizeOf value < size →
      (Snapshot.written (Value.resolve (world.follow depth entered) held)).Tells
        value.isWritable value.asText
  | .null, held, depth, entered, size, same, _, _ => by
      rw [same]
      exact ⟨rfl, _, rfl⟩
  | .boolean truth, held, depth, entered, size, same, _, _ => by
      rw [same]
      refine ⟨?_, _, rfl⟩
      cases truth <;> rfl
  | .integer number, held, depth, entered, size, same, _, _ => by
      rw [same, Value.resolve, Snapshot.written, isWritable, integerText]
      split
      · refine ⟨?_, _, rfl⟩
        rw [asText, chars, numeral, String.ofList_toList]
        rfl
      · exact ⟨rfl, rfl⟩
  | .text words, held, depth, entered, size, same, _, _ => by
      rw [same]
      exact ⟨rfl, _, rfl⟩
  | .list items, held, depth, entered, size, ⟨ref, same, inner⟩, looking, inside => by
      obtain ⟨depth, rfl⟩ := looking.exists_depth
      have isIn : (Json.list items).IsIn world (.list ref) := ⟨ref, rfl, inner⟩
      have apart := looking.not_mem (rfl : valueAt (.list ref) = _) isIn inside
      have all := allTell_of_areIn items inner
        (fun some => looking.enter (rfl : valueAt (.list ref) = _) isIn inside
          (has_of_listAt some)) (by simp)
      have bracketed := Written.tells_bracketed all "[" "]" "[" "]"
      rw [List.all_map, List.map_map] at bracketed
      rw [same, Value.resolve, follow_succ, if_neg (by simpa using apart), isWritable,
        areWritable_eq_all, asText_list]
      exact bracketed
  | .table entries, held, depth, entered, size, ⟨ref, same, inner⟩, looking, inside => by
      obtain ⟨depth, rfl⟩ := looking.exists_depth
      have isIn : (Json.table entries).IsIn world (.table ref) := ⟨ref, rfl, inner⟩
      have apart := looking.not_mem (rfl : valueAt (.table ref) = _) isIn inside
      have all := allTell_of_entriesAreIn entries inner
        (fun some => looking.enter (rfl : valueAt (.table ref) = _) isIn inside
          (has_of_tableAt some)) (by simp)
      have bracketed := Written.tells_bracketed all "\x7b" "\x7d" "\x7b" "\x7d"
      rw [List.all_map, List.map_map] at bracketed
      rw [same, Value.resolve, follow_succ, if_neg (by simpa using apart), isWritable,
        entriesAreWritable_eq_all, asText_table]
      exact bracketed

theorem allTell_of_areIn {world : World} : ∀ (items : List Json) {values : List Value}
    {depth : Nat} {entered : List Place} {size : Nat},
    AreIn world items values → (values ≠ [] → Looking world depth entered size) →
      sizeOf items < size →
        Written.AllTell
          (Snapshot.writtenAll (values.map (Value.resolve (world.follow depth entered))))
          (items.map fun item => (item.isWritable, item.asText))
  | [], values, depth, entered, size, same, _, _ => by
      cases same
      exact .nil
  | item :: items, _, depth, entered, size, ⟨value, rest, same, here, behind⟩, looking,
      inside => by
      subst same
      have looking := looking (List.cons_ne_nil _ _)
      rw [List.cons.sizeOf_spec] at inside
      exact .cons (tells_of_isIn item here looking (by omega))
        (allTell_of_areIn items behind (fun _ => looking) (by omega))

theorem allTell_of_entriesAreIn {world : World} : ∀ (entries : List (String × Json))
    {values : List (Value × Value)} {depth : Nat} {entered : List Place} {size : Nat},
    EntriesAreIn world entries values → (values ≠ [] → Looking world depth entered size) →
      sizeOf entries < size →
        Written.AllTell
          (Snapshot.writtenEntries (values.map fun entry =>
            (Value.resolve (world.follow depth entered) entry.1,
              Value.resolve (world.follow depth entered) entry.2)))
          (entries.map fun entry => (entry.2.isWritable, entryAsText entry))
  | [], values, depth, entered, size, same, _, _ => by
      cases same
      exact .nil
  | (key, item) :: entries, _, depth, entered, size, ⟨value, rest, same, here, behind⟩, looking,
      inside => by
      subst same
      have looking := looking (List.cons_ne_nil _ _)
      rw [List.cons.sizeOf_spec, Prod.mk.sizeOf_spec] at inside
      have tells := tells_of_isIn item here looking (by omega)
      exact .cons (Written.tells_entry tells key)
        (allTell_of_entriesAreIn entries behind (fun _ => looking) (by omega))

end

/-- What is written of a JSON value: its JSON text, or nothing if an integer has too many digits. -/
def wording (value : Json) : Wording :=
  if value.isWritable then .ok value.asText else .error .tooManyDigits

/-- The JSON texts of values, joined by commas, or nothing if an integer has too many digits. -/
def wordings (items : List Json) : Wording :=
  if areWritable items then .ok (asTexts items) else .error .tooManyDigits

theorem render_of_isIn {world : World} {value : Json} {held : Value}
    (isIn : value.IsIn world held) : (world.view held).render = value.wording := by
  have start : Looking world (world.size + 1) [] (sizeOf value + 1) :=
    ⟨by simp, List.nodup_nil, by simp, Nat.lt_succ_self _⟩
  have tells := tells_of_isIn value isIn start (Nat.lt_succ_self _)
  rw [Snapshot.render, World.view, wording, Written.rendered]
  cases writable : value.isWritable <;> rw [writable] at tells
  · rw [tells.1]
    exact tells.2
  · rw [tells.1]
    rfl

theorem mapM_render_of_areIn {world : World} : ∀ {items : List Json} {values : List Value},
    AreIn world items values →
      (values.map world.view).mapM Snapshot.render =
        if areWritable items then .ok (items.map asText) else .error .tooManyDigits
  | [], _, same => by
      cases same
      rfl
  | item :: items, _, ⟨value, rest, same, here, behind⟩ => by
      rw [same, List.map_cons, List.mapM_cons, render_of_isIn here, mapM_render_of_areIn behind,
        areWritable, wording]
      cases item.isWritable <;> cases areWritable items <;> rfl

theorem renderAll_of_areIn {world : World} {items : List Json} {values : List Value}
    (areIn : AreIn world items values) :
    Snapshot.renderAll (values.map world.view) = wordings items := by
  rw [Snapshot.renderAll, mapM_render_of_areIn areIn, wordings, asTexts_eq]
  cases areWritable items <;> rfl

/-- The message about an expected and an actual value. -/
def asMessage (expected actual : Json) : String :=
  "expected: " ++ expected.asText ++ "   actual: " ++ actual.asText

theorem expectedActual_of_isIn {world : World} {expected actual : Json} {first second : Value}
    (isIn : expected.IsIn world first) (also : actual.IsIn world second) :
    SpecError.expectedActual (world.view first) (world.view second) =
      if areWritable [expected, actual] then .ok (asMessage expected actual)
      else .error .tooManyDigits := by
  rw [SpecError.expectedActual, render_of_isIn isIn, render_of_isIn also, wording, wording,
    areWritable, areWritable, areWritable, Bool.and_true]
  cases expected.isWritable <;> cases actual.isWritable <;> rfl

/-! ### Telling texts apart -/

theorem asTexts_inj {items others : List Json} (same : asTexts items = asTexts others) :
    items = others :=
  charsAll_inj (String.ofList_injective same)

/-- A message tells the expected value and the actual one. -/
theorem asMessage_inj {expected actual further fact : Json}
    (same : asMessage expected actual = asMessage further fact) :
    expected = further ∧ actual = fact := by
  have chars := congrArg String.toList same
  simp only [asMessage, asText, String.toList_append, String.toList_ofList,
    List.append_assoc] at chars
  have behind := List.append_cancel_left chars
  obtain ⟨rfl, rest⟩ := chars_append expected further (by simp [Stops]) (by simp [Stops]) behind
  have last := List.append_cancel_left rest
  have final := congrArg (· ++ []) last
  exact ⟨rfl, (chars_append actual fact (by simp [Stops]) (by simp [Stops]) final).1⟩

theorem isPlain_asTexts (items : List Json) : ∀ c ∈ (asTexts items).toList, IsPlain c := by
  rw [asTexts, String.toList_ofList]
  exact fun c member => isPlain_of_mem_charsBehind items c (List.mem_of_mem_tail member)

theorem isPlain_asMessage (expected actual : Json) :
    ∀ c ∈ (asMessage expected actual).toList, IsPlain c := by
  simp only [asMessage, asText, String.toList_append, String.toList_ofList,
    List.forall_mem_append]
  exact ⟨⟨⟨isPlain_of_all (by decide), isPlain_of_mem_chars expected⟩,
    isPlain_of_all (by decide)⟩, isPlain_of_mem_chars actual⟩

/-- A pair that is JSON is a pair of JSON values. -/
theorem exists_pair {world : World} {items : List Json} {first second : Value}
    (areIn : AreIn world items [first, second]) :
    ∃ one other : Json, items = [one, other] ∧ one.IsIn world first ∧ other.IsIn world second := by
  match items, areIn with
  | [one, other], ⟨_, _, same, here, _, _, also, there, rest⟩ =>
      cases same
      cases also
      exact ⟨one, other, rfl, here, there⟩
  | [], areIn => cases areIn
  | [_], ⟨_, _, same, _, rest⟩ =>
      cases same
      cases rest
  | _ :: _ :: _ :: _, ⟨_, _, same, _, _, _, also, _, _, _, rest, _⟩ =>
      cases same
      cases also
      cases rest

section Told

variable {world : World} {items : List Json} {values : List Value}

theorem of_ofWording {wording : Wording} {text : String}
    (told : (Action.ofWording wording world).1 = .returned text) : wording = .ok text := by
  cases wording with
  | ok found =>
      cases told
      rfl
  | error reason => cases told

/-- What is rendered of a tuple of JSON values is their JSON texts, if anything is. -/
theorem eq_asTexts_of_renderAll (areIn : AreIn world items values) {text : String}
    (told : (Action.renderAll values world).1 = .returned text) : text = asTexts items := by
  have rendered := of_ofWording told
  rw [renderAll_of_areIn areIn, wordings] at rendered
  split at rendered <;> cases rendered
  rfl

/-- A tuple of JSON values is rendered if no integer in it has too many digits. -/
theorem renderAll_of_areWritable (areIn : AreIn world items values)
    (writable : areWritable items) :
    Action.renderAll values world = (.returned (asTexts items), world) := by
  rw [Action.renderAll, Effect.bind_apply, Effect.read_apply]
  simp only [renderAll_of_areIn areIn, wordings, writable, if_true]
  rfl

/-- The label of a call with JSON values has the member before their JSON texts. -/
theorem eq_of_label (areIn : AreIn world items values) {node : ActionNode} {name : String}
    {label : Value} (member : node.description = .text name) (called : node.arguments = some values)
    (told : (node.label world).1 = .returned label) :
    label = .text (name ++ "(" ++ asTexts items ++ ")") := by
  have ended := Effect.apply_of_outcome told
  rw [ActionNode.label, called, member] at ended
  obtain ⟨description, _, plain, rest⟩ := Effect.bind_eq_returned_iff.mp ended
  cases plain
  obtain ⟨rendered, _, rendering, finished⟩ := Effect.bind_eq_returned_iff.mp rest
  cases finished
  rw [eq_asTexts_of_renderAll areIn (congrArg Prod.fst rendering)]

theorem eq_asMessage_of_expectedActual {expected actual : Json} {first second : Value}
    (isIn : expected.IsIn world first) (also : actual.IsIn world second) {message : String}
    (told : SpecError.expectedActual (world.view first) (world.view second) = .ok message) :
    message = asMessage expected actual := by
  rw [expectedActual_of_isIn isIn also] at told
  split at told <;> cases told
  rfl

end Told

/-- What is written of two tuples of JSON values, each of them held in a world, tells them
apart. -/
structure ToldApart (first second : World) (values others : List Value) (items also : List Json) :
    Prop where
  /-- Tuples are rendered as one text only if they are the same. -/
  rendered : ∀ text, (Action.renderAll values first).1 = .returned text →
    (Action.renderAll others second).1 = .returned text → items = also
  /-- The calls of a member with them have one label only if they are the same. -/
  labelled : ∀ (one other : ActionNode) (name : String) (label : Value),
    one.description = .text name → other.description = .text name →
      one.arguments = some values → other.arguments = some others →
        (one.label first).1 = .returned label → (other.label second).1 = .returned label →
          items = also
  /-- Pairs of an expected and an actual value have one message only if they are the same. -/
  worded : ∀ (expected actual further fact : Value) (message : String),
    values = [expected, actual] → others = [further, fact] →
      SpecError.expectedActual (first.view expected) (first.view actual) = .ok message →
        SpecError.expectedActual (second.view further) (second.view fact) = .ok message →
          items = also
  /-- The texts have none but printable ASCII characters. -/
  plain : ∀ text, (Action.renderAll values first).1 = .returned text →
    ∀ c ∈ text.toList, IsPlain c
  plainMessage : ∀ (expected actual : Value) (message : String), values = [expected, actual] →
    SpecError.expectedActual (first.view expected) (first.view actual) = .ok message →
      ∀ c ∈ message.toList, IsPlain c
  /-- Only the limit on the digits of an integer keeps a tuple from being rendered. -/
  returns : areWritable items → Action.renderAll values first = (.returned (asTexts items), first)
  /-- With no such limit, the texts and messages tell all values apart. -/
  unlimited : asTexts items = asTexts also → items = also
  unlimitedMessage : ∀ expected actual further fact : Json,
    asMessage expected actual = asMessage further fact → expected = further ∧ actual = fact

/-- All that is written of JSON values is unambiguous. -/
theorem toldApart {first second : World} {values others : List Value} {items also : List Json}
    (areIn : AreIn first items values) (areThere : AreIn second also others) :
    ToldApart first second values others items also where
  rendered text told same :=
    asTexts_inj ((eq_asTexts_of_renderAll areIn told).symm.trans
      (eq_asTexts_of_renderAll areThere same))
  labelled one other name label member alike called recalled told same := by
    have labels := (eq_of_label areIn member called told).symm.trans
      (eq_of_label areThere alike recalled same)
    have chars := congrArg String.toList (Value.text.inj labels)
    simp only [String.toList_append] at chars
    have texts := List.append_cancel_left (List.append_cancel_right chars)
    exact asTexts_inj (String.toList_inj.mp texts)
  worded expected actual further fact message pair couple told same := by
    subst pair couple
    obtain ⟨one, other, rfl, here, there⟩ := exists_pair areIn
    obtain ⟨two, another, rfl, isHere, isThere⟩ := exists_pair areThere
    have messages := (eq_asMessage_of_expectedActual here there told).symm.trans
      (eq_asMessage_of_expectedActual isHere isThere same)
    obtain ⟨rfl, rfl⟩ := asMessage_inj messages
    rfl
  plain text told := by
    rw [eq_asTexts_of_renderAll areIn told]
    exact isPlain_asTexts items
  plainMessage expected actual message pair told := by
    subst pair
    obtain ⟨one, other, rfl, here, there⟩ := exists_pair areIn
    rw [eq_asMessage_of_expectedActual here there told]
    exact isPlain_asMessage one other
  returns := renderAll_of_areWritable areIn
  unlimited := asTexts_inj
  unlimitedMessage _ _ _ _ := asMessage_inj

/-- A world with two lists of one text each. -/
def twoLists : World := { lists := #[[.text "a,\"b"], [.text "a,\"b"]] }

/-- Two calls with lists that are the same but for their names. -/
theorem toldApart_of_twoLists :
    let items : List Json := [.list [.text "a,\"b"], .null]
    let label : Value := .text "equal([\"a,\\\"b\"],null)"
    let node (place : Nat) : ActionNode :=
      { description := .text "equal", step := fun _ _ => pure .null, variant := .chainStep
        arguments := some [.list ⟨place⟩, .null] }
    AreIn twoLists items [.list ⟨0⟩, .null] ∧ AreIn twoLists items [.list ⟨1⟩, .null] ∧
      ((node 0).label twoLists).1 = .returned label ∧
      ((node 1).label twoLists).1 = .returned label ∧
      ToldApart twoLists twoLists [.list ⟨0⟩, .null] [.list ⟨1⟩, .null] items items := by
  intro items label node
  have listed (place : Nat) (there : twoLists.listAt ⟨place⟩ = [.text "a,\"b"]) :
      AreIn twoLists items [.list ⟨place⟩, .null] :=
    ⟨_, _, rfl, ⟨⟨place⟩, rfl, by rw [there]; exact ⟨_, _, rfl, rfl, rfl⟩⟩, _, _, rfl, rfl, rfl⟩
  exact ⟨listed 0 rfl, listed 1 rfl, rfl, rfl, toldApart (listed 0 rfl) (listed 1 rfl)⟩

end Json

end DeferredSpec
