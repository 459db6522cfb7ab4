/-
# Worlds that differ in names look the same

A value that another world holds under other names looks the same there. Its view follows
references, and the worlds may be of any size: a view enters each place once at most, so it
never comes to the end of its depth, and where it meets a place that it has entered, so does
the other view.
-/

import DeferredSpec.Proofs.Likeness.Looks
import DeferredSpec.Proofs.Likeness.Renaming
import Mathlib.Data.List.Nodup
import Mathlib.Data.List.Perm.Subperm

namespace DeferredSpec

namespace Snapshot

theorem viewed_nameless (kind : ViewKind) (value : Snapshot) :
    value.nameless.viewed kind = (value.viewed kind).map nameless := by
  cases value with
  | table ref entries =>
      rw [nameless]
      cases kind <;> simp [viewed, namelessEntries_eq_map, namelessAll, nameless]
  | cycle container => cases container <;> rfl
  | _ => rfl

end Snapshot

namespace Value

open Snapshot

variable {names : Renaming} {f g : Place → Snapshot}

theorem resolveAll_eq_map (follow : Place → Snapshot) (items : List Value) :
    resolveAll follow items = items.map (resolve follow) := by
  induction items with
  | nil => rfl
  | cons item items ih => rw [resolveAll, ih, List.map_cons]

mutual

/-- Values that are the same but for names look the same if the places they refer to do. -/
theorem Matches.resolve
    (agree : ∀ here there, names.place here there → (f here).nameless = (g there).nameless) :
    ∀ {one other : Value}, one.Matches names other →
      (one.resolve f).nameless = (other.resolve g).nameless
  | _, _, .null => rfl
  | _, _, .boolean _ => rfl
  | _, _, .integer _ => rfl
  | _, _, .float _ => rfl
  | _, _, .text _ => rfl
  | _, _, .bytes _ => rfl
  | _, _, .type _ => rfl
  | _, _, .code => rfl
  | _, _, .predicate _ _ => rfl
  | _, _, .tuple all => congrArg Snapshot.tuple (all.resolveAll agree)
  | _, _, .set all => congrArg Snapshot.set (all.resolveAll agree)
  | _, _, .list place => agree _ _ place
  | _, _, .table place => agree _ _ place
  | _, _, .view kind _ place => by
      have same := congrArg (Snapshot.viewed kind) (agree _ _ place)
      rw [viewed_nameless, viewed_nameless, ← namelessAll_eq_map, ← namelessAll_eq_map] at same
      exact congrArg (Snapshot.view 0 kind) same
  | _, _, .object place => agree _ _ place
  | _, _, .error place => agree _ _ place
  | _, _, .assertion negated _ inner =>
      congrArg (Snapshot.assertion 0 · negated) (inner.resolve agree)
  | _, _, .method name inner => congrArg (Snapshot.method · name) (inner.resolve agree)

theorem MatchesAll.resolveAll
    (agree : ∀ here there, names.place here there → (f here).nameless = (g there).nameless) :
    ∀ {items others : List Value}, MatchesAll names items others →
      namelessAll (Value.resolveAll f items) = namelessAll (Value.resolveAll g others)
  | _, _, .nil => rfl
  | _, _, .cons head tail => congrArg₂ List.cons (head.resolve agree) (tail.resolveAll agree)

end

/-- Values that are the same but for names look the same one by one. -/
theorem MatchesAll.map_resolve
    (agree : ∀ here there, names.place here there → (f here).nameless = (g there).nameless)
    {items others : List Value} (all : MatchesAll names items others) :
    items.map (fun item => (item.resolve f).nameless) =
      others.map fun other => (other.resolve g).nameless := by
  have same := all.resolveAll agree
  rwa [resolveAll_eq_map, resolveAll_eq_map, namelessAll_eq_map, namelessAll_eq_map,
    List.map_map, List.map_map] at same

end Value

section Cells

variable {names : Renaming}

theorem ErrorKind.Matches.className {one other : ErrorKind} (same : one.Matches names other) :
    one.className = other.className := by
  cases same <;> rfl

/-- Errors of the same kind have the same fields, which hold the same but for names. -/
theorem ErrorKind.Matches.fields {one other : ErrorKind} (same : one.Matches names other) :
    one.fields.map Prod.fst = other.fields.map Prod.fst ∧
      Value.MatchesAll names (one.fields.map Prod.snd) (other.fields.map Prod.snd) := by
  cases same with
  | base => exact ⟨rfl, .nil⟩
  | host name => exact ⟨rfl, .nil⟩
  | expectationFailed one two three => exact ⟨rfl, .cons one (.cons two (.cons three .nil))⟩
  | missingMember one two three four =>
      exact ⟨rfl, .cons one (.cons two (.cons three (.cons four .nil)))⟩
  | invocation one two three => exact ⟨rfl, .cons one (.cons two (.cons three .nil))⟩
  | configuration one two three => exact ⟨rfl, .cons one (.cons two (.cons three .nil))⟩

/-- What is found under a name is the same but for names. -/
theorem Value.MatchesAll.lookup (name : String) :
    ∀ {fields others : List (String × Value)},
      fields.map Prod.fst = others.map Prod.fst →
      Value.MatchesAll names (fields.map Prod.snd) (others.map Prod.snd) →
      ((fields.lookup name).getD .null).Matches names ((others.lookup name).getD .null)
  | [], [], _, _ => .null
  | (key, value) :: fields, (other, held) :: others, same, .cons head tail => by
      simp only [List.map_cons, List.cons.injEq] at same
      obtain ⟨rfl, rest⟩ := same
      rw [List.lookup_cons, List.lookup_cons]
      cases name == key with
      | true => exact head
      | false => exact Value.MatchesAll.lookup name rest tail

end Cells

namespace World

/-- All places of a world. -/
def places (world : World) : List Place :=
  (List.range world.lists.size).map (fun index => .list ⟨index⟩) ++
    (List.range world.tables.size).map (fun index => .table ⟨index⟩) ++
    (List.range world.objects.size).map (fun index => .object ⟨index⟩) ++
    (List.range world.errors.size).map fun index => .error ⟨index⟩

theorem length_places (world : World) : world.places.length = world.size := by
  simp [places, size, Nat.add_assoc]

theorem mem_places {world : World} {place : Place} (there : world.Has place) :
    place ∈ world.places := by
  cases place <;> (simp [places]; exact ⟨_, there, rfl⟩)

/-- No more places are entered than there are. -/
theorem length_le_size {world : World} {entered : List Place} (distinct : entered.Nodup)
    (there : ∀ place ∈ entered, world.Has place) : entered.length ≤ world.size := by
  rw [← length_places]
  exact (List.subperm_of_subset distinct fun place member =>
    mem_places (there place member)).length_le

/-- Marks of places that stand for each other look the same. -/
theorem marker_nameless {names : Renaming} {first second : World} {here there : Place}
    (same : names.SameContent first second here there) :
    (first.marker here).nameless = (second.marker there).nameless := by
  cases here <;> cases there <;> first
    | exact same.elim
    | rfl
    | skip
  case object.object ref other => 
    have cells : (first.objectAt ref).Matches names (second.objectAt other) := same
    simp only [marker, Snapshot.nameless, cells.className]
  case error.error ref other =>
    have cells : (first.errorAt ref).Matches names (second.errorAt other) := same
    simp only [marker, Snapshot.nameless, cells.kind.className]

/-- The snapshot of a place that is entered, given those of what it refers to. -/
def showing (world : World) (inner : Value → Snapshot) : Place → Snapshot
  | .list ref => .list ref ((world.listAt ref).map inner)
  | .table ref =>
      .table ref ((world.tableAt ref).map fun entry => (inner entry.1, inner entry.2))
  | .object ref =>
      let cell := world.objectAt ref
      .object ref cell.className cell.texts
        (cell.shown.map fun name => inner ((cell.field? name).getD .null)) cell.misfit
  | .error ref =>
      let cell := world.errorAt ref
      .error ref cell.kind.className (cell.arguments.map inner)
        (cell.kind.fields.map fun field => (field.1, inner field.2))
        (cell.details.map inner)
        (cell.cause.toList.map fun cause => inner (.error cause))

theorem follow_succ (world : World) (depth : Nat) (entered : List Place) (place : Place) :
    world.follow (depth + 1) entered place =
      if entered.contains place then world.marker place
      else world.showing (Value.resolve (world.follow depth (place :: entered))) place := by
  cases place <;> rfl

/-- Pairs of which the first and the second parts match are shown alike. -/
theorem map_pair_eq {α β γ δ : Type} {entries others : List (α × β)} {f g : α → γ}
    {h k : β → δ}
    (first : (entries.map Prod.fst).map f = (others.map Prod.fst).map g)
    (second : (entries.map Prod.snd).map h = (others.map Prod.snd).map k) :
    entries.map (fun entry => (f entry.1, h entry.2)) =
      others.map fun entry => (g entry.1, k entry.2) := by
  simp only [List.map_map, Function.comp_def] at first second
  rw [← List.zip_map', ← List.zip_map', first, second]

/-- Places that stand for each other look the same if what they refer to does. -/
theorem showing_nameless {names : Renaming} {first second : World} {f g : Place → Snapshot}
    (agree : ∀ here there, names.place here there → (f here).nameless = (g there).nameless)
    {here there : Place} (same : names.SameContent first second here there) :
    (first.showing (Value.resolve f) here).nameless =
      (second.showing (Value.resolve g) there).nameless := by
  have shown : ∀ {items others : List Value}, Value.MatchesAll names items others →
      Snapshot.namelessAll (items.map (Value.resolve f)) =
        Snapshot.namelessAll (others.map (Value.resolve g)) := by
    intro items others all
    rw [← Value.resolveAll_eq_map, ← Value.resolveAll_eq_map]
    exact all.resolveAll agree
  cases here <;> cases there <;> first
    | exact same.elim
    | skip
  case list.list ref other => exact congrArg (Snapshot.list ⟨0⟩) (shown same)
  case table.table ref other =>
    obtain ⟨keys, values⟩ := same
    simp only [showing, Snapshot.nameless, Snapshot.namelessEntries_eq_map, List.map_map]
    exact congrArg (Snapshot.table ⟨0⟩)
      (map_pair_eq (keys.map_resolve agree) (values.map_resolve agree))
  case object.object ref other =>
    have cells : (first.objectAt ref).Matches names (second.objectAt other) := same
    simp only [showing, Snapshot.nameless, Snapshot.namelessAll_eq_map, List.map_map,
      cells.className, cells.texts, cells.shown, cells.misfit]
    refine congrArg (fun shown => Snapshot.object ⟨0⟩ _ _ shown _) (List.map_congr_left ?_)
    intro name _
    exact (Value.MatchesAll.lookup name cells.fields cells.values).resolve agree
  case error.error ref other =>
    have cells : (first.errorAt ref).Matches names (second.errorAt other) := same
    obtain ⟨labels, held⟩ := cells.kind.fields
    have fields : Snapshot.namelessFields ((first.errorAt ref).kind.fields.map fun field =>
          (field.1, Value.resolve f field.2)) =
        Snapshot.namelessFields ((second.errorAt other).kind.fields.map fun field =>
          (field.1, Value.resolve g field.2)) := by
      simp only [Snapshot.namelessFields_eq_map, List.map_map]
      exact map_pair_eq (congrArg (List.map id) labels) (held.map_resolve agree)
    have causes := shown cells.cause
    rw [List.map_map, List.map_map] at causes
    simp only [showing, Snapshot.nameless, cells.kind.className, shown cells.arguments, fields,
      shown cells.details]
    exact congrArg (Snapshot.error ⟨0⟩ _ _ _ _) causes

variable {names : Renaming} {base first second : World}

/-- A place is entered just if the place that it stands for is. -/
theorem contains_eq (relates : names.Relates base first second) {pairs : List (Place × Place)}
    (entered : ∀ pair ∈ pairs, names.place pair.1 pair.2) {here there : Place}
    (related : names.place here there) :
    (pairs.map Prod.fst).contains here = (pairs.map Prod.snd).contains there := by
  rw [Bool.eq_iff_iff, List.contains_iff_mem, List.contains_iff_mem, List.mem_map, List.mem_map]
  constructor
  · rintro ⟨pair, member, rfl⟩
    exact ⟨pair, member, relates.place_right (entered pair member) related⟩
  · rintro ⟨pair, member, rfl⟩
    exact ⟨pair, member, relates.place_left (entered pair member) related⟩

/-- Places that stand for each other look the same. No view comes to the end of its depth, for
it enters each place once at most. -/
theorem follow_nameless (relates : names.Relates base first second) {depth further : Nat}
    (pairs : List (Place × Place)) (entered : ∀ pair ∈ pairs, names.place pair.1 pair.2)
    (distinct : (pairs.map Prod.fst).Nodup) (different : (pairs.map Prod.snd).Nodup)
    (enough : first.size < depth + pairs.length) (plenty : second.size < further + pairs.length)
    {here there : Place} (related : names.place here there) :
    (first.follow depth (pairs.map Prod.fst) here).nameless =
      (second.follow further (pairs.map Prod.snd) there).nameless := by
  induction depth generalizing further pairs here there with
  | zero =>
      have bound := length_le_size distinct fun place member => by
        obtain ⟨pair, listed, rfl⟩ := List.mem_map.mp member
        exact (relates.has (entered pair listed)).1
      rw [List.length_map] at bound
      omega
  | succ depth ih =>
      cases further with
      | zero =>
          have bound := length_le_size different fun place member => by
            obtain ⟨pair, listed, rfl⟩ := List.mem_map.mp member
            exact (relates.has (entered pair listed)).2
          rw [List.length_map] at bound
          omega
      | succ further =>
          have same := relates.content related
          have contained := contains_eq relates entered related
          rw [follow_succ, follow_succ, ← contained]
          split
          · exact marker_nameless same
          · next apart =>
            have fresh : here ∉ pairs.map Prod.fst := fun member =>
              apart (List.contains_iff_mem.mpr member)
            have also : there ∉ pairs.map Prod.snd := fun member =>
              apart (contained.trans (List.contains_iff_mem.mpr member))
            refine showing_nameless (fun left right pair => ?_) same
            refine ih ((here, there) :: pairs) ?_ (List.nodup_cons.mpr ⟨fresh, distinct⟩)
              (List.nodup_cons.mpr ⟨also, different⟩) ?_ ?_ pair
            · rw [List.forall_mem_cons]
              exact ⟨related, entered⟩
            · rw [List.length_cons]
              omega
            · rw [List.length_cons]
              omega

/-- What can be told of a value without its names. -/
def looks (world : World) (value : Value) : Snapshot := (world.view value).nameless

/-- Values that are the same but for names look the same. -/
theorem looks_eq (relates : names.Relates base first second) {one other : Value}
    (same : one.Matches names other) : first.looks one = second.looks other := by
  refine same.resolve fun here there related => ?_
  exact follow_nameless relates [] (fun _ member => nomatch member) List.nodup_nil
    List.nodup_nil (Nat.lt_succ_self _) (Nat.lt_succ_self _) related

end World

/-- What is alike looks the same. -/
theorem Alike.looks {base first second : World} {one other : Value}
    (alike : Alike base first one second other) : first.looks one = second.looks other := by
  obtain ⟨names, relates, same⟩ := alike
  exact World.looks_eq relates same

end DeferredSpec
