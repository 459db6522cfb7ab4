/-
# Worlds that differ in names

Two worlds that grew out of the same world may hold the same things under different
references. A renaming tells which place of the one stands for which place of the other, and
which identity for which; what the first world held is named alike in both. Values are alike
if a renaming takes one to the other, with all that can be reached from them.
-/

import DeferredSpec.World.View

namespace DeferredSpec

namespace World

/-- Whether a place is one of the world. -/
def Has (world : World) : Place → Prop
  | .list ref => ref.index < world.lists.size
  | .table ref => ref.index < world.tables.size
  | .object ref => ref.index < world.objects.size
  | .error ref => ref.index < world.errors.size

/-- Things may have been added to a world, but what was there is as it was. -/
structure Grows (before after : World) : Prop where
  lists : ∀ index < before.lists.size, after.lists[index]? = before.lists[index]?
  tables : ∀ index < before.tables.size, after.tables[index]? = before.tables[index]?
  objects : ∀ index < before.objects.size, after.objects[index]? = before.objects[index]?
  errors : ∀ index < before.errors.size, after.errors[index]? = before.errors[index]?
  identities : before.identities ≤ after.identities

theorem lt_size_of_kept {α : Type} {before after : Array α}
    (kept : ∀ index < before.size, after[index]? = before[index]?) {index : Nat}
    (bound : index < before.size) : index < after.size := by
  have found := kept index bound
  rw [Array.getElem?_eq_getElem bound] at found
  exact (Array.getElem?_eq_some_iff.mp found).1

theorem getElem?_push_of_lt {α : Type} (cells : Array α) (cell : α) :
    ∀ index < cells.size, (cells.push cell)[index]? = cells[index]? := by
  intro index bound
  simp [Array.getElem?_push, Nat.ne_of_lt bound]

namespace Grows

variable {first second third : World}

protected theorem refl (world : World) : world.Grows world :=
  ⟨fun _ _ => rfl, fun _ _ => rfl, fun _ _ => rfl, fun _ _ => rfl, Nat.le_refl _⟩

protected theorem trans (early : first.Grows second) (late : second.Grows third) :
    first.Grows third where
  lists index bound := (late.lists index (lt_size_of_kept early.lists bound)).trans
    (early.lists index bound)
  tables index bound := (late.tables index (lt_size_of_kept early.tables bound)).trans
    (early.tables index bound)
  objects index bound := (late.objects index (lt_size_of_kept early.objects bound)).trans
    (early.objects index bound)
  errors index bound := (late.errors index (lt_size_of_kept early.errors bound)).trans
    (early.errors index bound)
  identities := Nat.le_trans early.identities late.identities

theorem has (grows : first.Grows second) {place : Place} (there : first.Has place) :
    second.Has place := by
  cases place with
  | list ref => exact lt_size_of_kept grows.lists there
  | table ref => exact lt_size_of_kept grows.tables there
  | object ref => exact lt_size_of_kept grows.objects there
  | error ref => exact lt_size_of_kept grows.errors there

theorem record (world : World) (entry : LogRecord) : world.Grows (world.record entry) :=
  { Grows.refl world with }

theorem newIdentity (world : World) : world.Grows world.newIdentity.2 :=
  { Grows.refl world with identities := Nat.le_succ _ }

theorem newError (cell : ErrorCell) (world : World) : world.Grows (world.newError cell).2 :=
  { Grows.refl world with errors := getElem?_push_of_lt world.errors cell }

theorem listAt (grows : first.Grows second) {ref : ListRef} (there : first.Has (.list ref)) :
    second.listAt ref = first.listAt ref := by
  rw [World.listAt, World.listAt, grows.lists ref.index there]

theorem tableAt (grows : first.Grows second) {ref : TableRef} (there : first.Has (.table ref)) :
    second.tableAt ref = first.tableAt ref := by
  rw [World.tableAt, World.tableAt, grows.tables ref.index there]

theorem objectAt (grows : first.Grows second) {ref : ObjectRef}
    (there : first.Has (.object ref)) : second.objectAt ref = first.objectAt ref := by
  rw [World.objectAt, World.objectAt, grows.objects ref.index there]

theorem errorAt (grows : first.Grows second) {ref : ErrorRef} (there : first.Has (.error ref)) :
    second.errorAt ref = first.errorAt ref := by
  rw [World.errorAt, World.errorAt, grows.errors ref.index there]

end Grows

end World

/-- Which names of one world stand for which of another. -/
structure Renaming where
  place : Place → Place → Prop
  identity : Nat → Nat → Prop

mutual

/-- Values that are the same but for the names in them. -/
inductive Value.Matches (names : Renaming) : Value → Value → Prop
  | null : Matches names .null .null
  | boolean (value : Bool) : Matches names (.boolean value) (.boolean value)
  | integer (value : Int) : Matches names (.integer value) (.integer value)
  | float (value : Binary64) : Matches names (.float value) (.float value)
  | text (value : String) : Matches names (.text value) (.text value)
  | bytes (value : List UInt8) : Matches names (.bytes value) (.bytes value)
  | tuple {items others : List Value} (all : Value.MatchesAll names items others) :
      Matches names (.tuple items) (.tuple others)
  | set {items others : List Value} (all : Value.MatchesAll names items others) :
      Matches names (.set items) (.set others)
  | list {ref other : ListRef} (place : names.place (.list ref) (.list other)) :
      Matches names (.list ref) (.list other)
  | table {ref other : TableRef} (place : names.place (.table ref) (.table other)) :
      Matches names (.table ref) (.table other)
  | view {one another : Nat} (kind : ViewKind) {ref other : TableRef}
      (identity : names.identity one another)
      (place : names.place (.table ref) (.table other)) :
      Matches names (.view one kind ref) (.view another kind other)
  | object {ref other : ObjectRef} (place : names.place (.object ref) (.object other)) :
      Matches names (.object ref) (.object other)
  | error {ref other : ErrorRef} (place : names.place (.error ref) (.error other)) :
      Matches names (.error ref) (.error other)
  | assertion {one another : Nat} {subject other : Value} (negated : Bool)
      (identity : names.identity one another) (inner : Value.Matches names subject other) :
      Matches names (.assertion one subject negated) (.assertion another other negated)
  | predicate {one another : Nat} (name : String) (identity : names.identity one another) :
      Matches names (.predicate one name) (.predicate another name)
  | type (tag : TypeTag) : Matches names (.type tag) (.type tag)
  | method {receiver other : Value} (name : String)
      (inner : Value.Matches names receiver other) :
      Matches names (.method receiver name) (.method other name)
  | code : Matches names .code .code

/-- Values that are the same one by one but for the names in them. -/
inductive Value.MatchesAll (names : Renaming) : List Value → List Value → Prop
  | nil : MatchesAll names [] []
  | cons {item other : Value} {items others : List Value}
      (head : Value.Matches names item other) (tail : Value.MatchesAll names items others) :
      MatchesAll names (item :: items) (other :: others)

end

/-- Kinds of errors that are the same but for the names in their details. -/
inductive ErrorKind.Matches (names : Renaming) : ErrorKind → ErrorKind → Prop
  | base : Matches names .base .base
  | expectationFailed {expected actual operator expected' actual' operator' : Value}
      (one : expected.Matches names expected') (two : actual.Matches names actual')
      (three : operator.Matches names operator') :
      Matches names (.expectationFailed expected actual operator)
        (.expectationFailed expected' actual' operator')
  | missingMember {owner member kind reason owner' member' kind' reason' : Value}
      (one : owner.Matches names owner') (two : member.Matches names member')
      (three : kind.Matches names kind') (four : reason.Matches names reason') :
      Matches names (.missingMember owner member kind reason)
        (.missingMember owner' member' kind' reason')
  | invocation {description recorded attempted description' recorded' attempted' : Value}
      (one : description.Matches names description')
      (two : recorded.Matches names recorded')
      (three : attempted.Matches names attempted') :
      Matches names (.invocation description recorded attempted)
        (.invocation description' recorded' attempted')
  | configuration {setting value reason setting' value' reason' : Value}
      (one : setting.Matches names setting') (two : value.Matches names value')
      (three : reason.Matches names reason') :
      Matches names (.configuration setting value reason)
        (.configuration setting' value' reason')
  | host (name : String) : Matches names (.host name) (.host name)

/-- Objects that are the same but for the names in them. -/
structure ObjectCell.Matches (names : Renaming) (one other : ObjectCell) : Prop where
  className : one.className = other.className
  fields : one.fields.map Prod.fst = other.fields.map Prod.fst
  values : Value.MatchesAll names (one.fields.map Prod.snd) (other.fields.map Prod.snd)
  texts : one.texts = other.texts
  shown : one.shown = other.shown
  misfit : one.misfit = other.misfit

/-- Errors that are the same but for the names in them. -/
structure ErrorCell.Matches (names : Renaming) (one other : ErrorCell) : Prop where
  kind : one.kind.Matches names other.kind
  arguments : Value.MatchesAll names one.arguments other.arguments
  cause : Value.MatchesAll names (one.cause.toList.map .error) (other.cause.toList.map .error)
  details : Value.MatchesAll names one.details other.details

namespace Renaming

/-- Two places of two worlds hold the same but for the names in it. -/
def SameContent (names : Renaming) (first second : World) : Place → Place → Prop
  | .list ref, .list other => Value.MatchesAll names (first.listAt ref) (second.listAt other)
  | .table ref, .table other =>
      Value.MatchesAll names ((first.tableAt ref).map Prod.fst)
          ((second.tableAt other).map Prod.fst) ∧
        Value.MatchesAll names ((first.tableAt ref).map Prod.snd)
          ((second.tableAt other).map Prod.snd)
  | .object ref, .object other => (first.objectAt ref).Matches names (second.objectAt other)
  | .error ref, .error other => (first.errorAt ref).Matches names (second.errorAt other)
  | _, _ => False

/-- A renaming relates two worlds that grew out of a base: it is one to one, it leaves the
names of the base alone, and places that it relates are there and hold the same. -/
structure Relates (names : Renaming) (base first second : World) : Prop where
  place_right : ∀ {here there other}, names.place here there → names.place here other →
    there = other
  place_left : ∀ {here there other}, names.place here there → names.place other there →
    here = other
  place_kept : ∀ {here there}, names.place here there → base.Has here ∨ base.Has there →
    here = there
  has : ∀ {here there}, names.place here there → first.Has here ∧ second.Has there
  content : ∀ {here there}, names.place here there →
    names.SameContent first second here there
  identity_right : ∀ {here there other}, names.identity here there →
    names.identity here other → there = other
  identity_left : ∀ {here there other}, names.identity here there →
    names.identity other there → here = other
  identity_kept : ∀ {here there}, names.identity here there →
    here < base.identities ∨ there < base.identities → here = there
  identity_taken : ∀ {here there}, names.identity here there →
    here < first.identities ∧ there < second.identities

/-- The renaming that relates nothing. -/
def none : Renaming := ⟨fun _ _ => False, fun _ _ => False⟩

theorem relates_none (base first second : World) : none.Relates base first second where
  place_right related := related.elim
  place_left related := related.elim
  place_kept related := related.elim
  has related := related.elim
  content related := related.elim
  identity_right related := related.elim
  identity_left related := related.elim
  identity_kept related := related.elim
  identity_taken related := related.elim

theorem SameContent.congr {names : Renaming} {first second later after : World}
    {here there : Place} (same : names.SameContent first second here there)
    (grown : first.Grows later) (also : second.Grows after) (has : first.Has here)
    (had : second.Has there) : names.SameContent later after here there := by
  cases here <;> cases there <;> first
    | exact same.elim
    | skip
  case list.list ref other =>
    simpa only [SameContent, grown.listAt has, also.listAt had] using same
  case table.table ref other =>
    simpa only [SameContent, grown.tableAt has, also.tableAt had] using same
  case object.object ref other =>
    simpa only [SameContent, grown.objectAt has, also.objectAt had] using same
  case error.error ref other =>
    simpa only [SameContent, grown.errorAt has, also.errorAt had] using same

/-- A renaming relates what the worlds grow into. -/
theorem Relates.grow {names : Renaming} {base first second later after : World}
    (relates : names.Relates base first second) (grown : first.Grows later)
    (also : second.Grows after) : names.Relates base later after where
  place_right := relates.place_right
  place_left := relates.place_left
  place_kept := relates.place_kept
  has related := ⟨grown.has (relates.has related).1, also.has (relates.has related).2⟩
  content related := (relates.content related).congr grown also (relates.has related).1
    (relates.has related).2
  identity_right := relates.identity_right
  identity_left := relates.identity_left
  identity_kept := relates.identity_kept
  identity_taken related :=
    ⟨Nat.lt_of_lt_of_le (relates.identity_taken related).1 grown.identities,
      Nat.lt_of_lt_of_le (relates.identity_taken related).2 also.identities⟩

/-- Another renaming relates all that this one does. -/
structure Within (names wider : Renaming) : Prop where
  place : ∀ {here there}, names.place here there → wider.place here there
  identity : ∀ {here there}, names.identity here there → wider.identity here there

end Renaming

namespace Value

variable {names wider : Renaming}

mutual

theorem Matches.widen (within : names.Within wider) :
    ∀ {one other : Value}, one.Matches names other → one.Matches wider other
  | _, _, .null => .null
  | _, _, .boolean value => .boolean value
  | _, _, .integer value => .integer value
  | _, _, .float value => .float value
  | _, _, .text value => .text value
  | _, _, .bytes value => .bytes value
  | _, _, .tuple all => .tuple (MatchesAll.widen within all)
  | _, _, .set all => .set (MatchesAll.widen within all)
  | _, _, .list place => .list (within.place place)
  | _, _, .table place => .table (within.place place)
  | _, _, .view kind identity place => .view kind (within.identity identity) (within.place place)
  | _, _, .object place => .object (within.place place)
  | _, _, .error place => .error (within.place place)
  | _, _, .assertion negated identity inner =>
      .assertion negated (within.identity identity) (Matches.widen within inner)
  | _, _, .predicate name identity => .predicate name (within.identity identity)
  | _, _, .type tag => .type tag
  | _, _, .method name inner => .method name (Matches.widen within inner)
  | _, _, .code => .code

theorem MatchesAll.widen (within : names.Within wider) :
    ∀ {items others : List Value}, MatchesAll names items others → MatchesAll wider items others
  | _, _, .nil => .nil
  | _, _, .cons head tail => .cons (Matches.widen within head) (MatchesAll.widen within tail)

end

end Value

section Widening

variable {names wider : Renaming}

theorem ErrorKind.Matches.widen (within : names.Within wider) {one other : ErrorKind}
    (same : one.Matches names other) : one.Matches wider other := by
  cases same with
  | base => exact .base
  | expectationFailed one two three =>
      exact .expectationFailed (one.widen within) (two.widen within) (three.widen within)
  | missingMember one two three four =>
      exact .missingMember (one.widen within) (two.widen within) (three.widen within)
        (four.widen within)
  | invocation one two three =>
      exact .invocation (one.widen within) (two.widen within) (three.widen within)
  | configuration one two three =>
      exact .configuration (one.widen within) (two.widen within) (three.widen within)
  | host name => exact .host name

theorem ErrorKind.Matches.isOrdinary {one other : ErrorKind} (same : one.Matches names other) :
    other.isOrdinary = one.isOrdinary := by
  cases same <;> rfl

theorem ErrorKind.Matches.isAssertionFailure {one other : ErrorKind}
    (same : one.Matches names other) : other.isAssertionFailure = one.isAssertionFailure := by
  cases same <;> rfl

theorem ErrorCell.Matches.widen (within : names.Within wider) {one other : ErrorCell}
    (same : one.Matches names other) : one.Matches wider other :=
  ⟨same.kind.widen within, same.arguments.widen within, same.cause.widen within,
    same.details.widen within⟩

theorem ObjectCell.Matches.widen (within : names.Within wider) {one other : ObjectCell}
    (same : one.Matches names other) : one.Matches wider other :=
  ⟨same.className, same.fields, same.values.widen within, same.texts, same.shown, same.misfit⟩

theorem Renaming.SameContent.widen (within : names.Within wider) {first second : World}
    {here there : Place} (same : names.SameContent first second here there) :
    wider.SameContent first second here there := by
  cases here <;> cases there <;> first
    | exact same.elim
    | skip
  case list.list ref other => exact Value.MatchesAll.widen within same
  case table.table ref other => exact ⟨same.1.widen within, same.2.widen within⟩
  case object.object ref other => exact ObjectCell.Matches.widen within same
  case error.error ref other => exact ErrorCell.Matches.widen within same

end Widening

namespace Renaming

variable {names : Renaming} {base first second : World}

/-- One more pair of errors stand for each other. -/
def withError (names : Renaming) (one other : ErrorRef) : Renaming :=
  { names with
    place := fun here there => names.place here there ∨ here = .error one ∧ there = .error other }

/-- One more pair of identities stand for each other. -/
def withIdentity (names : Renaming) (one other : Nat) : Renaming :=
  { names with
    identity := fun here there => names.identity here there ∨ here = one ∧ there = other }

theorem within_withError (names : Renaming) (one other : ErrorRef) :
    names.Within (names.withError one other) := ⟨.inl, id⟩

theorem within_withIdentity (names : Renaming) (one other : Nat) :
    names.Within (names.withIdentity one other) := ⟨id, .inl⟩

theorem not_has_newError (world : World) : ¬ world.Has (.error ⟨world.errors.size⟩) :=
  Nat.lt_irrefl _

/-- Two errors that are made alike stand for each other. -/
theorem Relates.newError (relates : names.Relates base first second) (grown : base.Grows first)
    (also : base.Grows second) {cell other : ErrorCell} (same : cell.Matches names other) :
    (names.withError ⟨first.errors.size⟩ ⟨second.errors.size⟩).Relates base
      (first.newError cell).2 (second.newError other).2 where
  place_right {here there other} related also := by
    rcases related with related | ⟨rfl, rfl⟩ <;> rcases also with also | ⟨rfl', rfl⟩
    · exact relates.place_right related also
    · subst rfl'
      exact absurd (relates.has related).1 (not_has_newError first)
    · exact absurd (relates.has also).1 (not_has_newError first)
    · rfl
  place_left {here there other} related also := by
    rcases related with related | ⟨rfl, rfl⟩ <;> rcases also with also | ⟨rfl, rfl'⟩
    · exact relates.place_left related also
    · subst rfl'
      exact absurd (relates.has related).2 (not_has_newError second)
    · exact absurd (relates.has also).2 (not_has_newError second)
    · rfl
  place_kept {here there} related old := by
    rcases related with related | ⟨rfl, rfl⟩
    · exact relates.place_kept related old
    · rcases old with old | old
      · exact absurd (grown.has old) (not_has_newError first)
      · exact absurd (also.has old) (not_has_newError second)
  has {here there} related := by
    rcases related with related | ⟨rfl, rfl⟩
    · exact ⟨(World.Grows.newError cell first).has (relates.has related).1,
        (World.Grows.newError other second).has (relates.has related).2⟩
    · simp [World.Has, World.newError]
  content {here there} related := by
    rcases related with related | ⟨rfl, rfl⟩
    · exact ((relates.content related).congr (.newError cell first) (.newError other second)
        (relates.has related).1 (relates.has related).2).widen (within_withError names _ _)
    · have one := World.errorAt_newError cell first
      have two := World.errorAt_newError other second
      simp only [World.newError] at one two
      simp only [SameContent, World.newError, one, two]
      exact same.widen (within_withError names _ _)
  identity_right := relates.identity_right
  identity_left := relates.identity_left
  identity_kept := relates.identity_kept
  identity_taken := relates.identity_taken

/-- Two identities that are taken at the same time stand for each other. -/
theorem Relates.newIdentity (relates : names.Relates base first second)
    (grown : base.Grows first) (also : base.Grows second) :
    (names.withIdentity first.identities second.identities).Relates base
      first.newIdentity.2 second.newIdentity.2 where
  place_right := relates.place_right
  place_left := relates.place_left
  place_kept := relates.place_kept
  has related := relates.has related
  content related := ((relates.content related).congr (.newIdentity first) (.newIdentity second)
    (relates.has related).1 (relates.has related).2).widen (within_withIdentity names _ _)
  identity_right {here there other} related also := by
    rcases related with related | ⟨rfl, rfl⟩ <;> rcases also with also | ⟨rfl', rfl⟩
    · exact relates.identity_right related also
    · exact absurd (relates.identity_taken related).1 (by omega)
    · exact absurd (relates.identity_taken also).1 (by omega)
    · rfl
  identity_left {here there other} related also := by
    rcases related with related | ⟨rfl, rfl⟩ <;> rcases also with also | ⟨rfl, rfl'⟩
    · exact relates.identity_left related also
    · exact absurd (relates.identity_taken related).2 (by omega)
    · exact absurd (relates.identity_taken also).2 (by omega)
    · rfl
  identity_kept {here there} related old := by
    rcases related with related | ⟨rfl, rfl⟩
    · exact relates.identity_kept related old
    · have one := grown.identities
      have two := also.identities
      omega
  identity_taken {here there} related := by
    rcases related with related | ⟨rfl, rfl⟩
    · have taken := relates.identity_taken related
      simp only [World.newIdentity]
      omega
    · simp [World.newIdentity]

end Renaming

/-- Two values in two worlds are alike, seen from a base that both worlds grew out of. -/
def Alike (base first : World) (one : Value) (second : World) (other : Value) : Prop :=
  ∃ names : Renaming, names.Relates base first second ∧ one.Matches names other

namespace Alike

variable {base first second later after : World} {one other : Value}

/-- Nothing is alike nothing. -/
theorem null (base first second : World) : Alike base first .null second .null :=
  ⟨.none, Renaming.relates_none base first second, .null⟩

/-- What is alike stays alike when the worlds grow. -/
theorem grow (alike : Alike base first one second other) (grown : first.Grows later)
    (also : second.Grows after) : Alike base later one after other := by
  obtain ⟨names, relates, same⟩ := alike
  exact ⟨names, relates.grow grown also, same⟩

/-- Errors that are alike are of the same kind and hold the same. -/
theorem errorAt {error another : ErrorRef}
    (alike : Alike base first (.error error) second (.error another)) :
    ∃ names : Renaming, names.Relates base first second ∧
      (first.errorAt error).Matches names (second.errorAt another) := by
  obtain ⟨names, relates, same⟩ := alike
  cases same with
  | error place => exact ⟨names, relates, relates.content place⟩

/-- Errors that are alike are there. -/
theorem has {error another : ErrorRef}
    (alike : Alike base first (.error error) second (.error another)) :
    first.Has (.error error) ∧ second.Has (.error another) := by
  obtain ⟨names, relates, same⟩ := alike
  cases same with
  | error place => exact relates.has place

theorem isAssertionFailure {error another : ErrorRef}
    (alike : Alike base first (.error error) second (.error another)) :
    second.isAssertionFailure another = first.isAssertionFailure error := by
  obtain ⟨names, relates, same⟩ := alike.errorAt
  exact same.kind.isAssertionFailure

/-- Errors made from cells that hold the same are alike. -/
theorem newError {names : Renaming} (relates : names.Relates base first second)
    (grown : base.Grows first) (also : base.Grows second) {cell another : ErrorCell}
    (same : cell.Matches names another) :
    Alike base (first.newError cell).2 (.error ⟨first.errors.size⟩)
      (second.newError another).2 (.error ⟨second.errors.size⟩) :=
  ⟨_, relates.newError grown also same, .error (.inr ⟨rfl, rfl⟩)⟩

end Alike

end DeferredSpec
