/-
# Equality of values

Equality goes through containers, and meets the members of sets and the entries of tables in
whatever order they lie. That it is symmetric is therefore a matter of counting: each value of
one side has an equal one on the other side, no two of them the same one, and there are as many
on both sides. What tells two members of a set apart is an identity that equal values share.
-/

import DeferredSpec.Operation.Membership

namespace DeferredSpec

namespace Extended

theorem lt_asymm : ∀ {a b : Extended}, a.lt b = true → b.lt a = false
  | .bottom, .rational _, _ => rfl
  | .bottom, .top, _ => rfl
  | .rational _, .top, _ => rfl
  | .rational _, .rational _, below =>
      decide_eq_false (Rat.not_lt.mpr (Rat.le_of_lt (of_decide_eq_true below)))

/-- Points none of which lies below the other are the same. -/
theorem eq_of_not_lt : ∀ {a b : Extended}, a.lt b = false → b.lt a = false → a = b
  | .bottom, .bottom, _, _ => rfl
  | .top, .top, _, _ => rfl
  | .rational _, .rational _, above, below =>
      congrArg rational (Rat.le_antisymm (Rat.not_lt.mp (of_decide_eq_false below))
        (Rat.not_lt.mp (of_decide_eq_false above)))

theorem lt_self (a : Extended) : a.lt a = false := by
  cases below : a.lt a with
  | false => rfl
  | true => exact below.symm.trans (lt_asymm below)

end Extended

/-- What a value that can be a key is told apart by. A tuple is the identity of its first
member in front of those of the others. -/
inductive Identity
  | number (point : Extended)
  | nan (payload : Nat)
  | null
  | text (value : String)
  | bytes (value : List UInt8)
  | nil
  | cons (first rest : Identity)
  | object (ref : ObjectRef)
  | error (ref : ErrorRef)
  | assertion (identity : Nat)
  | predicate (identity : Nat)
  | type (tag : TypeTag)
  | method (receiver : Identity) (name : String)
  | code
  deriving DecidableEq, Repr

namespace Snapshot

/-- Numbers are the same point or compare as unequal, from either side. -/
theorem relateNumbers_eq_iff {first second : Option Extended} :
    relateNumbers first second = some .eq ↔ ∃ point, first = some point ∧ second = some point := by
  constructor
  · intro equal
    rcases first with _ | a
    · cases equal
    rcases second with _ | b
    · cases equal
    by_cases below : a.lt b = true
    · simp [relateNumbers, below] at equal
    by_cases above : b.lt a = true
    · simp [relateNumbers, below, above] at equal
    exact ⟨a, rfl, congrArg some (Extended.eq_of_not_lt (Bool.eq_false_iff.mpr below)
      (Bool.eq_false_iff.mpr above)).symm⟩
  · rintro ⟨point, rfl, rfl⟩
    simp [relateNumbers, Extended.lt_self]

/-- The identity of a value that is no number and is compared without looking at others. -/
def atom? : Snapshot → Option Identity
  | .null => some .null
  | .float (.nan payload) => some (.nan payload)
  | .text value => some (.text value)
  | .bytes value => some (.bytes value)
  | .object ref .. => some (.object ref)
  | .error ref .. => some (.error ref)
  | .assertion identity .. => some (.assertion identity)
  | .predicate identity _ => some (.predicate identity)
  | .type tag => some (.type tag)
  | .code => some .code
  | _ => none

/-- The container that a value is, whether it is entered or not. -/
def container? : Snapshot → Option ContainerRef
  | .list ref _ => some (.list ref)
  | .table ref _ => some (.table ref)
  | .cycle container => some container
  | _ => none

/-- The ways in which two values inside a container are equal. -/
inductive Coincide : Snapshot → Snapshot → Prop
  | number {a b : Snapshot} {point : Extended} (left : a.number? = some (some point))
      (right : b.number? = some (some point)) : Coincide a b
  | atom {a b : Snapshot} {identity : Identity} (left : a.atom? = some identity)
      (right : b.atom? = some identity) : Coincide a b
  | container {a b : Snapshot} {container : ContainerRef} (left : a.container? = some container)
      (right : b.container? = some container) : Coincide a b
  | tuple {xs ys : List Snapshot} (members : equalsAll xs ys = true) :
      Coincide (.tuple xs) (.tuple ys)
  | list {r s : ListRef} {xs ys : List Snapshot} (members : equalsAll xs ys = true) :
      Coincide (.list r xs) (.list s ys)
  | table {r s : TableRef} {xs ys : List (Snapshot × Snapshot)} (sizes : xs.length = ys.length)
      (entries : includesEntries ys xs = true) : Coincide (.table r xs) (.table s ys)
  | members {a b : Snapshot} {xs ys : List Snapshot} (left : a.setMembers? = some xs)
      (right : b.setMembers? = some ys) (sizes : xs.length = ys.length)
      (members : includes ys xs = true) : Coincide a b
  | view {identity : Nat} {kind other : ViewKind} {xs ys : List Snapshot} :
      Coincide (.view identity kind xs) (.view identity other ys)
  | method {a b : Snapshot} {name : String} (receivers : equals true a b = true) :
      Coincide (.method a name) (.method b name)

theorem setMembers?_view {identity : Nat} {kind : ViewKind} {items : List Snapshot}
    (setLike : kind.isSetLike = true) :
    (view identity kind items).setMembers? = some items :=
  if_pos setLike

/-- Equality is decided by the first way that fits, one case for each of them. -/
theorem coincide_of_equals {a b : Snapshot} (same : equals true a b = true) : Coincide a b := by
  unfold equals at same
  split at same
  · exact .atom rfl rfl
  · obtain rfl := eq_of_beq same
    exact .atom rfl rfl
  · obtain rfl := eq_of_beq same
    exact .atom rfl rfl
  · exact .tuple same
  · obtain ⟨sizes, members⟩ := Bool.and_eq_true_iff.mp same
    exact .members rfl rfl (eq_of_beq sizes) members
  · obtain ⟨fits, members⟩ := Bool.and_eq_true_iff.mp same
    obtain ⟨setLike, sizes⟩ := Bool.and_eq_true_iff.mp fits
    exact .members rfl (setMembers?_view setLike) (eq_of_beq sizes) members
  · obtain ⟨fits, members⟩ := Bool.and_eq_true_iff.mp same
    obtain ⟨setLike, sizes⟩ := Bool.and_eq_true_iff.mp fits
    exact .members (setMembers?_view setLike) rfl (eq_of_beq sizes) members
  · rcases Bool.or_eq_true_iff.mp same with same | same
    · obtain rfl := eq_of_beq same
      exact .view
    · obtain ⟨fits, members⟩ := Bool.and_eq_true_iff.mp same
      obtain ⟨setLike, sizes⟩ := Bool.and_eq_true_iff.mp fits
      obtain ⟨left, right⟩ := Bool.and_eq_true_iff.mp setLike
      exact .members (setMembers?_view left) (setMembers?_view right) (eq_of_beq sizes) members
  · rcases Bool.or_eq_true_iff.mp same with same | members
    · obtain rfl := eq_of_beq same
      exact .container rfl rfl
    · exact .list members
  · rcases Bool.or_eq_true_iff.mp same with same | same
    · obtain rfl := eq_of_beq same
      exact .container rfl rfl
    · obtain ⟨sizes, entries⟩ := Bool.and_eq_true_iff.mp same
      exact .table (eq_of_beq sizes) entries
  -- containers of which one is not entered, and then values with a reference of their own
  iterate 5
    · obtain rfl := eq_of_beq same
      exact .container rfl rfl
  iterate 5
    · obtain rfl := eq_of_beq same
      exact .atom rfl rfl
  · obtain ⟨names, receivers⟩ := Bool.and_eq_true_iff.mp same
    obtain rfl := eq_of_beq names
    exact .method receivers
  · exact .atom rfl rfl
  · obtain rfl := eq_of_beq same
    exact .atom rfl rfl
  · split at same
    · rename_i left right
      obtain ⟨point, rfl, rfl⟩ := relateNumbers_eq_iff.mp (eq_of_beq same)
      exact .number left right
    · cases same

theorem equals_of_number? {a b : Snapshot} {point : Extended}
    (left : a.number? = some (some point)) (right : b.number? = some (some point)) :
    equals true a b = true := by
  unfold equals
  split
  case h_24 =>
    rw [left, right]
    exact beq_iff_eq.mpr (relateNumbers_eq_iff.mpr ⟨point, rfl, rfl⟩)
  all_goals cases left

theorem equals_of_atom? {a b : Snapshot} {identity : Identity} (left : a.atom? = some identity)
    (right : b.atom? = some identity) : equals true a b = true := by
  unfold atom? at left right
  split at left <;> cases left <;> split at right <;> cases right <;> simp [equals]

theorem setMembers?_eq_some {value : Snapshot} {items : List Snapshot}
    (shown : value.setMembers? = some items) :
    value = .set items ∨
      ∃ identity kind, kind.isSetLike = true ∧ value = .view identity kind items := by
  unfold setMembers? at shown
  split at shown
  · cases shown
    exact .inl rfl
  · split at shown
    · rename_i setLike
      cases shown
      exact .inr ⟨_, _, setLike, rfl⟩
    · cases shown
  · cases shown

theorem equals_of_coincide {a b : Snapshot} (same : Coincide a b) : equals true a b = true := by
  cases same with
  | number left right => exact equals_of_number? left right
  | atom left right => exact equals_of_atom? left right
  | container left right =>
      cases a <;> cases left <;> cases b <;> cases right <;> simp [equals]
  | tuple members => simpa only [equals] using members
  | list members => simp only [equals, members, Bool.or_true]
  | table sizes entries => simp [equals, sizes, entries]
  | members left right sizes members =>
      obtain rfl | ⟨_, _, setLike, rfl⟩ := setMembers?_eq_some left <;>
        obtain rfl | ⟨_, _, alsoSetLike, rfl⟩ := setMembers?_eq_some right <;>
        simp [equals, *]
  | view => simp [equals]
  | method receivers => simp [equals, receivers]

mutual

/-- The identity of a value that can be a key. -/
def identity? : Snapshot → Option Identity
  | .tuple items => identities? items
  | .method receiver name => (identity? receiver).map (.method · name)
  | value =>
      match value.number? with
      | some (some point) => some (.number point)
      | _ => value.atom?

/-- The identity of the tuple of several values. -/
def identities? : List Snapshot → Option Identity
  | [] => some .nil
  | item :: items => (identity? item).bind fun first => (identities? items).map (.cons first)

end

theorem identity?_of_number? {value : Snapshot} {point : Extended}
    (known : value.number? = some (some point)) : value.identity? = some (.number point) := by
  cases value
  case boolean | integer | float => rw [identity?, known] <;> nofun
  all_goals cases known

theorem identity?_of_atom? {value : Snapshot} {identity : Identity}
    (known : value.atom? = some identity) : value.identity? = some identity := by
  unfold atom? at known
  split at known <;> cases known <;> rfl

theorem identity?_of_container? {value : Snapshot} {container : ContainerRef}
    (known : value.container? = some container) : value.identity? = none := by
  cases value <;> cases known <;> rfl

theorem identity?_of_setMembers? {value : Snapshot} {items : List Snapshot}
    (shown : value.setMembers? = some items) : value.identity? = none := by
  obtain rfl | ⟨_, _, _, rfl⟩ := setMembers?_eq_some shown <;> rfl

mutual

/-- A value that equals one with an identity has this identity. -/
theorem identity?_of_equals : ∀ {first second : Snapshot} {identity : Identity},
    first.identity? = some identity → equals true first second = true →
      second.identity? = some identity
  | first, second, identity, known, same => by
      cases coincide_of_equals same with
      | number left right =>
          rw [identity?_of_number? left] at known
          rw [identity?_of_number? right, known]
      | atom left right =>
          rw [identity?_of_atom? left] at known
          rw [identity?_of_atom? right, known]
      | container left _ =>
          rw [identity?_of_container? left] at known
          cases known
      | tuple members => exact identities?_of_equalsAll known members
      | list | table | view => cases known
      | members left =>
          rw [identity?_of_setMembers? left] at known
          cases known
      | method receivers =>
          obtain ⟨receiver, found, rfl⟩ := Option.map_eq_some_iff.mp known
          exact Option.map_eq_some_iff.mpr ⟨receiver, identity?_of_equals found receivers, rfl⟩

theorem identities?_of_equalsAll : ∀ {firsts seconds : List Snapshot} {identity : Identity},
    identities? firsts = some identity → equalsAll firsts seconds = true →
      identities? seconds = some identity
  | [], [], _, known, _ => known
  | [], _ :: _, _, _, same => by simp only [equalsAll, Bool.false_eq_true] at same
  | _ :: _, [], _, _, same => by simp only [equalsAll, Bool.false_eq_true] at same
  | first :: firsts, second :: seconds, _, known, same => by
      rw [equalsAll, Bool.and_eq_true] at same
      obtain ⟨head, found, further⟩ := Option.bind_eq_some_iff.mp known
      obtain ⟨tail, foundAll, rfl⟩ := Option.map_eq_some_iff.mp further
      rw [identities?, identity?_of_equals found same.1,
        identities?_of_equalsAll foundAll same.2]
      rfl

end

/-- The identity of the key in front of an entry that is shown as a pair. -/
def keyIdentity? : Snapshot → Option Identity
  | .tuple (key :: _) => key.identity?
  | _ => none

/-- An entry that equals another one has the same key. -/
theorem keyIdentity?_of_equals {first second : Snapshot} {identity : Identity}
    (known : first.keyIdentity? = some identity) (same : equals true first second = true) :
    second.keyIdentity? = some identity := by
  unfold keyIdentity? at known
  split at known
  · rename_i key rest
    cases coincide_of_equals same with
    | number left | atom left | container left | members left => cases left
    | @tuple _ seconds members =>
        cases seconds with
        | nil => simp only [equalsAll, Bool.false_eq_true] at members
        | cons other others =>
            rw [equalsAll, Bool.and_eq_true] at members
            exact identity?_of_equals known members.1
  · cases known

end Snapshot

/-- Whether all values have an identity and no two of them share one. -/
def Identity.tellApart (identities : List (Option Identity)) : Bool :=
  identities.all Option.isSome && decide identities.Nodup

namespace Snapshot

mutual

/-- Whether the members of every set and the keys of every table that a comparison reaches
can be keys and differ from one another. -/
def isSound : Snapshot → Bool
  | .tuple items => areSound items
  | .list _ items => areSound items
  | .set items => areSound items && Identity.tellApart (items.map identity?)
  | .table _ entries =>
      areSoundEntries entries && Identity.tellApart (entries.map fun entry => entry.1.identity?)
  | .view _ .keys items => areSound items && Identity.tellApart (items.map identity?)
  | .view _ .items items => areSound items && Identity.tellApart (items.map keyIdentity?)
  | .view _ .values items => areSound items
  | .method receiver _ => isSound receiver
  | _ => true

/-- Whether several values are sound. -/
def areSound : List Snapshot → Bool
  | [] => true
  | item :: items => isSound item && areSound items

/-- Whether the keys and the values of several entries are sound. -/
def areSoundEntries : List (Snapshot × Snapshot) → Bool
  | [] => true
  | (key, value) :: entries => isSound key && isSound value && areSoundEntries entries

end

theorem areSound_iff {items : List Snapshot} :
    areSound items = true ↔ ∀ item ∈ items, item.isSound = true := by
  induction items with
  | nil => simp [areSound]
  | cons item items ih => simp [areSound, ih]

theorem areSoundEntries_iff {entries : List (Snapshot × Snapshot)} :
    areSoundEntries entries = true ↔
      ∀ entry ∈ entries, entry.1.isSound = true ∧ entry.2.isSound = true := by
  induction entries with
  | nil => simp [areSoundEntries]
  | cons entry entries ih => simp [areSoundEntries, ih, and_assoc]

theorem includes_iff {whole parts : List Snapshot} :
    includes whole parts = true ↔ ∀ x ∈ parts, ∃ y ∈ whole, equals true x y = true := by
  induction parts with
  | nil => simp [includes]
  | cons part parts ih => simp [includes, ih]

theorem includesEntries_iff {whole entries : List (Snapshot × Snapshot)} :
    includesEntries whole entries = true ↔
      ∀ x ∈ entries, ∃ y ∈ whole, equals true x.1 y.1 = true ∧ equals true x.2 y.2 = true := by
  induction entries with
  | nil => simp [includesEntries]
  | cons entry entries ih =>
      obtain ⟨key, value⟩ := entry
      simp [includesEntries, ih]

/-- Where identities tell the members of a list apart, and are shared by related values, no
value is related to two of the members. -/
theorem pairwise_of_tellApart {α : Type} {label : α → Option Identity} {related : α → α → Prop}
    {items : List α} (apart : Identity.tellApart (items.map label) = true)
    (shared : ∀ x y identity, label x = some identity → related x y → label y = some identity) :
    items.Pairwise fun x other => ∀ y, related x y → ¬ related other y := by
  obtain ⟨present, distinct⟩ := Bool.and_eq_true_iff.mp apart
  have known : ∀ x ∈ items, ∃ identity, label x = some identity := by
    simpa [Option.isSome_iff_exists] using present
  refine (List.pairwise_map.mp (of_decide_eq_true distinct)).imp_of_mem ?_
  intro x other held alsoHeld differ y toFirst toOther
  obtain ⟨identity, found⟩ := known x held
  obtain ⟨second, alsoFound⟩ := known other alsoHeld
  apply differ
  rw [found, alsoFound, ← shared x y identity found toFirst,
    ← shared other y second alsoFound toOther]

/-- Where each of some values is related to one of at most as many others, and no two of them
to the same one, each of the others is met. -/
theorem exists_of_related {α β : Type} {related : α → β → Prop} : ∀ {xs : List α} {ys : List β},
    ys.length ≤ xs.length → (xs.Pairwise fun x other => ∀ y, related x y → ¬ related other y) →
      (∀ x ∈ xs, ∃ y ∈ ys, related x y) → ∀ y ∈ ys, ∃ x ∈ xs, related x y
  | [], ys, sizes, _, _, y, held => by
      obtain rfl := List.eq_nil_of_length_eq_zero (Nat.le_zero.mp sizes)
      cases held
  | x :: xs, ys, sizes, apart, meet, y, held => by
      obtain ⟨met, among, toFirst⟩ := meet x List.mem_cons_self
      obtain ⟨before, after, rfl⟩ := List.append_of_mem among
      obtain ⟨alone, apart⟩ := List.pairwise_cons.mp apart
      have rest : ∀ x ∈ xs, ∃ y ∈ before ++ after, related x y := by
        intro other alsoHeld
        obtain ⟨y, held, toOther⟩ := meet other (List.mem_cons_of_mem x alsoHeld)
        refine ⟨y, ?_, toOther⟩
        rcases List.mem_append.mp held with held | held
        · exact List.mem_append_left after held
        · rcases List.mem_cons.mp held with rfl | held
          · exact absurd toOther (alone other alsoHeld y toFirst)
          · exact List.mem_append_right before held
      have sizes : (before ++ after).length ≤ xs.length := by
        simp only [List.length_append, List.length_cons] at sizes ⊢
        omega
      by_cases same : y = met
      · subst same
        exact ⟨x, List.mem_cons_self, toFirst⟩
      · have held : y ∈ before ++ after := by
          simpa [same] using held
        obtain ⟨other, alsoHeld, toOther⟩ := exists_of_related sizes apart rest y held
        exact ⟨other, List.mem_cons_of_mem x alsoHeld, toOther⟩

theorem pairwise_of_setMembers? {value : Snapshot} {items : List Snapshot}
    (sound : value.isSound = true) (shown : value.setMembers? = some items) :
    items.Pairwise fun x other => ∀ y, equals true x y = true → ¬ equals true other y = true := by
  have byIdentity : Identity.tellApart (items.map identity?) = true → _ := fun apart =>
    pairwise_of_tellApart apart fun _ _ _ => identity?_of_equals
  have byKey : Identity.tellApart (items.map keyIdentity?) = true → _ := fun apart =>
    pairwise_of_tellApart apart fun _ _ _ => keyIdentity?_of_equals
  obtain rfl | ⟨_, kind, setLike, rfl⟩ := setMembers?_eq_some shown
  · exact byIdentity (Bool.and_eq_true_iff.mp sound).2
  · cases kind with
    | keys => exact byIdentity (Bool.and_eq_true_iff.mp sound).2
    | items => exact byKey (Bool.and_eq_true_iff.mp sound).2
    | values => cases setLike

theorem isSound_of_setMembers? {value : Snapshot} {items : List Snapshot}
    (sound : value.isSound = true) (shown : value.setMembers? = some items) :
    ∀ item ∈ items, item.isSound = true := by
  apply areSound_iff.mp
  obtain rfl | ⟨_, kind, setLike, rfl⟩ := setMembers?_eq_some shown
  · exact (Bool.and_eq_true_iff.mp sound).1
  · cases kind with
    | keys | items => exact (Bool.and_eq_true_iff.mp sound).1
    | values => cases setLike

theorem sizeOf_lt_of_setMembers? {value : Snapshot} {items : List Snapshot}
    (shown : value.setMembers? = some items) {item : Snapshot} (held : item ∈ items) :
    sizeOf item < sizeOf value := by
  have smaller := List.sizeOf_lt_of_mem held
  obtain rfl | ⟨_, _, _, rfl⟩ := setMembers?_eq_some shown
  · rw [set.sizeOf_spec]
    omega
  · rw [view.sizeOf_spec]
    omega

theorem sizeOf_lt_of_entry (ref : TableRef) {entries : List (Snapshot × Snapshot)}
    {key value : Snapshot} (held : (key, value) ∈ entries) :
    sizeOf key < sizeOf (table ref entries) ∧ sizeOf value < sizeOf (table ref entries) := by
  have smaller : 1 + sizeOf key + sizeOf value < sizeOf entries := List.sizeOf_lt_of_mem held
  rw [table.sizeOf_spec]
  omega

/-- No entry equals two of the entries of a sound table. -/
theorem pairwise_of_isSound_table {ref : TableRef} {entries : List (Snapshot × Snapshot)}
    (sound : (table ref entries).isSound = true) :
    entries.Pairwise fun x other => ∀ y : Snapshot × Snapshot,
      equals true x.1 y.1 = true ∧ equals true x.2 y.2 = true →
        ¬ (equals true other.1 y.1 = true ∧ equals true other.2 y.2 = true) :=
  pairwise_of_tellApart (Bool.and_eq_true_iff.mp sound).2
    fun _ _ _ known same => identity?_of_equals known same.1

mutual

/-- Equality of sound values is symmetric. -/
theorem equals_symm {first second : Snapshot} (sound : first.isSound = true)
    (alsoSound : second.isSound = true) (same : equals true first second = true) :
    equals true second first = true := by
  apply equals_of_coincide
  cases coincide_of_equals same with
  | number left right => exact .number right left
  | atom left right => exact .atom right left
  | container left right => exact .container right left
  | view => exact .view
  | method receivers => exact .method (equals_symm sound alsoSound receivers)
  | tuple members => exact .tuple (equalsAll_symm sound alsoSound members)
  | list members => exact .list (equalsAll_symm sound alsoSound members)
  | @table r s xs ys sizes entries =>
      refine .table sizes.symm (includesEntries_iff.mpr ?_)
      intro y held
      obtain ⟨⟨key, value⟩, alsoHeld, keys, values⟩ := exists_of_related
        (Nat.le_of_eq sizes.symm) (pairwise_of_isSound_table sound)
        (includesEntries_iff.mp entries) y held
      have ofFirst := areSoundEntries_iff.mp (Bool.and_eq_true_iff.mp sound).1 _ alsoHeld
      have ofSecond := areSoundEntries_iff.mp (Bool.and_eq_true_iff.mp alsoSound).1 y held
      obtain ⟨smallerKey, smallerValue⟩ := sizeOf_lt_of_entry r alsoHeld
      exact ⟨(key, value), alsoHeld, equals_symm ofFirst.1 ofSecond.1 keys,
        equals_symm ofFirst.2 ofSecond.2 values⟩
  | @members _ _ xs ys left right sizes members =>
      refine .members right left sizes.symm (includes_iff.mpr ?_)
      intro y held
      obtain ⟨x, alsoHeld, related⟩ := exists_of_related (Nat.le_of_eq sizes.symm)
        (pairwise_of_setMembers? sound left) (includes_iff.mp members) y held
      have smaller := sizeOf_lt_of_setMembers? left alsoHeld
      exact ⟨x, alsoHeld, equals_symm (isSound_of_setMembers? sound left x alsoHeld)
        (isSound_of_setMembers? alsoSound right y held) related⟩
termination_by sizeOf first

theorem equalsAll_symm {firsts seconds : List Snapshot} (sound : areSound firsts = true)
    (alsoSound : areSound seconds = true) (same : equalsAll firsts seconds = true) :
    equalsAll seconds firsts = true := by
  cases firsts with
  | nil =>
      cases seconds with
      | nil => exact same
      | cons => simp only [equalsAll, Bool.false_eq_true] at same
  | cons first firsts =>
      cases seconds with
      | nil => simp only [equalsAll, Bool.false_eq_true] at same
      | cons second seconds =>
          rw [equalsAll, Bool.and_eq_true] at same ⊢
          rw [areSound, Bool.and_eq_true] at sound alsoSound
          exact ⟨equals_symm sound.1 alsoSound.1 same.1,
            equalsAll_symm sound.2 alsoSound.2 same.2⟩
termination_by sizeOf firsts

end

/-- Either of two sound values equals the other one or neither does. -/
theorem equals_comm {first second : Snapshot} (sound : first.isSound = true)
    (alsoSound : second.isSound = true) : equals true second first = equals true first second :=
  Bool.eq_iff_iff.mpr ⟨equals_symm alsoSound sound, equals_symm sound alsoSound⟩

end Snapshot

end DeferredSpec
