/-
# Order of values

Two values relate from the right as they relate from the left, only the other way round. Of
sequences the first unequal pair decides, so this rests on equality being symmetric; where the
deciding pair has no common order, it has none from either side. What lies inside itself is
entered again equally deep from both sides.

Sets and NaNs may be unrelated, and then no comparison holds of them. All other values that
have a common order are ordered one way or the other, and so are sequences of them.
-/

import DeferredSpec.Proofs.Equality

namespace DeferredSpec

namespace OrderTest

/-- The comparison with its sides exchanged. -/
def mirror : OrderTest → OrderTest
  | .below => .above
  | .atMost => .atLeast
  | .above => .below
  | .atLeast => .atMost

/-- The comparison that holds of ordered values just where the other one does not. -/
def complement : OrderTest → OrderTest
  | .below => .atLeast
  | .atMost => .above
  | .above => .atMost
  | .atLeast => .below

theorem accepts_complement (test : OrderTest) (relation : Ordering) :
    test.complement.accepts (some relation) = !test.accepts (some relation) := by
  cases relation <;> cases test <;> rfl

theorem accepts_mirror (test : OrderTest) (relation : Option Ordering) :
    test.mirror.accepts (relation.map Ordering.swap) = test.accepts relation := by
  rcases relation with _ | _ | _ | _ <;> cases test <;> rfl

end OrderTest

namespace Snapshot

/-- The types in the other order. -/
def Incomparable.swap (types : Incomparable) : Incomparable := ⟨types.right, types.left⟩

theorem relateNumbers_swap (first second : Option Extended) :
    relateNumbers second first = (relateNumbers first second).map Ordering.swap := by
  rcases first with _ | a <;> rcases second with _ | b <;> try rfl
  cases below : a.lt b with
  | true => simp [relateNumbers, below, Extended.lt_asymm below]
  | false => cases above : b.lt a <;> simp [relateNumbers, below, above]

theorem relateTexts_swap (first second : String) :
    relateTexts second first = (relateTexts first second).swap := by
  unfold relateTexts
  by_cases below : first < second
  · rw [if_pos below, if_neg (String.lt_asymm below), if_pos below]
    rfl
  · by_cases above : second < first
    · rw [if_pos above, if_neg below, if_pos above]
      rfl
    · rw [if_neg above, if_neg below, if_neg below, if_neg above]
      rfl

theorem relateBytes_swap : ∀ first second : List UInt8,
    relateBytes second first = (relateBytes first second).swap
  | [], [] => rfl
  | [], _ :: _ => rfl
  | _ :: _, [] => rfl
  | a :: as, b :: bs => by
      rw [relateBytes, relateBytes]
      by_cases below : a < b
      · rw [if_pos below, if_neg (UInt8.lt_asymm below), if_pos below]
        rfl
      · by_cases above : b < a
        · rw [if_pos above, if_neg below, if_pos above]
          rfl
        · rw [if_neg above, if_neg below, if_neg below, if_neg above]
          exact relateBytes_swap as bs

theorem relateSets_swap (first second : List Snapshot) :
    relateSets second first = (relateSets first second).map Ordering.swap := by
  unfold relateSets
  cases includes second first <;> cases includes first second <;> rfl

/-- A relation with its sides exchanged. -/
def mirrored : Except Incomparable (Option Ordering) → Except Incomparable (Option Ordering)
  | .ok relation => .ok (relation.map Ordering.swap)
  | .error types => .error types.swap

mutual

/-- Sound values relate from either side alike, only the other way round. -/
theorem relate_swap : ∀ (first second : Snapshot), first.isSound = true → second.isSound = true →
    relate second first = mirrored (relate first second)
  | first, second, sound, alsoSound => by
      rw [relate.eq_def second first]
      split
      · rw [relate, relateTexts_swap]
        rfl
      · rw [relate, relateBytes_swap]
        rfl
      · rw [relate]
        exact relateAll_swap sound alsoSound
      · rw [relate]
        exact relateAll_swap sound alsoSound
      · rename_i notTexts notBytes notTuples notLists
        rw [relate]
        · cases first.number? <;> cases second.number? <;> cases first.setMembers? <;>
            cases second.setMembers? <;>
              first
              | rfl
              | exact congrArg Except.ok (relateNumbers_swap _ _)
              | exact congrArg Except.ok (relateSets_swap _ _)
        · exact fun a b left right => notTexts b a right left
        · exact fun a b left right => notBytes b a right left
        · exact fun xs ys left right => notTuples ys xs right left
        · exact fun r xs s ys left right => notLists s ys r xs right left

/-- The pair that decides is the same from either side, for its members are unequal from both. -/
theorem relateAll_swap : ∀ {firsts seconds : List Snapshot}, areSound firsts = true →
    areSound seconds = true → relateAll seconds firsts = mirrored (relateAll firsts seconds)
  | [], [], _, _ => by simp [relateAll, mirrored]
  | [], _ :: _, _, _ => by simp [relateAll, mirrored]
  | _ :: _, [], _, _ => by simp [relateAll, mirrored]
  | first :: firsts, second :: seconds, sound, alsoSound => by
      rw [areSound, Bool.and_eq_true] at sound alsoSound
      rw [relateAll, relateAll, equals_comm sound.1 alsoSound.1]
      split
      · exact relateAll_swap sound.2 alsoSound.2
      · exact relate_swap first second sound.1 alsoSound.1

end

/-- Entering the lists that lie inside themselves keeps what a sequence has just when all its
members have it. -/
theorem unrolled_of_members (good : Snapshot → Prop)
    (tuple : ∀ items, good (.tuple items) ↔ ∀ item ∈ items, good item)
    (list : ∀ ref items, good (.list ref items) ↔ ∀ item ∈ items, good item) :
    ∀ (depth : Nat) {around : List Snapshot} {value : Snapshot},
      (∀ outer ∈ around, good outer) → good value → good (value.unrolled depth around)
  | 0, around, value, _, holds => by
      cases value <;> exact holds
  | depth + 1, around, value, outside, holds => by
      cases value with
      | tuple items =>
          refine (tuple _).mpr (List.forall_mem_map.mpr fun item held => ?_)
          exact unrolled_of_members good tuple list depth outside ((tuple items).mp holds item held)
      | list ref items =>
          refine (list ref _).mpr (List.forall_mem_map.mpr fun item held => ?_)
          exact unrolled_of_members good tuple list depth
            (List.forall_mem_cons.mpr ⟨holds, outside⟩) ((list ref items).mp holds item held)
      | cycle container =>
          rw [unrolled]
          split
          · rename_i ref items found
            have outer := (list ref items).mp (outside _ (List.mem_of_find?_eq_some found))
            refine (list ref _).mpr (List.forall_mem_map.mpr fun item held => ?_)
            exact unrolled_of_members good tuple list depth outside (outer item held)
          · exact holds
      | _ => exact holds

theorem isSound_unrolled {value : Snapshot} (depth : Nat) (sound : value.isSound = true) :
    (value.unrolled depth []).isSound = true :=
  unrolled_of_members (fun value => value.isSound = true) (fun _ => areSound_iff)
    (fun _ _ => areSound_iff) depth (List.forall_mem_nil _) sound

theorem meetingDepth_comm (first second : Snapshot) :
    second.meetingDepth first = first.meetingDepth second := by
  unfold meetingDepth
  cases first.depth? <;> cases second.depth? <;> first | rfl | exact Nat.mul_comm _ _

/-- What is asked of two values in one order can be asked in the other order as well: the
answer is the same, and where the one has none, neither has the other. -/
theorem compare_mirror (test : OrderTest) {first second : Snapshot} (sound : first.isSound = true)
    (alsoSound : second.isSound = true) :
    second.compare test.mirror first = (first.compare test second).mapError Incomparable.swap := by
  rw [compare, compare, meetingDepth_comm,
    relate_swap _ _ (isSound_unrolled _ sound) (isSound_unrolled _ alsoSound)]
  cases relate (first.unrolled (first.meetingDepth second) [])
      (second.unrolled (first.meetingDepth second) []) with
  | ok relation => exact congrArg Except.ok (test.accepts_mirror relation)
  | error types => rfl

theorem comparisonFault?_mirror (test : OrderTest) (first second : Snapshot) :
    second.comparisonFault? test.mirror first = first.comparisonFault? test second := by
  cases test <;> rfl

mutual

/-- Whether all numbers that a comparison of sequences reaches have a place on the line, and no
sets are among the members: what is left is ordered without gaps. -/
def isLinear : Snapshot → Bool
  | .tuple items => areLinear items
  | .list _ items => areLinear items
  | .float value => value.toExtended?.isSome
  | .set _ => false
  | .view _ kind _ => !kind.isSetLike
  | _ => true

/-- Whether several values are linear. -/
def areLinear : List Snapshot → Bool
  | [] => true
  | item :: items => isLinear item && areLinear items

end

theorem areLinear_iff {items : List Snapshot} :
    areLinear items = true ↔ ∀ item ∈ items, item.isLinear = true := by
  induction items with
  | nil => simp [areLinear]
  | cons item items ih => simp [areLinear, ih]

theorem isLinear_unrolled {value : Snapshot} (depth : Nat) (linear : value.isLinear = true) :
    (value.unrolled depth []).isLinear = true :=
  unrolled_of_members (fun value => value.isLinear = true) (fun _ => areLinear_iff)
    (fun _ _ => areLinear_iff) depth (List.forall_mem_nil _) linear

/-- A linear number has a place. -/
theorem isSome_of_number? {value : Snapshot} {point : Option Extended}
    (linear : value.isLinear = true) (known : value.number? = some point) :
    ∃ place, point = some place := by
  cases value with
  | boolean | integer => exact ⟨_, (Option.some.inj known).symm⟩
  | float => exact Option.some.inj known ▸ Option.isSome_iff_exists.mp linear
  | _ => cases known

theorem setMembers?_of_isLinear {value : Snapshot} (linear : value.isLinear = true) :
    value.setMembers? = none := by
  cases shown : value.setMembers? with
  | none => rfl
  | some items =>
      obtain rfl | ⟨_, kind, setLike, rfl⟩ := setMembers?_eq_some shown
      · cases linear
      · rw [isLinear, setLike] at linear
        cases linear

mutual

/-- Linear values that have a common order are ordered one way or the other. -/
theorem relate_of_isLinear {first second : Snapshot} (linear : first.isLinear = true)
    (alsoLinear : second.isLinear = true) : relate first second ≠ .ok none := by
  unfold relate
  split
  · nofun
  · nofun
  · exact relateAll_of_areLinear linear alsoLinear
  · exact relateAll_of_areLinear linear alsoLinear
  · rw [setMembers?_of_isLinear linear]
    split
    · rename_i left right
      obtain ⟨a, rfl⟩ := isSome_of_number? linear left
      obtain ⟨b, rfl⟩ := isSome_of_number? alsoLinear right
      nofun
    · contradiction
    · nofun

/-- Behind equal pairs there is a deciding pair of linear values or a difference in length. -/
theorem relateAll_of_areLinear {firsts seconds : List Snapshot} (linear : areLinear firsts = true)
    (alsoLinear : areLinear seconds = true) : relateAll firsts seconds ≠ .ok none := by
  match firsts, seconds with
  | [], [] => simp [relateAll]
  | [], _ :: _ => simp [relateAll]
  | _ :: _, [] => simp [relateAll]
  | first :: firsts, second :: seconds =>
      rw [areLinear, Bool.and_eq_true] at linear alsoLinear
      rw [relateAll]
      split
      · exact relateAll_of_areLinear linear.2 alsoLinear.2
      · exact relate_of_isLinear linear.1 alsoLinear.1

end

/-- Of linear values that can be compared, a comparison holds just if its complement does not. -/
theorem compare_complement (test : OrderTest) {first second : Snapshot}
    (linear : first.isLinear = true) (alsoLinear : second.isLinear = true) :
    first.compare test.complement second = (first.compare test second).map (! ·) := by
  have ordered := relate_of_isLinear
    (isLinear_unrolled (first.meetingDepth second) linear)
    (isLinear_unrolled (first.meetingDepth second) alsoLinear)
  rw [compare, compare]
  revert ordered
  cases relate (first.unrolled (first.meetingDepth second) [])
      (second.unrolled (first.meetingDepth second) []) with
  | error types => exact fun _ => rfl
  | ok relation =>
      cases relation with
      | none => exact fun ordered => absurd rfl ordered
      | some relation => exact fun _ => congrArg Except.ok (test.accepts_complement relation)

theorem inclusionFault?_of_isLinear (fits : Nat → Nat → Bool) {parts : Snapshot}
    (whole : Snapshot) (linear : parts.isLinear = true) :
    inclusionFault? fits parts whole = none := by
  unfold inclusionFault?
  split
  · cases linear
  · cases linear
  · rfl

theorem comparisonFault?_of_isLinear (test : OrderTest) {first second : Snapshot}
    (linear : first.isLinear = true) (alsoLinear : second.isLinear = true) :
    first.comparisonFault? test second = none := by
  cases test with
  | below | atMost =>
      rw [comparisonFault?]
      exact inclusionFault?_of_isLinear _ _ linear
  | above | atLeast =>
      rw [comparisonFault?]
      exact inclusionFault?_of_isLinear _ _ alsoLinear

end Snapshot

end DeferredSpec
