/-
# What is alike the same is alike

Two values that are alike a third one in another world are alike each other: a name of the one
stands for that name of the other which stands for the same name of the third.
-/

import DeferredSpec.Proofs.Likeness.Renaming

namespace DeferredSpec

/-- Names stand for each other if the same name elsewhere stands for both. -/
def Renaming.across (names others : Renaming) : Renaming where
  place here there := ∃ middle, names.place middle here ∧ others.place middle there
  identity here there := ∃ middle, names.identity middle here ∧ others.identity middle there

section Contents

variable {names others : Renaming}

mutual

theorem Value.Matches.across : ∀ {origin one two : Value},
    origin.Matches names one → origin.Matches others two → one.Matches (names.across others) two
  | _, _, _, .null, .null => .null
  | _, _, _, .boolean value, .boolean _ => .boolean value
  | _, _, _, .integer value, .integer _ => .integer value
  | _, _, _, .float value, .float _ => .float value
  | _, _, _, .text value, .text _ => .text value
  | _, _, _, .bytes value, .bytes _ => .bytes value
  | _, _, _, .tuple all, .tuple also => .tuple (all.across also)
  | _, _, _, .set all, .set also => .set (all.across also)
  | _, _, _, .list place, .list also => .list ⟨_, place, also⟩
  | _, _, _, .table place, .table also => .table ⟨_, place, also⟩
  | _, _, _, .view kind identity place, .view _ same also =>
      .view kind ⟨_, identity, same⟩ ⟨_, place, also⟩
  | _, _, _, .object place, .object also => .object ⟨_, place, also⟩
  | _, _, _, .error place, .error also => .error ⟨_, place, also⟩
  | _, _, _, .assertion negated identity inner, .assertion _ same also =>
      .assertion negated ⟨_, identity, same⟩ (inner.across also)
  | _, _, _, .predicate name identity, .predicate _ same => .predicate name ⟨_, identity, same⟩
  | _, _, _, .type tag, .type _ => .type tag
  | _, _, _, .method name inner, .method _ also => .method name (inner.across also)
  | _, _, _, .code, .code => .code

theorem Value.MatchesAll.across : ∀ {origin one two : List Value},
    MatchesAll names origin one → MatchesAll others origin two →
      MatchesAll (names.across others) one two
  | _, _, _, .nil, .nil => .nil
  | _, _, _, .cons head tail, .cons first rest => .cons (head.across first) (tail.across rest)

end

theorem ErrorKind.Matches.across {origin one two : ErrorKind} (same : origin.Matches names one)
    (also : origin.Matches others two) : one.Matches (names.across others) two := by
  cases same with
  | base =>
      cases also
      exact .base
  | host name =>
      cases also
      exact .host name
  | expectationFailed one two three =>
      cases also with
      | expectationFailed four five six =>
          exact .expectationFailed (one.across four) (two.across five) (three.across six)
  | missingMember one two three four =>
      cases also with
      | missingMember five six seven eight =>
          exact .missingMember (one.across five) (two.across six) (three.across seven)
            (four.across eight)
  | invocation one two three =>
      cases also with
      | invocation four five six =>
          exact .invocation (one.across four) (two.across five) (three.across six)
  | configuration one two three =>
      cases also with
      | configuration four five six =>
          exact .configuration (one.across four) (two.across five) (three.across six)

theorem ErrorCell.Matches.across {origin one two : ErrorCell} (same : origin.Matches names one)
    (also : origin.Matches others two) : one.Matches (names.across others) two :=
  ⟨same.kind.across also.kind, same.arguments.across also.arguments,
    same.cause.across also.cause, same.details.across also.details⟩

theorem ObjectCell.Matches.across {origin one two : ObjectCell} (same : origin.Matches names one)
    (also : origin.Matches others two) : one.Matches (names.across others) two :=
  ⟨same.className.symm.trans also.className, same.fields.symm.trans also.fields,
    same.values.across also.values, same.texts.symm.trans also.texts,
    same.shown.symm.trans also.shown, same.misfit.symm.trans also.misfit⟩

theorem Renaming.SameContent.across {origin first second : World} {middle here there : Place}
    (same : names.SameContent origin first middle here)
    (also : others.SameContent origin second middle there) :
    (names.across others).SameContent first second here there := by
  cases middle <;> cases here <;> first
    | exact same.elim
    | (cases there <;> first
        | exact also.elim
        | skip)
  case list.list.list => exact Value.MatchesAll.across same also
  case table.table.table => exact ⟨same.1.across also.1, same.2.across also.2⟩
  case object.object.object => exact ObjectCell.Matches.across same also
  case error.error.error => exact ErrorCell.Matches.across same also

end Contents

/-- Two worlds that are related to a third one are related to each other. -/
theorem Renaming.Relates.across {names others : Renaming} {base origin first second : World}
    (relates : names.Relates base origin first) (also : others.Relates base origin second) :
    (names.across others).Relates base first second where
  place_right := by
    rintro here there other ⟨middle, one, two⟩ ⟨further, three, four⟩
    obtain rfl := relates.place_left one three
    exact also.place_right two four
  place_left := by
    rintro here there other ⟨middle, one, two⟩ ⟨further, three, four⟩
    obtain rfl := also.place_left two four
    exact relates.place_right one three
  place_kept := by
    rintro here there ⟨middle, one, two⟩ (old | old)
    · obtain rfl := relates.place_kept one (.inr old)
      exact also.place_kept two (.inl old)
    · obtain rfl := also.place_kept two (.inr old)
      exact (relates.place_kept one (.inl old)).symm
  has := by
    rintro here there ⟨middle, one, two⟩
    exact ⟨(relates.has one).2, (also.has two).2⟩
  content := by
    rintro here there ⟨middle, one, two⟩
    exact (relates.content one).across (also.content two)
  identity_right := by
    rintro here there other ⟨middle, one, two⟩ ⟨further, three, four⟩
    obtain rfl := relates.identity_left one three
    exact also.identity_right two four
  identity_left := by
    rintro here there other ⟨middle, one, two⟩ ⟨further, three, four⟩
    obtain rfl := also.identity_left two four
    exact relates.identity_right one three
  identity_kept := by
    rintro here there ⟨middle, one, two⟩ (old | old)
    · obtain rfl := relates.identity_kept one (.inr old)
      exact also.identity_kept two (.inl old)
    · obtain rfl := also.identity_kept two (.inr old)
      exact (relates.identity_kept one (.inl old)).symm
  identity_taken := by
    rintro here there ⟨middle, one, two⟩
    exact ⟨(relates.identity_taken one).2, (also.identity_taken two).2⟩

/-- Values that are alike the same one are alike. -/
theorem Alike.across {base origin first second : World} {value one other : Value}
    (alike : Alike base origin value first one) (also : Alike base origin value second other) :
    Alike base first one second other := by
  obtain ⟨names, relates, same⟩ := alike
  obtain ⟨others, joins, equal⟩ := also
  exact ⟨names.across others, relates.across joins, same.across equal⟩

end DeferredSpec
