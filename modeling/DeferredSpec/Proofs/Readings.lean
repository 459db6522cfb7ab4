/-
# Members that are read twice

`property` finds out whether a member is there by one reading, and what it is by another. What
would be expected of it is that it reads the member once, and that this reading tells both. The
two come to the same for a subject that cannot be shown, and for a member that is steady: a
second reading gives what the first gave, and leaves the world alone. They differ for every
other member.
-/

import DeferredSpec.Proofs.Checks

namespace DeferredSpec

/-- Worlds that come to the same by giving away one more identity are the same. -/
theorem World.newIdentity_injective {world later : World}
    (same : world.newIdentity = later.newIdentity) : world = later := by
  cases world
  cases later
  simp_all [newIdentity]

namespace CallPredicate

/-- What is found about a member that was looked up. -/
def judge (rendered : String) (name : Value) (rest : List Value) (there : Bool)
    (member : Value) : Action Finding :=
  match rest with
  | value :: _ => do
      let holds ← if there then member.isEqual value else pure false
      let shown ← Action.display name
      let other ← Action.render value
      pure ⟨holds, "expected " ++ rendered ++ " to have property " ++ shown ++ " of " ++ other,
        "expected " ++ rendered ++ " not to have property " ++ shown ++ " of " ++ other,
        value, member, property.name⟩
  | [] => do
      let shown ← Action.display name
      pure ⟨there, "expected " ++ rendered ++ " to have property " ++ shown,
        "expected " ++ rendered ++ " not to have property " ++ shown,
        name, if there then name else .null, property.name⟩

/-- What `property` does with a way to look the member up: what was looked up decides whether it
is there, is compared and reported, and is what the chain goes on with. -/
def propertyBy (look : Action (Bool × Value)) (subject : Value) (negated : Bool) (name : Value)
    (rest : List Value) : Action Value := do
  let rendered ← Action.render subject
  let (there, member) ← look
  let finding ← judge rendered name rest there member
  finding.settle negated
  AssertionEngine.expectation member

section Looks

variable {look other : Action (Bool × Value)} {subject member : Value} {name rendered : String}
  {world later : World} {there : Bool}

/-- What a call comes to is what the look-up makes of it, in the world in which it is made. -/
theorem propertyBy_congr (same : look world = other world) (negated : Bool) (name : Value)
    (rest : List Value) :
    propertyBy look subject negated name rest world =
      propertyBy other subject negated name rest world := by
  rw [propertyBy, propertyBy, Effect.bind_apply, Effect.bind_apply]
  rcases shown : Action.render subject world with ⟨outcome, later⟩
  cases outcome with
  | raised error => rfl
  | returned rendered =>
      obtain rfl := Action.onlyAsks_render subject world rendered later shown
      simp only [Effect.bind_apply, same]

/-- An error of the look-up ends the call. -/
theorem propertyBy_of_raised (shown : Action.render subject world = (.returned rendered, world))
    {error : ErrorRef} (looked : look world = (.raised error, later)) (negated : Bool)
    (name : Value) (rest : List Value) :
    propertyBy look subject negated name rest world = (.raised error, later) := by
  rw [propertyBy, Effect.bind_apply, shown]
  simp only [Effect.bind_apply, looked]

/-- Without a value to compare, the call goes on over the member in the polarity that accepts
whether it is there. -/
theorem propertyBy_nil_accepted
    (shown : Action.render subject world = (.returned rendered, world))
    (looked : look world = (.returned (there, member), later)) :
    propertyBy look subject (!there) (.text name) [] world =
      (.returned (.assertion later.newIdentity.1 member false), later.newIdentity.2) := by
  rw [propertyBy, Effect.bind_apply, shown]
  simp only [Effect.bind_apply, looked]
  cases there <;> rfl

/-- In the other polarity it fails. -/
theorem propertyBy_nil_refused (name : String)
    (shown : Action.render subject world = (.returned rendered, world))
    (looked : look world = (.returned (there, member), later)) :
    (propertyBy look subject there (.text name) [] world).1.isReturned = false := by
  rw [propertyBy, Effect.bind_apply, shown]
  simp only [Effect.bind_apply, looked]
  cases there <;> rfl

/-- What was looked up can be told from what the calls come to. -/
theorem look_eq_of_propertyBy_eq
    (shown : Action.render subject world = (.returned rendered, world))
    (alike : ∀ negated, propertyBy look subject negated (.text name) [] world =
      propertyBy other subject negated (.text name) [] world) :
    look world = other world := by
  rcases first : look world with ⟨outcome, later⟩
  rcases second : other world with ⟨ending, after⟩
  cases outcome with
  | raised error =>
      cases ending with
      | raised failure =>
          have ends := alike false
          rw [propertyBy_of_raised shown first, propertyBy_of_raised shown second] at ends
          cases ends
          rfl
      | returned found =>
          have ends := alike (!found.1)
          rw [propertyBy_of_raised shown first, propertyBy_nil_accepted shown second] at ends
          cases ends
  | returned found =>
      obtain ⟨there, member⟩ := found
      have ends := alike (!there)
      rw [propertyBy_nil_accepted shown first] at ends
      cases ending with
      | raised failure =>
          rw [propertyBy_of_raised shown second] at ends
          cases ends
      | returned again =>
          obtain ⟨still, known⟩ := again
          by_cases same : still = there
          · subst same
            rw [propertyBy_nil_accepted shown second] at ends
            obtain ⟨value, worlds⟩ := Prod.mk.inj ends
            obtain ⟨identity, rfl, -⟩ := Value.assertion.inj (Outcome.returned.inj value)
            rw [World.newIdentity_injective (Prod.ext identity worlds)]
          · obtain rfl : still = !there := Bool.eq_not_of_ne same
            have refused := propertyBy_nil_refused name shown second
            rw [← ends] at refused
            cases refused

end Looks

section Property

variable [ObjectModel]

/-- Read a member once: the reading tells whether it is there, and what it is. -/
def readOnce (subject : Value) (name : String) : Action (Bool × Value) := do
  let found ← subject.member? name
  pure (found.isSome, found.getD .null)

/-- Read a member twice: one reading tells whether it is there, the other what it is. -/
def readTwice (subject : Value) (name : String) : Action (Bool × Value) := do
  let first ← subject.member? name
  let second ← subject.member? name
  pure (first.isSome, second.getD .null)

/-- In every polarity, and with or without a value to compare, a call of `property` comes to what
one reading of the member would make of it. -/
def ReadsOnce (subject : Value) (name : String) (world : World) : Prop :=
  ∀ self negated rest,
    property.call self subject negated (.text name :: rest) world =
      propertyBy (readOnce subject name) subject negated (.text name) rest world

/-- A reading of a member in a world ends in an error, or the next one gives the same and leaves
the world alone. A member that is missing is read as null. -/
def IsSteady (subject : Value) (name : String) (world : World) : Prop :=
  ∀ found later, subject.member? name world = (.returned found, later) →
    ∃ again, subject.member? name later = (.returned again, later) ∧
      again.getD .null = found.getD .null

variable {subject : Value} {name : String} {world : World}

/-- A call of `property` does what the look-up of the member makes of it. -/
theorem call_property (self subject : Value) (negated : Bool) (name : Value)
    (rest : List Value) :
    property.call self subject negated (name :: rest) =
      propertyBy (lookUp subject name) subject negated name rest := by
  have checked : property.signature.check (name :: rest) = pure () := by
    have enough : ¬ rest.length + 1 < 1 := by omega
    simp [Signature.check, Signature.fault?, signature, required, enough]
  rw [call, checked, pure_bind, propertyBy]
  simp only [examineProperty, bind_assoc]
  congr 1
  funext rendered
  congr 1
  funext found
  obtain ⟨there, member⟩ := found
  cases rest with
  | nil => simp only [judge, bind_assoc, pure_bind]; rfl
  | cons value others =>
      cases there <;>
        simp only [judge, bind_assoc, pure_bind, if_true, if_false, Bool.false_eq_true] <;> rfl

/-- Whatever is no table is read twice. -/
theorem lookUp_text (plain : ∀ ref, subject ≠ .table ref) (name : String) :
    lookUp subject (.text name) = readTwice subject name := by
  cases subject with
  | table ref => exact absurd rfl (plain ref)
  | _ => rfl

/-- Reading twice comes to the same as reading once just if the member is steady. -/
theorem readTwice_eq_readOnce_iff :
    readTwice subject name world = readOnce subject name world ↔ IsSteady subject name world := by
  rw [readTwice, readOnce, Effect.bind_apply, Effect.bind_apply, IsSteady]
  rcases subject.member? name world with ⟨outcome, later⟩
  cases outcome with
  | raised error => exact iff_of_true rfl nofun
  | returned found =>
      show (subject.member? name >>= fun second => pure (found.isSome, second.getD .null)) later =
        (.returned (found.isSome, found.getD .null), later) ↔ _
      rw [Effect.bind_apply]
      constructor
      · rintro same _ _ ⟨⟩
        rcases reads : subject.member? name later with ⟨outcome, last⟩
        rw [reads] at same
        cases outcome with
        | raised error => cases same
        | returned again =>
            obtain ⟨value, worlds⟩ := Prod.mk.inj same
            obtain rfl : last = later := worlds
            exact ⟨again, rfl, (Prod.mk.inj (Outcome.returned.inj value)).2⟩
      · intro steady
        obtain ⟨again, reads, alike⟩ := steady found later rfl
        rw [reads, ← alike]
        rfl

/-- One reading would do just if the subject cannot be shown or the member is steady. -/
theorem readsOnce_iff (plain : ∀ ref, subject ≠ .table ref) (name : String) (world : World) :
    ReadsOnce subject name world ↔
      (Action.render subject world).1.isReturned = false ∨ IsSteady subject name world := by
  simp only [ReadsOnce, call_property, lookUp_text plain]
  rw [← readTwice_eq_readOnce_iff]
  constructor
  · intro alike
    by_cases shown : (Action.render subject world).1.isReturned
    · obtain ⟨rendered, shown⟩ := (Action.onlyAsks_render subject).exists_returned shown
      exact .inr (look_eq_of_propertyBy_eq shown fun negated => alike .null negated [])
    · exact .inl (Bool.eq_false_iff.mpr shown)
  · rintro (hidden | same) self negated rest
    · rw [propertyBy, propertyBy, Effect.bind_apply, Effect.bind_apply]
      rcases ended : Action.render subject world with ⟨outcome, later⟩
      cases outcome with
      | returned rendered => rw [ended] at hidden; cases hidden
      | raised error => rfl
    · exact propertyBy_congr same negated (.text name) rest

end Property

end CallPredicate

end DeferredSpec
