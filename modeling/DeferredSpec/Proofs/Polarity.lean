/-
# The polarity of a chain

Along a chain of links the polarity of the context is turned by `not_` and kept by every other
link but `property`, which goes on over the member with a new context. That context is plain
again: what was turned before the last `property` no longer counts. So the links behind it
decide how the next predicate is checked, and the number of all turns decides it just if the
turns up to the last `property` make up for each other.
-/

import DeferredSpec.Proofs.Checks
import Mathlib.Algebra.Ring.Parity
import Mathlib.Data.List.DropRight

namespace DeferredSpec

namespace ChainWord

/-- The polarity behind a word. -/
def polarityAfter (negated : Bool) : ChainWord → Bool
  | .negation => !negated
  | .called predicate => if predicate = .property then false else negated
  | _ => negated

/-- A word with an effect that stands under one name only has that name. -/
theorem name_eq_of_ofName? {name only : String} {word : ChainWord}
    (known : ofName? name = some word) (works : word ≠ .link)
    (unique : ∀ entry ∈ words, entry.2 = word → entry.1 = only) : name = only := by
  rcases listed_of_ofName? known with ⟨_, plain⟩ | listed
  · exact absurd plain works
  · exact unique _ listed rfl

theorem ofName?_eq_negation_iff {name : String} :
    ofName? name = some .negation ↔ name = "not_" := by
  constructor
  · intro known
    exact name_eq_of_ofName? known (by decide) (by decide +kernel)
  · rintro rfl
    decide +kernel

theorem ofName?_eq_subject_iff {name : String} :
    ofName? name = some .subject ↔ name = "subject" := by
  constructor
  · intro known
    exact name_eq_of_ofName? known (by decide) (by decide +kernel)
  · rintro rfl
    decide +kernel

theorem ofName?_eq_property_iff {name : String} :
    ofName? name = some (.called .property) ↔ name = "property" := by
  constructor
  · intro known
    exact name_eq_of_ofName? known (by decide) (by decide +kernel)
  · rintro rfl
    decide +kernel

end ChainWord

namespace Link

/-- The link turns the polarity. -/
def turns (link : Link) : Bool := link.name == "not_"

/-- The link goes on over a member of the subject. -/
def entersMember (link : Link) : Bool := link.name == "property"

/-- How many of the links turn the polarity. -/
def turnCount (links : List Link) : Nat := links.countP turns

/-- The links up to the last one that goes on over a member. -/
def throughMember (links : List Link) : List Link := links.rdropWhile fun link => !link.entersMember

/-- The links behind the last one that goes on over a member. -/
def sinceMember (links : List Link) : List Link := links.rtakeWhile fun link => !link.entersMember

/-- The polarity behind a link. -/
def polarityAfter (negated : Bool) (link : Link) : Bool :=
  if link.turns then !negated else if link.entersMember then false else negated

section Following

variable [ObjectModel]

/-- A link returns a context. -/
def ReturnsContext (link : Link) (context : Value) (world : World) : Prop :=
  (link.follow context world).1.map Value.isAssertion = .returned true

instance decidableReturnsContext (link : Link) (context : Value) (world : World) :
    Decidable (link.ReturnsContext context world) :=
  inferInstanceAs (Decidable (_ = _))

/-- Predicates that are met at a context are settled with a polarity: just those findings pass
that differ from it. -/
def ChecksWith (negated : Bool) (context subject : Value) (world : World) : Prop :=
  ∀ (next : Link) examination, next.examination? subject = some examination →
    ∀ finding member later, examination world = (.returned (finding, member), later) →
      ((next.follow context world).1.isReturned ↔ finding.holds ≠ negated)

/-- A context checks with the polarity that it has. -/
theorem checksWith_assertion (identity : Nat) (subject : Value) (negated : Bool) (world : World) :
    ChecksWith negated (.assertion identity subject negated) subject world := by
  intro next examination asked finding member later examined
  by_cases passes : finding.passes negated = true
  · apply iff_of_true (follow_of_passes asked examined passes identity)
    exact bne_iff_ne.mp passes
  · obtain ⟨error, raised, _⟩ :=
      follow_of_not_passes asked examined (eq_false_of_ne_true passes) identity
    apply iff_of_false
    · rw [raised]
      exact Bool.false_ne_true
    · intro differs
      exact passes (bne_iff_ne.mpr differs)

/-- Where a predicate passes, the context does not check with the other polarity. -/
theorem not_checksWith_of_isReturned {next : Link} {identity : Nat} {subject : Value}
    {negated : Bool} {world : World} {examination : Action (Finding × Option Value)}
    (asked : next.examination? subject = some examination)
    (passed : (next.follow (.assertion identity subject negated) world).1.isReturned) :
    ¬ ChecksWith (!negated) (.assertion identity subject negated) subject world := by
  intro turned
  rcases examined : examination world with ⟨outcome, later⟩
  cases outcome with
  | raised error =>
      rw [follow_of_raised asked examined] at passed
      cases passed
  | returned found =>
      have plainly := (checksWith_assertion identity subject negated world next examination asked
        found.1 found.2 later examined).mp passed
      have also := (turned next examination asked found.1 found.2 later examined).mp passed
      exact plainly (Bool.not_eq_not.mp also)

/-- What becomes of the polarity of a context: everything that is returned, if it is a context,
has the polarity given. -/
def HasPolarity (negated : Bool) (result : Value) : Prop :=
  ∀ identity subject found, result = .assertion identity subject found → found = negated

omit [ObjectModel] in
theorem hasPolarity_assertion (identity : Nat) (subject : Value) (negated : Bool) :
    HasPolarity negated (.assertion identity subject negated) := by
  rintro _ _ _ ⟨⟩
  rfl

omit [ObjectModel] in
theorem yields_missing (self : Value) (name : String) (good : Value → Prop) :
    (self.missing name).Yields good := by
  unfold Value.missing
  split
  · exact .bind fun error => .raise
  · exact .bind fun kind => .bind fun error => .raise

/-- A context cannot be called. -/
theorem yields_call_assertion (identity : Nat) (subject : Value) (negated : Bool)
    (arguments : List Value) (good : Value → Prop) :
    ((Value.assertion identity subject negated).call arguments).Yields good :=
  .bind fun _ => .bind fun _ => .raise

/-- A call of a predicate keeps the polarity, but a plain context stands behind `property`. -/
theorem yields_call (predicate : CallPredicate) (identity : Nat) (subject : Value)
    (negated : Bool) (arguments : List Value) :
    (predicate.call (.assertion identity subject negated) subject negated arguments).Yields
      (HasPolarity (if predicate = .property then false else negated)) := by
  refine .bind fun _ => ?_
  split
  · exact .bind fun found => .bind fun _ => .bind fun fresh => .pure (hasPolarity_assertion _ _ _)
  · rename_i other
    by_cases named : predicate = .property
    · subst named
      cases arguments with
      | nil =>
          have fails : (CallPredicate.property.examine subject []).Yields fun _ => False :=
            .bind fun error => .raise
          exact .bindOf fails fun _ => False.elim
      | cons name rest => exact absurd rfl (other name rest rfl)
    · rw [if_neg named]
      exact .bind fun finding => .bind fun _ => .pure (hasPolarity_assertion _ _ _)

omit [ObjectModel] in
/-- The names of the links that change the polarity stand for the words that do. -/
theorem polarityAfter_of_ofName? {link : Link} {word : ChainWord}
    (known : ChainWord.ofName? link.name = some word) (negated : Bool) :
    link.polarityAfter negated = word.polarityAfter negated := by
  have turning : link.turns = true ↔ word = .negation := by
    rw [turns, beq_iff_eq, ← ChainWord.ofName?_eq_negation_iff, known, Option.some.injEq]
  have entering : link.entersMember = true ↔ word = .called .property := by
    rw [entersMember, beq_iff_eq, ← ChainWord.ofName?_eq_property_iff, known, Option.some.injEq]
  cases word <;> simp [polarityAfter, ChainWord.polarityAfter, turning, entering]

/-- A link changes the polarity as its name says, unless it leads back to the subject. -/
theorem yields_follow (link : Link) (stays : link.name ≠ "subject") (identity : Nat)
    (subject : Value) (negated : Bool) :
    (link.follow (.assertion identity subject negated)).Yields
      (HasPolarity (link.polarityAfter negated)) := by
  cases known : ChainWord.ofName? link.name with
  | none =>
      have missing : ((Value.assertion identity subject negated).member link.name).Yields
          fun _ => False := by
        rw [Value.member]
        split
        · exact yields_missing _ _ _
        · rw [Value.contextMember, known]
          exact yields_missing _ _ _
      exact .bindOf missing fun _ => False.elim
  | some word =>
      rw [polarityAfter_of_ofName? known, follow, member_of_ofName? known, Value.contextMember,
        known]
      cases word with
      | link =>
          cases link.arguments with
          | none => exact .pure (hasPolarity_assertion _ _ _)
          | some arguments => exact yields_call_assertion _ _ _ arguments _
      | negation =>
          have read : (Effect.update World.newIdentity >>= fun fresh =>
              pure (Value.assertion fresh subject !negated) : Action Value).Yields
                fun found => ∃ fresh, found = .assertion fresh subject (!negated) :=
            .bind fun fresh => .pure ⟨fresh, rfl⟩
          refine read.bindOf fun found opened => ?_
          obtain ⟨fresh, rfl⟩ := opened
          cases link.arguments with
          | none => exact .pure (hasPolarity_assertion _ _ _)
          | some arguments => exact yields_call_assertion _ _ _ arguments _
      | subject => exact absurd (ChainWord.ofName?_eq_subject_iff.mp known) stays
      | examined predicate =>
          have read : (predicate.examine subject >>= fun finding =>
              finding.settle negated >>= fun _ =>
                pure (Value.assertion identity subject negated)).Yields
                fun found => found = .assertion identity subject negated :=
            .bind fun finding => .bind fun _ => .pure rfl
          refine read.bindOf fun found same => ?_
          subst same
          cases link.arguments with
          | none => exact .pure (hasPolarity_assertion _ _ _)
          | some arguments => exact yields_call_assertion _ _ _ arguments _
      | called predicate =>
          cases link.arguments with
          | none =>
              apply Effect.Yields.pure
              rintro _ _ _ ⟨⟩
          | some arguments =>
              show Effect.Yields (Value.callContext _ subject negated predicate.name arguments) _
              rw [Value.callContext, ChainWord.predicate?_name]
              exact yields_call predicate identity subject negated arguments

/-- Where every link returns a context, the last context has the polarity that the links come
to one after the other. -/
theorem followAll_of_returnsContext {links : List Link}
    (stays : ∀ link ∈ links, link.name ≠ "subject") {identity : Nat} {subject : Value}
    {negated : Bool} {world : World}
    (chained : EachReached ReturnsContext links (.assertion identity subject negated) world) :
    ∃ number last later, followAll links (.assertion identity subject negated) world =
      (.returned (.assertion number last (links.foldl polarityAfter negated)), later) := by
  induction links generalizing identity subject negated world with
  | nil => exact ⟨identity, subject, world, rfl⟩
  | cons link links ih =>
      obtain ⟨context, further⟩ := chained
      rcases ended : link.follow (.assertion identity subject negated) world with ⟨outcome, later⟩
      rw [ReturnsContext, ended] at context
      cases outcome with
      | raised error => cases context
      | returned result =>
          have opened : result.isAssertion = true := Outcome.returned.inj context
          cases result with
          | assertion number member polarity =>
              obtain rfl := yields_follow link (stays link List.mem_cons_self) identity subject
                negated world _ later ended number member polarity rfl
              obtain ⟨last, value, final, reached⟩ :=
                ih (fun other listed => stays other (List.mem_cons_of_mem link listed))
                  (further _ later ended)
              refine ⟨last, value, final, ?_⟩
              rw [followAll, Effect.bind_apply, ended]
              exact reached
          | _ => cases opened

end Following

theorem sinceMember_concat (links : List Link) (link : Link) :
    sinceMember (links ++ [link]) =
      if link.entersMember then [] else sinceMember links ++ [link] := by
  rw [sinceMember, List.rtakeWhile_concat, ← sinceMember]
  cases link.entersMember <;> rfl

/-- The links behind the last `property` decide the polarity. -/
theorem foldl_polarityAfter (links : List Link) :
    links.foldl polarityAfter false = decide (Odd (turnCount (sinceMember links))) := by
  induction links using List.reverseRecOn with
  | nil => rfl
  | append_singleton links link ih =>
      rw [List.foldl_concat, ih, sinceMember_concat, polarityAfter]
      cases enters : link.entersMember with
      | true =>
          have keeps : link.turns = false := by
            rw [entersMember, beq_iff_eq] at enters
            rw [turns, enters]
            decide
          simp [keeps, turnCount]
      | false =>
          have counted : turnCount (sinceMember links ++ [link]) =
              turnCount (sinceMember links) + if link.turns then 1 else 0 := by
            rw [turnCount, List.countP_append, List.countP_singleton, turnCount]
          simp only [Bool.false_eq_true, if_false, counted]
          cases link.turns <;> simp [Nat.odd_add_one, -Nat.not_odd_iff_even]

/-- The links are those up to the last `property` and those behind it. -/
theorem turnCount_eq (links : List Link) :
    turnCount links = turnCount (throughMember links) + turnCount (sinceMember links) := by
  rw [turnCount, turnCount, turnCount, ← List.countP_append, throughMember, sinceMember,
    List.rdropWhile_append_rtakeWhile]

section Chains

variable [ObjectModel]

/-- **The polarity of a chain.** Let every link of a chain that starts at a plain context return
a context. Then the next predicate is settled with a definite polarity, which is turned just if
an odd number of links behind the last `property` are `not_`. So it is turned by an odd number
of all the `not_` links just if those up to the last `property` are even in number. -/
theorem checksWith_of_chain {links : List Link} (stays : ∀ link ∈ links, link.name ≠ "subject")
    {identity : Nat} {subject : Value} {world : World}
    (chained : EachReached ReturnsContext links (.assertion identity subject false) world) :
    ∃ number member negated later,
      followAll links (.assertion identity subject false) world =
          (.returned (.assertion number member negated), later) ∧
        ChecksWith negated (.assertion number member negated) member later ∧
        (negated = true ↔ Odd (turnCount (sinceMember links))) ∧
        ((negated = true ↔ Odd (turnCount links)) ↔ Even (turnCount (throughMember links))) := by
  obtain ⟨number, member, later, reached⟩ := followAll_of_returnsContext stays chained
  rw [foldl_polarityAfter] at reached
  refine ⟨number, member, _, later, reached, checksWith_assertion number member _ later, ?_, ?_⟩
  · exact decide_eq_true_iff
  · rw [decide_eq_true_iff, turnCount_eq links, Nat.odd_add']
    by_cases odd : Odd (turnCount (sinceMember links))
    · rw [iff_true_left odd, iff_true_left odd]
    · rw [iff_false_left odd, iff_false_left odd, not_not]

end Chains

/-- Five has a member of the name, which is not asked whether it is six: the turns before
`property` make up for each other, and the one behind it counts. -/
theorem checksWith_of_thrice_turned :
    let links : List Link :=
      [{ name := "not_" }, { name := "not_" },
        { name := "property", arguments := some [.text "real"] }, { name := "not_" },
        { name := "equal", arguments := some [.integer 6] }]
    ∃ number member later,
      followAll links (.assertion 0 (.integer 5) false) {} =
          (.returned (.assertion number member true), later) ∧
        ChecksWith true (.assertion number member true) member later := by
  intro links
  have chained : EachReached ReturnsContext links (.assertion 0 (.integer 5) false) {} := by
    decide +kernel
  obtain ⟨number, member, negated, later, reached, checks, -, exactly⟩ :=
    checksWith_of_chain (by decide) chained
  have turned : negated = true := by
    apply (exactly.mpr (by decide)).mpr
    decide
  subst turned
  exact ⟨number, member, later, reached, checks⟩

/-- Behind `not_` and `property` the polarity is lost. Five has no member of the name, and null
stands for it. The next predicate, which one turn should turn, lets null be null pass. -/
theorem property_drops_negation :
    let links : List Link :=
      [{ name := "not_" }, { name := "property", arguments := some [.text "foo"] }]
    let next : Link := { name := "none" }
    EachReached ReturnsContext links (.assertion 0 (.integer 5) false) {} ∧
      Odd (turnCount links) ∧
      ∃ number member negated later,
        followAll links (.assertion 0 (.integer 5) false) {} =
            (.returned (.assertion number member negated), later) ∧
          (next.follow (.assertion number member negated) later).1.isReturned ∧
          ¬ ChecksWith true (.assertion number member negated) member later := by
  intro links next
  have chained : EachReached ReturnsContext links (.assertion 0 (.integer 5) false) {} := by
    decide +kernel
  obtain ⟨number, member, later, reached⟩ := followAll_of_returnsContext (by decide) chained
  have passed : ((followAll links (.assertion 0 (.integer 5) false) >>= next.follow)
      {}).1.isReturned := by
    decide +kernel
  rw [Effect.bind_apply, reached] at passed
  exact ⟨chained, by decide, number, member, false, later, reached, passed,
    not_checksWith_of_isReturned rfl passed⟩

end Link

end DeferredSpec
