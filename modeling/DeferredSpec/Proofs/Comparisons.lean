/-
# Comparing with bounds

A predicate that compares with bounds renders the subject and the bounds for its sentences and
asks for the comparison. All of these only look at the world. An error in any of them leaves the
predicate, and one of rendering is no failed expectation; where all succeed there is a finding,
and what a chain comes to is the finding settled with the polarity of its context.
-/

import DeferredSpec.Proofs.Checks
import DeferredSpec.Proofs.Order

namespace DeferredSpec

namespace World

theorem follow_newIdentity (world : World) (depth : Nat) :
    world.newIdentity.2.follow depth = world.follow depth := by
  induction depth with
  | zero => rfl
  | succ depth ih =>
      funext entered place
      simp only [follow, ih]
      rfl

/-- What a value looks like does not depend on the identities that were taken. -/
@[simp] theorem view_newIdentity (world : World) (value : Value) :
    world.newIdentity.2.view value = world.view value := by
  unfold view
  rw [follow_newIdentity]
  rfl

end World

/-! ### Comparisons as they are asked -/

namespace Value

variable {test : OrderTest} {first second : Value} {world : World} {holds : Bool}

theorem onlyAsks_compare (test : OrderTest) (first second : Value) :
    Action.OnlyAsks (first.compare test second) := by
  refine (Action.OnlyAsks.read _).bind fun left => (Action.OnlyAsks.read _).bind fun right => ?_
  split
  · exact Action.onlyAsks_fail _
  · exact .pure _
  · exact Action.onlyAsks_fail _

/-- A comparison returns just where the values can be searched and have a common order. -/
theorem compare_eq_returned_iff :
    first.compare test second world = (.returned holds, world) ↔
      (world.view first).comparisonFault? test (world.view second) = none ∧
        (world.view first).compare test (world.view second) = .ok holds := by
  simp only [compare, Action.view, Effect.bind_apply, Effect.read_apply]
  cases (world.view first).comparisonFault? test (world.view second) with
  | some kind => simp [Action.fail, Action.raiseNew]
  | none =>
      cases (world.view first).compare test (world.view second) with
      | ok answer => simp
      | error types => simp [Action.fail, Action.raiseNew]

/-- A comparison has the same answer when it is asked from the other side. -/
theorem compare_mirror (sound : (world.view first).isSound = true)
    (alsoSound : (world.view second).isSound = true)
    (compared : first.compare test second world = (.returned holds, world)) :
    second.compare test.mirror first world = (.returned holds, world) := by
  obtain ⟨searched, ordered⟩ := compare_eq_returned_iff.mp compared
  apply compare_eq_returned_iff.mpr
  rw [Snapshot.comparisonFault?_mirror, Snapshot.compare_mirror test sound alsoSound, ordered]
  exact ⟨searched, rfl⟩

/-- The complement of a comparison of linear values has the opposite answer. -/
theorem compare_complement (linear : (world.view first).isLinear = true)
    (alsoLinear : (world.view second).isLinear = true)
    (compared : first.compare test second world = (.returned holds, world)) :
    first.compare test.complement second world = (.returned (!holds), world) := by
  apply compare_eq_returned_iff.mpr
  rw [Snapshot.comparisonFault?_of_isLinear _ linear alsoLinear,
    Snapshot.compare_complement test linear alsoLinear, (compare_eq_returned_iff.mp compared).2]
  exact ⟨rfl, rfl⟩

theorem compare_newIdentity
    (compared : first.compare test second world = (.returned holds, world)) :
    first.compare test second world.newIdentity.2 = (.returned holds, world.newIdentity.2) := by
  apply compare_eq_returned_iff.mpr
  simpa using compare_eq_returned_iff.mp compared

/-- The least positive integer that has too many digits to be written. -/
def longNumber : Value := .integer (Nat.pow 10 Snapshot.digitLimit)

end Value

/-! ### Rendering -/

namespace Action

variable {value : Value} {world : World}

theorem render_of_ok {text : String} (shown : (world.view value).render = .ok text) :
    render value world = (.returned text, world) := by
  simp only [render, view, Effect.bind_apply, Effect.read_apply, shown]
  rfl

theorem render_of_error {reason : Unwritable} (shown : (world.view value).render = .error reason) :
    render value world = fail (.unwritable reason) world := by
  simp only [render, view, Effect.bind_apply, Effect.read_apply, shown]
  rfl

theorem render_isReturned_iff :
    (render value world).1.isReturned ↔ ∃ text, (world.view value).render = .ok text := by
  cases shown : (world.view value).render with
  | ok text => simp [render_of_ok shown, Outcome.isReturned]
  | error reason =>
      rw [render_of_error shown]
      simp [fail, raiseNew, Outcome.isReturned]

/-- What begins with rendering a value fails for want of a text or goes on with the text. -/
theorem render_bind {α : Type} (value : Value) (next : String → Action α) (world : World) :
    (∃ reason, (render value >>= next) world = fail (.unwritable reason) world) ∨
      ∃ text, (render value world).1.isReturned ∧
        (render value >>= next) world = next text world := by
  rw [render_isReturned_iff, Effect.bind_apply]
  cases shown : (world.view value).render with
  | ok text =>
      rw [render_of_ok shown]
      exact .inr ⟨text, ⟨text, rfl⟩, rfl⟩
  | error reason =>
      rw [render_of_error shown]
      exact .inl ⟨reason, rfl⟩

theorem render_newIdentity (shown : (render value world).1.isReturned) :
    (render value world.newIdentity.2).1.isReturned := by
  rw [render_isReturned_iff] at shown ⊢
  simpa using shown

end Action

/-! ### Failed expectations and other errors -/

/-- That something failed an expectation. -/
def FailsExpectation {α : Type} (ended : Outcome α × World) : Prop :=
  ∃ error, ended.1 = .raised error ∧ ended.2.isAssertionFailure error = true

/-- That something returned or failed an expectation, and met no other error. -/
def IsDecided {α : Type} (ended : Outcome α × World) : Prop :=
  ended.1.isReturned ∨ FailsExpectation ended

section Ends

variable {α : Type} {ended : Outcome α × World}

theorem FailsExpectation.not_isReturned (fails : FailsExpectation ended) :
    ¬ ended.1.isReturned := by
  obtain ⟨error, raised, _⟩ := fails
  rw [raised]
  exact Bool.false_ne_true

theorem RaisesCell.failsExpectation {cell : ErrorCell} (raises : RaisesCell ended cell)
    (failure : cell.kind.isAssertionFailure = true) : FailsExpectation ended := by
  obtain ⟨error, raised, made⟩ := raises
  refine ⟨error, raised, ?_⟩
  rw [World.isAssertionFailure, made]
  exact failure

/-- A value without a text leaves an expectation undecided. -/
theorem not_isDecided_of_unwritable {reason : Unwritable} {world : World} :
    ¬ IsDecided (Action.fail (.unwritable reason) world : Outcome α × World) := by
  have made := World.errorAt_newError
    { kind := (Fault.unwritable reason).kind, arguments := (Fault.unwritable reason).arguments,
      cause := none } world
  rintro (returned | ⟨error, raised, failure⟩)
  · cases returned
  · cases raised
    have same := failure.symm.trans (congrArg (fun cell => cell.kind.isAssertionFailure) made)
    cases reason <;> cases same

end Ends

namespace Finding

/-- The finding is settled: if the polarity accepts it the predicate passes, and otherwise it
fails the expectation. -/
structure SettlesAs (finding : Finding) (negated : Bool) (ended : Outcome Value × World) :
    Prop where
  returned : finding.passes negated = true → ended.1.isReturned
  failed : finding.passes negated = false → RaisesCell ended (finding.failure negated)

namespace SettlesAs

variable {finding : Finding} {negated : Bool} {ended : Outcome Value × World}

theorem isReturned_iff (settles : finding.SettlesAs negated ended) :
    ended.1.isReturned ↔ finding.passes negated = true := by
  refine ⟨fun returned => ?_, settles.returned⟩
  cases passes : finding.passes negated with
  | true => rfl
  | false =>
      have fails := (settles.failed passes).failsExpectation rfl
      exact absurd returned fails.not_isReturned

theorem failsExpectation_iff (settles : finding.SettlesAs negated ended) :
    FailsExpectation ended ↔ finding.passes negated = false := by
  refine ⟨fun fails => ?_, fun fails => (settles.failed fails).failsExpectation rfl⟩
  cases passes : finding.passes negated with
  | true => exact absurd (settles.returned passes) fails.not_isReturned
  | false => rfl

theorem isDecided (settles : finding.SettlesAs negated ended) : IsDecided ended := by
  rw [IsDecided, settles.isReturned_iff, settles.failsExpectation_iff]
  cases finding.passes negated
  · exact .inr rfl
  · exact .inl rfl

end SettlesAs

end Finding

/-! ### Following a predicate -/

section Predicates

variable [ObjectModel]

namespace CallPredicate

/-- The link that calls a predicate. -/
def link (predicate : CallPredicate) (arguments : List Value) : Link where
  name := predicate.name
  arguments := some arguments
  isMember := by cases predicate <;> decide

section Calls

variable {predicate : CallPredicate} {arguments : List Value} {subject : Value}
  {world later : World} {finding : Finding}

omit [ObjectModel] in
theorem ofName?_name (predicate : CallPredicate) :
    ChainWord.ofName? predicate.name = some (.called predicate) := by
  cases predicate <;> decide +kernel

/-- A predicate that is called with all its arguments is examined at once. -/
theorem examination?_link (complete : predicate.signature.check arguments = pure ())
    (other : predicate ≠ .property) :
    (predicate.link arguments).examination? subject =
      some (predicate.examine subject arguments >>= fun finding => pure (finding, none)) := by
  have inquired : predicate.inquire subject arguments =
      predicate.examine subject arguments >>= fun finding => pure (finding, none) := by
    cases predicate <;> first | rfl | exact absurd rfl other
  simp only [Link.examination?, link, ofName?_name, complete, pure_bind, inquired]

/-- What a predicate finds is settled with the polarity of the context. -/
theorem follow_link_of_returned
    (examined : predicate.examine subject arguments world = (.returned finding, later))
    (complete : predicate.signature.check arguments = pure ()) (other : predicate ≠ .property)
    (identity : Nat) (negated : Bool) :
    finding.SettlesAs negated
      ((predicate.link arguments).follow (.assertion identity subject negated) world) := by
  have asked : (predicate.link arguments).examination? subject = _ :=
    examination?_link complete other
  have found : (predicate.examine subject arguments >>= fun finding => pure (finding, none)) world =
      (.returned (finding, (none : Option Value)), later) := by
    rw [Effect.bind_apply, examined]
    rfl
  constructor
  · intro passes
    exact Link.follow_of_passes asked found passes identity
  · intro fails
    exact Link.follow_of_not_passes asked found fails identity

theorem follow_link_of_raised {error : ErrorRef}
    (examined : predicate.examine subject arguments world = (.raised error, later))
    (complete : predicate.signature.check arguments = pure ()) (other : predicate ≠ .property)
    (identity : Nat) (negated : Bool) :
    (predicate.link arguments).follow (.assertion identity subject negated) world =
      (.raised error, later) := by
  refine Link.follow_of_raised (examination?_link complete other) ?_ identity negated
  rw [Effect.bind_apply, examined]

end Calls

end CallPredicate

namespace Link

/-- The link that turns the polarity. -/
def negation : Link where
  name := "not_"

theorem follow_negation (identity : Nat) (subject : Value) (negated : Bool) (world : World) :
    negation.follow (.assertion identity subject negated) world =
      (.returned (.assertion world.newIdentity.1 subject (!negated)), world.newIdentity.2) := by
  have known : ChainWord.ofName? negation.name = some .negation := by decide +kernel
  rw [follow, member_of_ofName? known, Value.contextMember, known]
  rfl

end Link

namespace Value

/-- How links end that are followed from a plain context over a subject. -/
def expecting (subject : Value) (identity : Nat) (world : World) (links : List Link) :
    Outcome Value × World :=
  Link.followAll links (.assertion identity subject false) world

variable (subject : Value) (identity : Nat) (world : World) (link : Link)

theorem expecting_link :
    subject.expecting identity world [link] =
      link.follow (.assertion identity subject false) world := by
  simp only [expecting, Link.followAll, bind_pure]

/-- Behind a negation a link is followed from a new context of the other polarity. -/
theorem expecting_negation :
    subject.expecting identity world [Link.negation, link] =
      link.follow (.assertion world.newIdentity.1 subject true) world.newIdentity.2 := by
  rw [expecting, Link.followAll, Effect.bind_apply, Link.follow_negation]
  simp only [Link.followAll, bind_pure, Bool.not_false]

end Value

/-! ### Comparing with one bound -/

namespace CallPredicate

variable {predicate : CallPredicate} {test : OrderTest} {holding failing : String}
  {subject bound : Value} {world : World} {holds : Bool}

omit [ObjectModel] in
theorem check_bound (known : predicate.comparison? = some (test, holding, failing)) :
    predicate.signature.check [bound] = pure () := by
  cases predicate <;> cases known <;> rfl

omit [ObjectModel] in
theorem ne_property_of_comparison?
    (known : predicate.comparison? = some (test, holding, failing)) : predicate ≠ .property := by
  rintro rfl
  cases known

theorem examine_bound (known : predicate.comparison? = some (test, holding, failing)) :
    predicate.examine subject [bound] =
      examineBound predicate test holding failing subject bound := by
  cases predicate <;> cases known <;> rfl

/-- What a comparison with a bound finds, given the two texts and the answer. -/
def boundFinding (predicate : CallPredicate) (holding failing : String) (subject bound : Value)
    (rendered limit : String) (holds : Bool) : Finding :=
  predicate.about subject bound holds ("expected " ++ rendered ++ holding ++ limit)
    ("expected " ++ rendered ++ failing ++ limit)

omit [ObjectModel] in
@[simp] theorem passes_boundFinding {rendered limit : String} {negated : Bool} :
    (predicate.boundFinding holding failing subject bound rendered limit holds).passes negated =
      (holds != negated) := rfl

/-- Where both texts are there and the comparison answers, following the predicate settles what
the comparison finds. -/
theorem follow_bound (predicate : CallPredicate)
    (known : predicate.comparison? = some (test, holding, failing)) {rendered limit : String}
    (shown : (world.view subject).render = .ok rendered)
    (boundShown : (world.view bound).render = .ok limit)
    (compared : subject.compare test bound world = (.returned holds, world))
    (identity : Nat) (negated : Bool) :
    (predicate.boundFinding holding failing subject bound rendered limit holds).SettlesAs negated
      ((predicate.link [bound]).follow (.assertion identity subject negated) world) := by
  have examined : predicate.examine subject [bound] world =
      (.returned (predicate.boundFinding holding failing subject bound rendered limit holds),
        world) := by
    simp only [examine_bound known, examineBound, Effect.bind_apply, Action.render_of_ok shown,
      compared, Action.render_of_ok boundShown]
    rfl
  exact follow_link_of_returned examined (check_bound known) (ne_property_of_comparison? known)
    identity negated

/-- Where a text is missing the predicate is left undecided. -/
theorem not_isDecided_bound (known : predicate.comparison? = some (test, holding, failing))
    (compared : subject.compare test bound world = (.returned holds, world))
    (unwritable : ¬ ((Action.render subject world).1.isReturned ∧
      (Action.render bound world).1.isReturned))
    (identity : Nat) (negated : Bool) :
    ¬ IsDecided ((predicate.link [bound]).follow (.assertion identity subject negated) world) := by
  have examined : ∃ reason,
      predicate.examine subject [bound] world = Action.fail (.unwritable reason) world := by
    rw [examine_bound known, examineBound]
    rcases Action.render_bind subject _ world with raised | ⟨rendered, subjectShown, onward⟩
    · exact raised
    rw [onward, Effect.bind_apply, compared]
    rcases Action.render_bind bound _ world with raised | ⟨limit, boundShown, -⟩
    · exact raised
    exact absurd ⟨subjectShown, boundShown⟩ unwritable
  obtain ⟨reason, raised⟩ := examined
  rw [follow_link_of_raised raised (check_bound known) (ne_property_of_comparison? known)]
  exact not_isDecided_of_unwritable

end CallPredicate

end Predicates

end DeferredSpec
