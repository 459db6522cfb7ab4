/-
# What predicates check

A link of a chain that names a predicate first examines the subject, which ends in a finding
or in an error, and only then looks at the polarity of its context. So the two polarities of
one context share everything up to the finding, and where there is a finding just one of them
accepts it.
-/

import DeferredSpec.Proofs.Direct
import DeferredSpec.Samples.Objects

namespace DeferredSpec

/-- Whatever the effect returns has a property. -/
def Effect.Yields {σ α : Type} (effect : Effect σ α) (good : α → Prop) : Prop :=
  ∀ state value later, effect state = (.returned value, later) → good value

namespace Effect.Yields

variable {σ α β : Type} {good : α → Prop}

protected theorem pure {value : α} (holds : good value) :
    Effect.Yields (pure value : Effect σ α) good := by
  rintro _ _ _ ⟨⟩
  exact holds

/-- What a sequence returns comes from its last part, which starts from what the first one
yields. -/
protected theorem bindOf {first : Effect σ β} {next : β → Effect σ α} {met : β → Prop}
    (yields : first.Yields met) (further : ∀ value, met value → (next value).Yields good) :
    Effect.Yields (first >>= next) good := by
  intro state value later ended
  obtain ⟨found, middle, begun, onward⟩ := Effect.bind_eq_returned_iff.mp ended
  exact further found (yields state found middle begun) middle value later onward

protected theorem bind {first : Effect σ β} {next : β → Effect σ α}
    (further : ∀ value, Effect.Yields (next value) good) :
    Effect.Yields (first >>= next) good :=
  .bindOf (fun _ _ _ _ => trivial) fun value (_ : True) => further value

/-- An effect that never returns yields nothing at all. -/
protected theorem raise {error : ErrorRef} :
    Effect.Yields (Effect.raise error : Effect σ α) good := by
  rintro _ _ _ ⟨⟩

end Effect.Yields

namespace ChainWord

/-- The name under which a predicate reports: some have further names. -/
def original : String → String
  | "eql" | "equals" => "equal"
  | "contain" => "include"
  | "an" => "a"
  | name => name

/-- The name of the predicate that a word asks for. -/
def asked? : ChainWord → Option String
  | .examined predicate => some predicate.name
  | .called predicate => some predicate.name
  | _ => none

/-- A word is one of those without an effect or one of those with an effect. -/
theorem listed_of_ofName? {name : String} {word : ChainWord} (known : ofName? name = some word) :
    name ∈ links ∧ word = .link ∨ (name, word) ∈ words := by
  rw [ofName?] at known
  split at known
  · rename_i listed
    exact .inl ⟨List.contains_iff_mem.mp listed, (Option.some.inj known).symm⟩
  · obtain ⟨before, after, same, _⟩ := List.lookup_eq_some_iff.mp known
    rw [same]
    exact .inr (List.mem_append_right before List.mem_cons_self)

/-- A predicate reports under the original of the name that was used for it. -/
theorem asked?_eq_original {name asked : String} {word : ChainWord}
    (known : ofName? name = some word) (asks : word.asked? = some asked) :
    asked = original name := by
  have checked : ∀ entry ∈ words, ∀ asked ∈ entry.2.asked?, asked = original entry.1 := by
    decide +kernel
  rcases listed_of_ofName? known with ⟨_, rfl⟩ | listed
  · cases asks
  · exact checked _ listed asked asks

/-- No word of a chain begins with an underscore. -/
theorem startsWith_of_ofName? {name : String} {word : ChainWord}
    (known : ofName? name = some word) : name.startsWith "_" = false := by
  have checked : ∀ other ∈ links ++ words.map Prod.fst, other.startsWith "_" = false := by
    decide +kernel
  apply checked
  rcases listed_of_ofName? known with ⟨listed, _⟩ | listed
  · exact List.mem_append_left _ listed
  · exact List.mem_append_right _ (List.mem_map_of_mem listed)

/-- The reported name of a predicate is a word for the predicate itself. -/
theorem predicate?_name (predicate : CallPredicate) :
    predicate? predicate.name = some predicate := by
  cases predicate <;> decide +kernel

end ChainWord

namespace Finding

/-- The error of a context that does not accept the finding. -/
def failure (negated : Bool) (finding : Finding) : ErrorCell where
  kind := .expectationFailed finding.expected finding.actual (.text finding.operator)
  arguments := [.text (if negated then finding.negatedMessage else finding.message)]
  cause := none

variable {finding : Finding} {negated : Bool}

theorem settle_of_passes (passes : finding.passes negated = true) :
    finding.settle negated = pure () := by
  rw [settle, if_pos passes]

theorem settle_of_not_passes (fails : finding.passes negated = false) (world : World) :
    finding.settle negated world =
      (.raised (world.newError (finding.failure negated)).1,
        (world.newError (finding.failure negated)).2) := by
  rw [settle, if_neg (ne_true_of_eq_false fails)]
  rfl

end Finding

/-- That something ended with an error of a certain make. -/
def RaisesCell {α : Type} (ended : Outcome α × World) (cell : ErrorCell) : Prop :=
  ∃ error, ended.1 = .raised error ∧ ended.2.errorAt error = cell

section Examinations

variable [ObjectModel]

section Operators

variable (subject : Value)

theorem PropertyPredicate.yields_examine (predicate : PropertyPredicate) :
    (predicate.examine subject).Yields fun finding => finding.operator = predicate.name := by
  refine .bind fun rendered => ?_
  cases predicate with
  | ok => exact .bind fun holds => .pure rfl
  | isTrue => exact .pure rfl
  | isFalse => exact .pure rfl
  | isNull => exact .pure rfl
  | empty =>
      refine .bind fun sized => ?_
      split
      · exact .bind fun length => .pure rfl
      · exact .bind fun error => .raise

namespace CallPredicate

theorem yields_examineProperty (name : Value) (rest : List Value) :
    (examineProperty subject name rest).Yields fun found =>
      found.1.operator = property.name := by
  refine .bind fun rendered => .bind fun found => ?_
  cases rest with
  | nil => exact .bind fun shown => .pure rfl
  | cons value others =>
      show Effect.Yields (ite _ _ _) _
      split
      · exact .bind fun holds => .bind fun shown => .bind fun other => .pure rfl
      · exact .bind fun holds => .bind fun shown => .bind fun other => .pure rfl

omit [ObjectModel] in
theorem yields_examineInstanceOf (classes : Value) :
    (examineInstanceOf subject classes).Yields fun finding =>
      finding.operator = instanceOf.name := by
  refine .bind fun rendered => .bind fun holds => ?_
  split
  · exact .bind fun actual => .pure rfl
  · exact .bind fun kind => .bind fun error => .raise

/-- Every finding names the predicate that made it. -/
theorem yields_examine (predicate : CallPredicate) (arguments : List Value) :
    (predicate.examine subject arguments).Yields fun finding =>
      finding.operator = predicate.name := by
  unfold examine
  split
  · exact .bind fun rendered => .bind fun holds => .bind fun other => .pure rfl
  · refine .bind fun rendered => .bind fun low => .bind fun high => .bind fun above => ?_
    split
    · exact .bind fun holds => .bind fun expected => .pure rfl
    · exact .bind fun holds => .bind fun expected => .pure rfl
  · exact .bind fun rendered => .bind fun holds => .bind fun part => .pure rfl
  · exact .bind fun actual => .bind fun rendered => .bind fun lowered => .bind fun holds =>
      .bind fun shown => .pure rfl
  · exact yields_examineInstanceOf subject _
  · exact .bind fun rendered => .bind fun actual => .bind fun holds => .bind fun shown => .pure rfl
  · exact .bind fun rendered => .bind fun text => .bind fun compiled => .bind fun shown => .pure rfl
  · exact .bind fun rendered => .bind fun answer => .bind fun holds => .pure rfl
  · exact .bindOf (yields_examineProperty subject _ _) fun found named => .pure named
  · split
    · exact .bind fun rendered => .bind fun holds => .bind fun limit => .pure rfl
    · exact .bind fun error => .raise

end CallPredicate

end Operators

namespace CallPredicate

/-- Examine a subject with checked arguments: what was found, and the value that the chain
goes on with, if it is another one. -/
def inquire (predicate : CallPredicate) (subject : Value) (arguments : List Value) :
    Action (Finding × Option Value) :=
  match predicate, arguments with
  | .property, name :: rest => do
      let (finding, member) ← examineProperty subject name rest
      pure (finding, some member)
  | predicate, arguments => do
      let finding ← predicate.examine subject arguments
      pure (finding, none)

theorem yields_inquire (predicate : CallPredicate) (subject : Value) (arguments : List Value) :
    (predicate.inquire subject arguments).Yields fun found =>
      found.1.operator = predicate.name := by
  unfold inquire
  split
  · exact .bindOf (yields_examineProperty subject _ _) fun found named => .pure named
  · exact .bindOf (yields_examine subject _ _) fun finding named => .pure named

end CallPredicate

namespace Link

/-- What a link that names a predicate comes to before polarity counts, if it is written as
the predicate asks for: examined when it is read, or with arguments. -/
def examination? (link : Link) (subject : Value) : Option (Action (Finding × Option Value)) :=
  match ChainWord.ofName? link.name, link.arguments with
  | some (.examined predicate), none => some do
      let finding ← predicate.examine subject
      pure (finding, none)
  | some (.called predicate), some arguments => some do
      predicate.signature.check arguments
      predicate.inquire subject arguments
  | _, _ => none

/-- How a chain goes on behind a predicate that held: with the same context, or with a new
one over another value. -/
def onward (context : Value) : Option Value → Action Value
  | none => pure context
  | some member => AssertionEngine.expectation member

variable {link : Link} {subject : Value} {examination : Action (Finding × Option Value)}

/-- Reading a word of a context does what the word means. -/
theorem member_of_ofName? {word : ChainWord} (known : ChainWord.ofName? link.name = some word)
    (identity : Nat) (subject : Value) (negated : Bool) :
    (Value.assertion identity subject negated).member link.name =
      Value.contextMember identity subject negated link.name := by
  rw [Value.member, ChainWord.startsWith_of_ofName? known]
  rfl

/-- A predicate is examined, then its finding meets the polarity of the context, and then the
chain goes on. -/
theorem follow_of_examination? (asked : link.examination? subject = some examination)
    (identity : Nat) (negated : Bool) :
    link.follow (.assertion identity subject negated) =
      examination >>= fun found =>
        found.1.settle negated >>= fun _ =>
          onward (.assertion identity subject negated) found.2 := by
  rw [examination?] at asked
  split at asked
  · rename_i predicate known unwritten
    obtain rfl := Option.some.inj asked
    rw [follow, member_of_ofName? known, Value.contextMember, known, unwritten, bind_assoc]
    simp only [bind_assoc, pure_bind, onward]
  · rename_i predicate arguments known written
    obtain rfl := Option.some.inj asked
    rw [follow, member_of_ofName? known, Value.contextMember, known, written]
    simp only [pure_bind, Value.call, Value.callWith, Value.callContext,
      ChainWord.predicate?_name,
      CallPredicate.call, bind_assoc]
    congr 1
    funext _
    cases predicate <;> cases arguments <;>
      simp [CallPredicate.inquire, onward, AssertionEngine.expectation]
  · cases asked

/-- A finding names the predicate, whichever of its names was used. -/
theorem operator_of_examination? (asked : link.examination? subject = some examination) :
    examination.Yields fun found => found.1.operator = ChainWord.original link.name := by
  rw [examination?] at asked
  split at asked
  · rename_i predicate known unwritten
    obtain rfl := Option.some.inj asked
    rw [← ChainWord.asked?_eq_original known (show _ = some predicate.name from rfl)]
    exact .bindOf (predicate.yields_examine subject) fun finding named => .pure named
  · rename_i predicate arguments known written
    obtain rfl := Option.some.inj asked
    rw [← ChainWord.asked?_eq_original known (show _ = some predicate.name from rfl)]
    exact .bind fun _ => predicate.yields_inquire subject arguments
  · cases asked

section Polarities

variable {world later : World} {finding : Finding} {member : Option Value} {negated : Bool}

/-- An error met while the subject is examined leaves the predicate in any polarity. -/
theorem follow_of_raised (asked : link.examination? subject = some examination)
    {error : ErrorRef} (examined : examination world = (.raised error, later))
    (identity : Nat) (negated : Bool) :
    link.follow (.assertion identity subject negated) world = (.raised error, later) := by
  rw [follow_of_examination? asked, Effect.bind_apply, examined]

/-- A finding that the polarity accepts lets the chain go on. -/
theorem follow_of_passes (asked : link.examination? subject = some examination)
    (examined : examination world = (.returned (finding, member), later))
    (passes : finding.passes negated = true) (identity : Nat) :
    (link.follow (.assertion identity subject negated) world).1.isReturned := by
  rw [follow_of_examination? asked, Effect.bind_apply, examined]
  simp only [Finding.settle_of_passes passes, pure_bind]
  cases member with
  | none => rfl
  | some member => rfl

/-- A finding that the polarity does not accept ends the chain with a failed expectation. -/
theorem follow_of_not_passes (asked : link.examination? subject = some examination)
    (examined : examination world = (.returned (finding, member), later))
    (fails : finding.passes negated = false) (identity : Nat) :
    RaisesCell (link.follow (.assertion identity subject negated) world)
      (finding.failure negated) := by
  rw [follow_of_examination? asked, Effect.bind_apply, examined]
  simp only [Effect.bind_apply, Finding.settle_of_not_passes fails]
  exact ⟨_, rfl, World.errorAt_newError _ _⟩

/-- A subject without a length fails `empty` in any polarity, and in the same way. -/
theorem follow_empty_of_not_isSized (named : link.name = "empty") (read : link.arguments = none)
    {rendered : String} (shown : Action.render subject world = (.returned rendered, world))
    (unsized : subject.isSized world = false) :
    ∃ error later, later.errorAt error =
        { kind := .expectationFailed (.text "sized") subject (.text "empty")
          arguments := [.text ("expected " ++ rendered ++ " to have a length")]
          cause := none } ∧
      ∀ identity negated,
        link.follow (.assertion identity subject negated) world = (.raised error, later) := by
  have known : ChainWord.ofName? link.name = some (.examined .empty) := by
    rw [named]
    decide +kernel
  have asked : link.examination? subject =
      some (PropertyPredicate.empty.examine subject >>= fun finding => pure (finding, none)) := by
    simp only [examination?, known, read]
  refine ⟨_, _, World.errorAt_newError _ world, follow_of_raised asked ?_⟩
  simp only [PropertyPredicate.examine, Effect.bind_apply, shown, Effect.read_apply, unsized]
  rfl

end Polarities

/-- **Negation duality.** Take a predicate on a plain context and on a negated one over the same
subject, from the same world. Where examining the subject ends in an error, both end in that
error. Where it ends in a finding, just one of them succeeds, and the other raises the failed
expectation of the finding, which names the predicate. A subject without a length fails `empty`
on both sides with one and the same failed expectation. -/
theorem follow_in_both_polarities (asked : link.examination? subject = some examination)
    (first second : Nat) (world : World) :
    let plain := link.follow (.assertion first subject false) world
    let turned := link.follow (.assertion second subject true) world
    (∀ error later, examination world = (.raised error, later) →
        plain = (.raised error, later) ∧ turned = (.raised error, later)) ∧
      (∀ finding member later, examination world = (.returned (finding, member), later) →
        finding.operator = ChainWord.original link.name ∧
          (finding.holds = true ∧ plain.1.isReturned ∧
              RaisesCell turned (finding.failure true) ∨
            finding.holds = false ∧ turned.1.isReturned ∧
              RaisesCell plain (finding.failure false))) ∧
      (link.name = "empty" → ∀ rendered, Action.render subject world = (.returned rendered, world) →
        subject.isSized world = false →
          ∃ error later, plain = (.raised error, later) ∧ turned = (.raised error, later) ∧
            later.errorAt error =
              { kind := .expectationFailed (.text "sized") subject (.text "empty")
                arguments := [.text ("expected " ++ rendered ++ " to have a length")]
                cause := none }) := by
  intro plain turned
  refine ⟨?_, ?_, ?_⟩
  · intro error later examined
    exact ⟨follow_of_raised asked examined first false, follow_of_raised asked examined second true⟩
  · intro finding member later examined
    refine ⟨operator_of_examination? asked world (finding, member) later examined, ?_⟩
    cases holds : finding.holds with
    | true =>
        have accepted : finding.passes false = true := by rw [Finding.passes, holds]; rfl
        have refused : finding.passes true = false := by rw [Finding.passes, holds]; rfl
        exact .inl ⟨rfl, follow_of_passes asked examined accepted first,
          follow_of_not_passes asked examined refused second⟩
    | false =>
        have accepted : finding.passes true = true := by rw [Finding.passes, holds]; rfl
        have refused : finding.passes false = false := by rw [Finding.passes, holds]; rfl
        exact .inr ⟨rfl, follow_of_passes asked examined accepted second,
          follow_of_not_passes asked examined refused first⟩
  · intro named rendered shown unsized
    have read : link.arguments = none := by
      have known : ChainWord.ofName? link.name = some (.examined .empty) := by
        rw [named]
        decide +kernel
      rw [examination?, known] at asked
      cases written : link.arguments with
      | none => rfl
      | some arguments => rw [written] at asked; cases asked
    obtain ⟨error, later, made, raises⟩ := follow_empty_of_not_isSized named read shown unsized
    exact ⟨error, later, raises first false, raises second true, made⟩

end Link

end Examinations

/-- Five is five: asked by another name of the predicate, the plain context goes on, and the
negated one fails under the name of the original. -/
theorem Link.five_in_both_polarities :
    let link : Link := { name := "eql", arguments := some [.integer 5] }
    (link.follow (.assertion 0 (.integer 5) false) {}).1.isReturned ∧
      RaisesCell (link.follow (.assertion 1 (.integer 5) true) {})
        { kind := .expectationFailed (.integer 5) (.integer 5) (.text "equal")
          arguments := [.text "expected 5 not to equal 5"]
          cause := none } := by
  intro link
  have asked : link.examination? (.integer 5) =
      some (CallPredicate.equal.signature.check [.integer 5] >>= fun _ =>
        CallPredicate.equal.inquire (.integer 5) [.integer 5]) := rfl
  obtain ⟨-, found, -⟩ := Link.follow_in_both_polarities asked 0 1 {}
  obtain ⟨-, settled⟩ := found _ none {} rfl
  rcases settled with ⟨-, accepted, refused⟩ | ⟨differs, -⟩
  · exact ⟨accepted, refused⟩
  · exact absurd differs (by decide +kernel)

end DeferredSpec
