/-
# Executions retrace the way from the root

In a tree whose steps are functions, every execution that goes down in the history retraces the
way to its node: the node was given what is alike what the nodes above come to from nothing, and
it ended as the whole way does. This holds of the first attempt at a step, which is handed the
result of the step above, and of all further ones, which start over from the root. A course is a
part of the history of which this is known, along with how often a delay was called.
-/

import DeferredSpec.Proofs.Likeness.Runs

namespace DeferredSpec

/-- What lies below an eventual entry awaits the result of its steps. -/
theorem RetryEngine.awaits_of_isBelow {engine : RetryEngine} {tree : SpecTree}
    (complete : tree.losses = []) {case address : Address} (below : case <+: address)
    (eventual : tree.isBelow case [shouldEventually]) : engine.awaits tree address := by
  obtain ⟨rest, rfl⟩ := below
  rw [SpecTree.isBelow, SpecTree.trail_of_losses_eq_nil complete, List.any_eq_true] at eventual
  obtain ⟨entry, member, described⟩ := eventual
  rw [awaits, List.any_eq_true]
  refine ⟨entry, (tree.root.trailFrom_prefix [] case rest).subset member, ?_⟩
  rw [described, Bool.true_or]

theorem not_isReturned_of_failedExpectation {α : Type} {ended : Outcome α × Bench}
    (failed : failedExpectation ended) : ¬ ended.1.isReturned := by
  obtain ⟨outcome, later⟩ := ended
  cases outcome with
  | returned value => cases failed
  | raised error => exact Bool.false_ne_true

/-- The error of what ends alike is there. -/
theorem EndsAlike.has {base world : World} {reference : Outcome Value × World} {error : ErrorRef}
    (ends : EndsAlike base reference (.raised error, world)) : world.Has (.error error) := by
  cases ends with
  | raised alike _ => exact (Alike.has alike).2

namespace Happening

/-- An execution retraces the way to its node: the node was given what the nodes above come to,
and ended as the whole way does. `later` is the world in which this is looked at. -/
inductive Retraces (base : World) (tree : SpecTree) (later : World) : Happening → Prop
  | delayed : Retraces base tree later .delayed
  | executed {address : Address} {found : ActionTree} {previous : Value}
      {outcome : Outcome Value} (located : tree.root.subtree? address = some found)
      (before : EndsAlike base (tree.above address base) (.returned previous, later))
      (ends : EndsAlike base (tree.reach address base) (outcome, later)) :
      Retraces base tree later (.executed address previous outcome)

/-- A step below a case has ended with a failed expectation. -/
inductive Misses (case : Address) (world : World) : Happening → Prop
  | intro {address : Address} {previous : Value} {error : ErrorRef} (below : case <+: address)
      (deeper : case ≠ address) (failure : world.isAssertionFailure error) :
      Misses case world (.executed address previous (.raised error))

variable {base : World} {tree : SpecTree} {case : Address} {world later : World}
  {happening : Happening}

theorem Retraces.grow (retraces : happening.Retraces base tree world)
    (grown : world.Grows later) : happening.Retraces base tree later := by
  cases retraces with
  | delayed => exact .delayed
  | executed located before ends =>
      exact .executed located (before.grow (.refl _) grown) (ends.grow (.refl _) grown)

/-- An execution has missed what was expected if it lies below the case and ended with a failed
expectation. -/
theorem misses_executed_iff {address : Address} {previous : Value} {outcome : Outcome Value}
    {bench : Bench} :
    (Happening.executed address previous outcome).Misses case bench.world ↔
      (case <+: address ∧ case ≠ address) ∧ failedExpectation (outcome, bench) := by
  constructor
  · rintro ⟨below, deeper, failure⟩
    exact ⟨⟨below, deeper⟩, failure⟩
  · rintro ⟨⟨below, deeper⟩, failed⟩
    cases outcome with
    | returned value => cases failed
    | raised error => exact .intro below deeper failed

/-- Whether a step has missed what was expected can be told at any time later. -/
theorem Retraces.misses_iff (retraces : happening.Retraces base tree world)
    (grown : world.Grows later) : happening.Misses case later ↔ happening.Misses case world := by
  constructor
  · rintro ⟨below, deeper, failure⟩
    cases retraces with
    | executed _ _ ends =>
        refine .intro below deeper ?_
        rwa [World.isAssertionFailure, grown.errorAt ends.has] at failure
  · rintro ⟨below, deeper, failure⟩
    cases retraces with
    | executed _ _ ends =>
        refine .intro below deeper ?_
        rwa [World.isAssertionFailure, grown.errorAt ends.has]

end Happening

/-- Between two benches some things happened, and all executions among them retrace their way. -/
structure Bench.Retraced (base : World) (tree : SpecTree) (before : Bench)
    (added : List Happening) (after : Bench) : Prop where
  grows : before.world.Grows after.world
  history : after.history = before.history ++ added.toArray
  retraces : ∀ happening ∈ added, happening.Retraces base tree after.world

namespace Bench.Retraced

variable {base : World} {tree : SpecTree} {first second third : Bench}
  {added more : List Happening}

/-- Nothing went down in the history. -/
theorem still (grows : first.world.Grows second.world) (same : second.history = first.history) :
    Retraced base tree first [] second :=
  ⟨grows, by rw [same]; exact Array.append_empty.symm, fun _ member => nomatch member⟩

/-- One thing went down in the history. -/
theorem one {happening : Happening} (grows : first.world.Grows second.world)
    (same : second.history = first.history.push happening)
    (retraces : happening.Retraces base tree second.world) :
    Retraced base tree first [happening] second :=
  ⟨grows, by rw [same, Array.push_eq_append], fun _ member =>
    List.mem_singleton.mp member ▸ retraces⟩

protected theorem trans (early : Retraced base tree first added second)
    (late : Retraced base tree second more third) :
    Retraced base tree first (added ++ more) third where
  grows := early.grows.trans late.grows
  history := by simp [late.history, early.history]
  retraces happening member := by
    rcases List.mem_append.mp member with old | new
    · exact (early.retraces happening old).grow late.grows
    · exact late.retraces happening new

/-- What happens to the world alone does not go down in the history. -/
theorem grow (retraced : Retraced base tree first added second) {world : World}
    (grown : second.world.Grows world) :
    Retraced base tree first added { second with world } := by
  have idle : Retraced base tree second [] { second with world } := still grown rfl
  have onward := retraced.trans idle
  rwa [List.append_nil] at onward

end Bench.Retraced

/-- A course of what serves a case: all executions retrace their way, and the delay is called as
often as the budget allows if a step of an eventual case misses what was expected, which ends
the course, and not at all if none does. -/
structure Course {α : Type} (base : World) (tree : SpecTree) (budget : Nat) (case : Address)
    (before : Bench) (added : List Happening) (ended : Outcome α × Bench) : Prop
    extends Bench.Retraced base tree before added ended.2 where
  missed : tree.isBelow case [shouldEventually] →
    (∃ happening ∈ added, happening.Misses case ended.2.world) →
      ended.2.delays = before.delays + budget
  unmissed : (∀ happening ∈ added, ¬ happening.Misses case ended.2.world) →
    ended.2.delays = before.delays
  returned : ended.1.isReturned → ∀ happening ∈ added, ¬ happening.Misses case ended.2.world

namespace Course

variable {α β : Type} {base : World} {tree : SpecTree} {budget : Nat} {case : Address}
  {before middle after : Bench} {added more : List Happening}

/-- Where nothing is missed and no delay is called, it does not matter how a course ends. -/
theorem of_unmissed (retraced : before.Retraced base tree added after)
    (none : ∀ happening ∈ added, ¬ happening.Misses case after.world)
    (delays : after.delays = before.delays) (outcome : Outcome α) :
    Course base tree budget case before added (outcome, after) where
  toRetraced := retraced
  missed _ := fun ⟨happening, member, misses⟩ => absurd misses (none happening member)
  unmissed _ := delays
  returned _ := none

/-- Where nothing happens, nothing is missed. -/
theorem still (bench : Bench) (outcome : Outcome α) :
    Course base tree budget case bench [] (outcome, bench) :=
  .of_unmissed (.still (.refl _) rfl) (fun _ member => nomatch member) rfl outcome

/-- What is raised ends whatever it is raised in. -/
theorem reraised {error : ErrorRef}
    (course : Course base tree budget case before added ((.raised error : Outcome α), after)) :
    Course base tree budget case before added ((.raised error : Outcome β), after) :=
  ⟨course.toRetraced, course.missed, course.unmissed, fun returned => nomatch returned⟩

/-- What returns is gone on from. -/
protected theorem trans {value : α} {ended : Outcome β × Bench}
    (early : Course base tree budget case before added (.returned value, middle))
    (late : Course base tree budget case middle more ended) :
    Course base tree budget case before (added ++ more) ended := by
  have none := early.returned rfl
  have delays := early.unmissed none
  have still : ∀ happening ∈ added, ¬ happening.Misses case ended.2.world := by
    intro happening member
    rw [(early.retraces happening member).misses_iff late.grows]
    exact none happening member
  refine ⟨early.toRetraced.trans late.toRetraced, fun eventual missed => ?_, fun unmissed => ?_,
    fun returned => ?_⟩
  · obtain ⟨happening, member, misses⟩ := missed
    rcases List.mem_append.mp member with old | new
    · exact absurd misses (still happening old)
    · rw [late.missed eventual ⟨happening, new, misses⟩, delays]
  · rw [← delays]
    exact late.unmissed fun happening member =>
      unmissed happening (List.mem_append_right added member)
  · intro happening member
    rcases List.mem_append.mp member with old | new
    · exact still happening old
    · exact late.returned returned happening new

/-- What happens to the world alone changes no course. -/
theorem grow {outcome : Outcome α} {world : World}
    (course : Course base tree budget case before added (outcome, after))
    (grown : after.world.Grows world) :
    Course base tree budget case before added (outcome, { after with world }) := by
  have same : ∀ happening ∈ added,
      happening.Misses case world ↔ happening.Misses case after.world :=
    fun happening member => (course.retraces happening member).misses_iff grown
  refine ⟨course.toRetraced.grow grown, fun eventual missed => ?_, fun unmissed => ?_,
    fun returned happening member => ?_⟩
  · obtain ⟨happening, member, misses⟩ := missed
    exact course.missed eventual ⟨happening, member, (same happening member).mp misses⟩
  · exact course.unmissed fun happening member misses =>
      unmissed happening member ((same happening member).mpr misses)
  · rw [same happening member]
    exact course.returned returned happening member

end Course

namespace RetryEngine

variable {engine : RetryEngine} {tree : SpecTree} {base : World} {address : Address}
  {found : ActionTree} {previous : Value} {bench : Bench}

section Attempts

variable (steady : Steady base tree engine)
  (located : tree.root.subtree? address = some found)

include steady located

/-- Executing a node against what is alike what the nodes above come to retraces the way. -/
theorem execute_retraced (grown : base.Grows bench.world)
    (before : EndsAlike base (tree.above address base) (.returned previous, bench.world)) :
    let ended := tree.execute address found.here previous bench
    bench.Retraced base tree [.executed address previous ended.1] ended.2 ∧
      EndsAlike base (tree.reach address base) (worldOf ended) := by
  intro ended
  obtain ⟨outcome, world⟩ := SpecTree.execute_eq_act steady.complete steady.unheard address
    found.here previous bench
  obtain ⟨grows, ends⟩ := steady.functional.act located grown before
  have also : EndsAlike base (tree.reach address base) (worldOf ended) := by
    rw [worldOf, outcome, world]
    exact ends
  rw [← world] at grows
  exact ⟨.one grows (tree.execute_history address found.here previous bench)
    (.executed located (before.grow (.refl _) grows) also), also⟩

omit located in
/-- So does executing the whole way to a node, at each node on it. -/
theorem executeAlong_retraced (bench : Bench) (grown : base.Grows bench.world) :
    ∀ (address : Address) (found : ActionTree), tree.root.subtree? address = some found →
      ∃ added, bench.Retraced base tree added
        (tree.executeAlong (tree.root.trail address) .null bench).2 := by
  intro address
  induction address using List.reverseRecOn with
  | nil =>
      intro found located
      cases located
      have root : tree.root.subtree? [] = some tree.root := rfl
      have before : EndsAlike base (tree.above [] base) (.returned .null, bench.world) :=
        .returned (.null base base bench.world)
      obtain ⟨retraced, _⟩ := execute_retraced steady root grown before
      have alone : tree.executeAlong (tree.root.trail []) .null =
          tree.execute [] tree.root.here .null :=
        tree.executeAlong_concat [] [] tree.root.here .null
      rw [alone]
      exact ⟨_, retraced⟩
  | append_singleton parent index ih =>
      intro found located
      obtain ⟨around, before, there⟩ := ActionTree.exists_parent located
      obtain ⟨added, retraced⟩ := ih around before
      obtain ⟨grows, ends⟩ := executeAlong_alike steady before bench grown
      rw [ActionTree.trail_concat before there, SpecTree.executeAlong_concat, Effect.bind_apply]
      revert retraced grows ends
      rcases tree.executeAlong (tree.root.trail parent) .null bench with ⟨outcome, middle⟩
      intro retraced grows ends
      cases outcome with
      | raised error => exact ⟨added, retraced⟩
      | returned previous =>
          rw [worldOf, ← SpecTree.above_concat before there] at ends
          obtain ⟨here, _⟩ := execute_retraced steady located (grown.trans grows) ends
          exact ⟨_, retraced.trans here⟩

/-- A further attempt at a step calls the delay, and retraces the way to the step. -/
theorem retrial_retraced (number : Nat) (bench : Bench) (grown : base.Grows bench.world) :
    ∃ added, bench.Retraced base tree added (engine.retrial tree address number bench).2 := by
  rw [retrial, Effect.bind_apply, logInfo_apply]
  simp only [Effect.bind_apply, Effect.modify_apply]
  generalize asking : Bench.happened .delayed { bench with world := bench.world.record _ } = asked
  have called : bench.Retraced base tree [.delayed] asked := by
    subst asking
    exact .one (.record bench.world _) rfl .delayed
  obtain ⟨earlier, later⟩ := steady.harmless asked.world
  rw [Delay.around]
  revert earlier later
  rcases engine.delay.approach asked.world with ⟨world, onward⟩
  intro earlier later
  have begun := called.grow earlier
  obtain ⟨added, walked⟩ := executeAlong_retraced steady { asked with world }
    (grown.trans begun.grows) address found located
  exact ⟨_, (begun.trans walked).grow (later _ _)⟩

variable (grown : base.Grows bench.world)
  (before : EndsAlike base (tree.above address base) (.returned previous, bench.world))

include grown before

/-- The attempts at a step retrace the way to it. The first one is executed against what is
at hand. -/
theorem trial_retraced (number : Nat) :
    let attempt := engine.trial tree address found.here previous bench
    ∃ added, bench.Retraced base tree (.executed address previous (attempt 0).1 :: added)
      (attempt number).2 := by
  intro attempt
  induction number with
  | zero =>
      obtain ⟨retraced, _⟩ := execute_retraced steady located grown before
      refine ⟨[], ?_⟩
      simp only [attempt, trial]
      exact retraced
  | succ number ih =>
      obtain ⟨added, retraced⟩ := ih
      obtain ⟨more, again⟩ := retrial_retraced steady located (number + 1) (attempt number).2
        (grown.trans retraced.grows)
      refine ⟨added ++ more, ?_⟩
      have onward := retraced.trans again
      simp only [attempt, trial] at onward ⊢
      exact onward

/-- An execution that misses nothing of a case is a course of it, however it is put into words. -/
theorem execute_unmissed {case : Address} (budget : Nat) (outcome : Outcome Value)
    (hit : ¬ Happening.Misses case (tree.execute address found.here previous bench).2.world
      (.executed address previous (tree.execute address found.here previous bench).1)) :
    Course base tree budget case bench
      [.executed address previous (tree.execute address found.here previous bench).1]
      (outcome, (tree.execute address found.here previous bench).2) := by
  obtain ⟨retraced, _⟩ := execute_retraced steady located grown before
  refine .of_unmissed retraced (fun happening member => ?_)
    (tree.execute_delays address found.here previous bench) outcome
  cases List.mem_singleton.mp member
  exact hit

/-- Executing what does not lie below a case misses nothing of the case. -/
theorem execute_course {case : Address} (budget : Nat)
    (outside : case <+: address → case = address) :
    let ended := tree.execute address found.here previous bench
    Course base tree budget case bench [.executed address previous ended.1] ended := by
  intro ended
  refine execute_unmissed steady located grown before budget ended.1 fun misses => ?_
  obtain ⟨⟨below, deeper⟩, _⟩ := Happening.misses_executed_iff.mp misses
  exact deeper (outside below)

omit steady located grown before in
theorem isReturned_of_word {outcome : Outcome Value} {world : World}
    (returned : (word outcome world).1.isReturned) : outcome.isReturned := by
  cases outcome with
  | returned value => rfl
  | raised error =>
      rw [word, Effect.bind_apply] at returned
      revert returned
      rcases SpecError.reformatted error world with ⟨final, later⟩
      cases final <;> exact id

/-- The attempts at a step that misses what was expected call the delay once for each retry. -/
theorem trial_course {case : Address} {outcome : Outcome Value} {number : Nat}
    (failed : failedExpectation (engine.trial tree address found.here previous bench 0))
    (below : case <+: address) (deeper : case ≠ address)
    (spent : tree.isBelow case [shouldEventually] → number = engine.maxRetries)
    (raised : ¬ outcome.isReturned) :
    ∃ added, Course base tree engine.maxRetries case bench added
      (outcome, (engine.trial tree address found.here previous bench number).2) := by
  obtain ⟨added, retraced⟩ := trial_retraced steady located grown before number
  have first := retraced.retraces _ List.mem_cons_self
  have misses : Happening.Misses case
      (engine.trial tree address found.here previous bench number).2.world
      (.executed address previous (engine.trial tree address found.here previous bench 0).1) := by
    cases first with
    | executed _ _ ends =>
        refine Happening.misses_executed_iff.mpr ⟨⟨below, deeper⟩, ?_⟩
        rw [← failed]
        exact failedExpectation_congr ends (trial_alike steady located grown before 0).2
  refine ⟨_, retraced, fun eventual _ => ?_, fun none => ?_, fun returned => ?_⟩
  · rw [← spent eventual]
    exact engine.trial_delays number
  · exact absurd misses (none _ List.mem_cons_self)
  · exact absurd returned raised

/-- A run of a step of an eventual case spends the budget if the step misses what was expected,
and none of it otherwise. -/
theorem run_course {case : Address} (below : case <+: address) (deeper : case ≠ address) :
    ∃ added, Course base tree engine.maxRetries case bench added
      (engine.run tree address found.here previous bench) := by
  obtain ⟨reached, _⟩ := steady.functional.reach located (.refl base)
  have spent := retries_eq steady located grown before
  rw [run_eq_finish steady located grown before]
  revert spent
  generalize engine.retries tree address found.here previous bench = count
  intro spent
  obtain ⟨later, ends⟩ := trial_alike steady located grown before count
  obtain ⟨_, worded, _⟩ := word_alike reached (grown.trans later) ends
  simp only [finish_apply]
  suffices course : ∃ added, Course base tree engine.maxRetries case bench added
      ((word (engine.trial tree address found.here previous bench count).1
          (engine.trial tree address found.here previous bench count).2.world).1,
        (engine.trial tree address found.here previous bench count).2) from
    course.imp fun _ known => known.grow worded
  cases failed : failedExpectation (engine.trial tree address found.here previous bench 0) with
  | true =>
      have missed := failedExpectation_trial steady located grown before count
      rw [failed] at missed
      refine trial_course steady located grown before failed below deeper (fun eventual => ?_)
        fun returned => not_isReturned_of_failedExpectation missed (isReturned_of_word returned)
      rw [spent, failed, awaits_of_isBelow steady.complete below eventual]
      rfl
  | false =>
      rw [failed, Bool.false_and, if_neg Bool.false_ne_true] at spent
      subst spent
      refine ⟨_, execute_unmissed steady located grown before _ _ fun misses => ?_⟩
      obtain ⟨_, missed⟩ := Happening.misses_executed_iff.mp misses
      rw [trial] at failed
      rw [failed] at missed
      cases missed

end Attempts

end RetryEngine

end DeferredSpec
