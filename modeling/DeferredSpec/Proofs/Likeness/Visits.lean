/-
# Visits to cases of functions

In a tree whose steps are functions, a case has a verdict: it passes, or it fails with an error
that looks the same each time, whatever engine executes its steps. The groups on the way to it may
have been entered before or not. What they have left or failed with is alike what their own way
comes to, and stays so whatever is visited.
-/

import DeferredSpec.Proofs.Likeness.Retracing
import DeferredSpec.Proofs.Walk

namespace DeferredSpec

/-- What is said of a case: that it passes, or that it fails with an error like a given one. -/
inductive Verdict
  | pass
  | fail (world : World) (error : ErrorRef)

namespace Verdict

/-- An outcome meets a verdict. An error is ordinary, and alike the given one. -/
inductive Met {α : Type} (base : World) : Verdict → Outcome α → World → Prop
  | pass (value : α) (world : World) : Met base .pass (.returned value) world
  | fail {origin world : World} {reference error : ErrorRef}
      (alike : Alike base origin (.error reference) world (.error error))
      (ordinary : world.isOrdinary error) : Met base (.fail origin reference) (.raised error) world

variable {α : Type} {base world later : World} {verdict : Verdict}

/-- A verdict stays met when the world grows. -/
theorem Met.grow {outcome : Outcome α} (met : verdict.Met base outcome world)
    (grown : world.Grows later) : verdict.Met base outcome later := by
  cases met with
  | pass value => exact .pass value later
  | @fail origin _ reference error alike ordinary =>
      refine .fail (alike.grow (.refl origin) grown) ?_
      rw [World.isOrdinary, grown.errorAt (Alike.has alike).2]
      exact ordinary

/-- An error that meets a verdict is ordinary. -/
theorem Met.isOrdinary {error : ErrorRef}
    (met : verdict.Met base (.raised error : Outcome α) world) : world.isOrdinary error := by
  cases met with
  | fail _ ordinary => exact ordinary

/-- The verdict on what goes on from a step: if the step fails, its error decides. -/
def after (reference : Outcome Value × World) (onward : Verdict) : Verdict :=
  match reference with
  | (.returned _, _) => onward
  | (.raised error, origin) => .fail origin error

/-- Of two verdicts on what is done one after the other, the first failure decides. -/
def both : Verdict → Verdict → Verdict
  | .pass, other => other
  | .fail origin error, _ => .fail origin error

variable {tree : SpecTree} {budget : Nat} {case : Address}

/-- Whatever is done with what a step came to meets a verdict and is a course of the case, in any
world that grew out of the base. -/
def Governs (base : World) (tree : SpecTree) (budget : Nat) (case : Address) (verdict : Verdict)
    (before : Outcome Value × World) (execution : Value → Execution Unit) : Prop :=
  ∀ bench previous, base.Grows bench.world →
    EndsAlike base before (.returned previous, bench.world) →
      verdict.Met base (execution previous bench).1 (execution previous bench).2.world ∧
        ∃ added, Course base tree budget case bench added (execution previous bench)

/-- What is done after another step is governed by how that step ends. -/
theorem Governs.after {before reference : Outcome Value × World} {first : Value → Execution Value}
    {next : Value → Execution Unit} (onward : verdict.Governs base tree budget case reference next)
    (steady : ∀ bench previous, base.Grows bench.world →
      EndsAlike base before (.returned previous, bench.world) →
        EndsAlike base reference (worldOf (first previous bench)) ∧
          ∃ added, Course base tree budget case bench added (first previous bench)) :
    (Verdict.after reference verdict).Governs base tree budget case before fun previous =>
      first previous >>= next := by
  intro bench previous grown begun
  obtain ⟨ends, added, course⟩ := steady bench previous grown begun
  simp only [Effect.bind_apply]
  revert ends course
  obtain ⟨outcome, origin⟩ := reference
  rcases first previous bench with ⟨ending, middle⟩
  intro ends course
  cases ends with
  | raised alike ordinary => exact ⟨.fail alike ordinary, added, course.reraised⟩
  | @returned _ _ _ result alike =>
      obtain ⟨met, more, further⟩ :=
        onward middle result (grown.trans course.grows) (.returned alike)
      exact ⟨met, _, course.trans further⟩

/-- Of two things done with the same value, the first that fails decides. -/
theorem Governs.both {other : Verdict} {before : Outcome Value × World}
    {first second : Value → Execution Unit}
    (one : verdict.Governs base tree budget case before first)
    (two : other.Governs base tree budget case before second) :
    (verdict.both other).Governs base tree budget case before fun previous =>
      first previous >>= fun _ => second previous := by
  intro bench previous grown begun
  obtain ⟨met, added, course⟩ := one bench previous grown begun
  simp only [Effect.bind_apply]
  revert met course
  rcases first previous bench with ⟨ending, middle⟩
  intro met course
  cases met with
  | fail alike ordinary => exact ⟨.fail alike ordinary, added, course⟩
  | pass _ =>
      obtain ⟨last, more, further⟩ := two middle previous (grown.trans course.grows)
        (begun.grow (.refl before.2) course.grows)
      exact ⟨last, _, course.trans further⟩

end Verdict

namespace RetryEngine

/-- What goes on from a step goes on from it put into words: only what has returned is gone on
from. -/
theorem governs_word {base : World} {tree : SpecTree} {budget : Nat} {case : Address}
    {verdict : Verdict} (reference : Outcome Value × World) {next : Value → Execution Unit}
    (governs : verdict.Governs base tree budget case reference next) :
    verdict.Governs base tree budget case (word reference.1 reference.2) next := by
  intro bench previous grown begun
  obtain ⟨outcome, world⟩ := reference
  cases outcome with
  | returned value => exact governs bench previous grown begun
  | raised error =>
      -- What is raised is raised again in other words, so nothing goes on from it.
      rw [word, Effect.bind_apply] at begun
      generalize SpecError.reformatted error _ = ended at begun
      obtain ⟨final, later⟩ := ended
      cases final <;> cases begun

end RetryEngine

namespace SpecTree

section Verdicts

variable (tree : SpecTree) (base : World)

mutual

/-- The verdict on a step of a chain and what is below it. -/
def chainVerdict (address : Address) : ActionTree → Verdict
  | .node _ children =>
      .after (RetryEngine.word (tree.reach address base).1 (tree.reach address base).2)
        (chainVerdicts address 0 children)

/-- The verdict on steps below the same node, the first of which has the given position. -/
def chainVerdicts (parent : Address) (next : Nat) : List ActionTree → Verdict
  | [] => .pass
  | child :: children =>
      (chainVerdict (parent ++ [next]) child).both (chainVerdicts parent (next + 1) children)

end

/-- The verdict on a case: the groups above it come first, then the case, then what is below. -/
def caseVerdict (address : Address) (children : List ActionTree) : Verdict :=
  .after (tree.above address base)
    (.after (tree.reach address base) (tree.chainVerdicts base address 0 children))

end Verdicts

variable {tree : SpecTree} {engine : RetryEngine} {base : World} {case : Address}

mutual

/-- Executing a step and what is below it meets the verdict. -/
theorem follow_governs (steady : Steady base tree engine) :
    ∀ (found : ActionTree) (address : Address), tree.root.subtree? address = some found →
      case <+: address → case ≠ address →
      (tree.chainVerdict base address found).Governs base tree engine.maxRetries case
        (tree.above address base) fun previous => tree.follow engine address previous found
  | .node here children, address, located, below, deeper => by
      have governs := followAll_governs steady children address 0 (fun position child there => by
        rw [Nat.zero_add]
        exact ActionTree.subtree?_concat located there) below
      have steps : (fun previous => tree.follow engine address previous (.node here children)) =
          fun previous => engine.run tree address here previous >>= fun result =>
            tree.followAll engine address 0 result children :=
        funext fun previous => by rw [follow]
      rw [steps, chainVerdict]
      have onward := RetryEngine.governs_word (tree.reach address base) governs
      refine onward.after fun bench previous grown before => ?_
      obtain ⟨_, ends⟩ := RetryEngine.run_alike steady located grown before
      exact ⟨ends, RetryEngine.run_course steady located grown before below deeper⟩

/-- Executing steps below the same node meets the verdict. -/
theorem followAll_governs (steady : Steady base tree engine) :
    ∀ (children : List ActionTree) (parent : Address) (next : Nat),
      (∀ (position : Nat) (child : ActionTree), children[position]? = some child →
        tree.root.subtree? (parent ++ [next + position]) = some child) →
      case <+: parent →
      (tree.chainVerdicts base parent next children).Governs base tree engine.maxRetries case
        (tree.reach parent base) fun previous => tree.followAll engine parent next previous children
  | [], parent, next, _, _ => by
      have steps : (fun previous => tree.followAll engine parent next previous []) =
          fun _ => pure () :=
        funext fun previous => by rw [followAll]
      rw [steps, chainVerdicts]
      exact fun bench _ _ _ => ⟨.pass () bench.world, [], .still bench (.returned ())⟩
  | child :: children, parent, next, located, below => by
      have here := located 0 child rfl
      obtain ⟨around, before, there⟩ := ActionTree.exists_parent here
      have deeper : case ≠ parent ++ [next] := by
        rintro rfl
        exact not_concat_prefix parent next below
      have one := follow_governs steady child (parent ++ [next]) here
        (below.trans (List.prefix_append parent [next])) deeper
      have others := followAll_governs steady children parent (next + 1)
        (fun position other found => by
          rw [Nat.add_right_comm]
          exact located (position + 1) other found) below
      have above : tree.above (parent ++ [next]) = tree.reach parent := above_concat before there
      have steps :
          (fun previous => tree.followAll engine parent next previous (child :: children)) =
            fun previous => tree.follow engine (parent ++ [next]) previous child >>= fun _ =>
              tree.followAll engine parent (next + 1) previous children :=
        funext fun previous => by rw [followAll]
      rw [above] at one
      rw [steps, chainVerdicts]
      exact one.both others

end

end SpecTree

/-- What the groups of a tour have left or failed with is alike what the way to them comes
to. -/
structure Tour.IsSound (base : World) (tree : SpecTree) (tour : Tour) : Prop where
  grown : base.Grows tour.bench.world
  stored : ∀ address result, tour.standing address = .stored result →
    EndsAlike base (tree.reach address base) (.returned result, tour.bench.world)
  failed : ∀ address error, tour.standing address = .failed error →
    EndsAlike base (tree.reach address base) (.raised error, tour.bench.world)

/-- A part of a tour leaves it sound, ends as it should and is a course of a case. -/
structure Tour.Proceeds (base : World) (tree : SpecTree) (budget : Nat) (case : Address)
    (reference : Outcome Value × World) (tour : Tour) (ended : Outcome Value × Tour) : Prop where
  sound : ended.2.IsSound base tree
  alike : EndsAlike base reference (ended.1, ended.2.bench.world)
  course : ∃ added, Course base tree budget case tour.bench added (ended.1, ended.2.bench)

/-- Writing to the log changes nothing else. -/
theorem World.Grows.logComposed (level : Nat) (source : String) (message : World → Wording)
    (world : World) : world.Grows (Action.logComposed level source message world).2 := by
  rw [Action.logComposed, Effect.modify_apply]
  cases message world with
  | ok text => exact .record world _
  | error _ => exact .refl world

namespace Tour.IsSound

variable {base : World} {tree : SpecTree} {tour : Tour}

/-- No group was entered yet. -/
theorem fresh {bench : Bench} (grown : base.Grows bench.world) :
    Tour.IsSound base tree { bench := bench } where
  grown := grown
  stored _ _ known := nomatch known
  failed _ _ known := nomatch known

/-- A tour stays sound when its world grows. -/
theorem grow (sound : tour.IsSound base tree) {bench : Bench}
    (grown : tour.bench.world.Grows bench.world) :
    Tour.IsSound base tree { tour with bench } where
  grown := sound.grown.trans grown
  stored address result known := (sound.stored address result known).grow (.refl _) grown
  failed address error known := (sound.failed address error known).grow (.refl _) grown

/-- A tour stays sound when a group has left what it should. -/
theorem setStored (sound : tour.IsSound base tree) {address : Address} {result : Value}
    (ends : EndsAlike base (tree.reach address base) (.returned result, tour.bench.world)) :
    (tour.setStanding address (.stored result)).IsSound base tree where
  grown := sound.grown
  stored other value known := by
    simp only [Tour.setStanding] at known
    split at known
    · next same =>
        cases known
        exact same ▸ ends
    · exact sound.stored other value known
  failed other error known := by
    simp only [Tour.setStanding] at known
    split at known
    · cases known
    · exact sound.failed other error known

/-- A tour stays sound when a group has failed as it should. -/
theorem setFailed (sound : tour.IsSound base tree) {address : Address} {error : ErrorRef}
    (ends : EndsAlike base (tree.reach address base) (.raised error, tour.bench.world)) :
    (tour.setStanding address (.failed error)).IsSound base tree where
  grown := sound.grown
  stored other value known := by
    simp only [Tour.setStanding] at known
    split at known
    · cases known
    · exact sound.stored other value known
  failed other found known := by
    simp only [Tour.setStanding] at known
    split at known
    · next same =>
        cases known
        exact same ▸ ends
    · exact sound.failed other found known

end Tour.IsSound

namespace SpecTree

variable {tree : SpecTree} {engine : RetryEngine} {base : World} {address case : Address}
  {found : ActionTree} {previous : Value} {tour : Tour}

/-- Entering a group ends as the way to it does, whether it was entered before or not. -/
theorem enter_proceeds (steady : Steady base tree engine) (sound : tour.IsSound base tree)
    (located : tree.root.subtree? address = some found)
    (before : EndsAlike base (tree.above address base) (.returned previous, tour.bench.world))
    (budget : Nat) (outside : case <+: address → case = address) (title : String) :
    Tour.Proceeds base tree budget case (tree.reach address base) tour
      (tree.enter address found.here title previous tour) := by
  rw [enter, Effect.bind_apply, Effect.read_apply]
  dsimp only
  cases standing : tour.standing address with
  | stored result => exact ⟨sound, sound.stored address result standing, [], .still _ _⟩
  | failed error => exact ⟨sound, sound.failed address error standing, [], .still _ _⟩
  | pending =>
      obtain ⟨_, ends⟩ := RetryEngine.execute_retraced steady located sound.grown before
      have course := RetryEngine.execute_course steady located sound.grown before budget outside
      dsimp only
      rw [Effect.bind_apply, Tour.capture_apply, Tour.execute_apply]
      revert ends course
      generalize Happening.executed _ _ _ = happening
      rcases tree.execute address found.here previous tour.bench with ⟨outcome, bench⟩
      intro ends course
      have later := sound.grow course.grows
      cases outcome with
      | returned result => exact ⟨later.setStored ends, ends, _, course⟩
      | raised error =>
          have caught : bench.world.isOrdinary error = true := ends.isOrdinary
          have told := World.Grows.logComposed errorLevel suiteLogger
            (Rig.hookFailure title error) bench.world
          have again := ends.grow (.refl _) told
          simp only [caught, if_true, Effect.bind_apply, Tour.execute_apply,
            Execution.ofAction_apply, Effect.modify_apply, Effect.raise_apply]
          exact ⟨(later.grow told).setFailed again, again, _, course.grow told⟩

/-- Entering the groups above a node ends as the way to them does. -/
theorem enterAll_proceeds (steady : Steady base tree engine) (world : World) (budget : Nat) :
    ∀ (address : Address) (found : ActionTree), tree.root.subtree? address = some found →
      address <+: case →
      ∃ trail, tree.root.trail address = trail ++ [(address, found.here)] ∧
        ∀ tour : Tour, tour.IsSound base tree →
          Tour.Proceeds base tree budget case (tree.above address base) tour
            (tree.enterAll world trail .null tour) := by
  intro address
  induction address using List.reverseRecOn with
  | nil =>
      intro found located _
      cases located
      exact ⟨[], rfl, fun tour sound =>
        ⟨sound, .returned (.null base base _), [], .still tour.bench _⟩⟩
  | append_singleton parent index ih =>
      intro found located around
      obtain ⟨group, before, there⟩ := ActionTree.exists_parent located
      have above := (List.prefix_append parent [index]).trans around
      obtain ⟨trail, way, proceeds⟩ := ih group before above
      refine ⟨trail ++ [(parent, group.here)], ?_, fun tour sound => ?_⟩
      · rw [ActionTree.trail_concat before there, way]
      · rw [enterAll_append, above_concat before there, Effect.bind_apply]
        obtain ⟨later, ends, added, course⟩ := proceeds tour sound
        revert later ends course
        rcases tree.enterAll world trail .null tour with ⟨outcome, middle⟩
        intro later ends course
        cases outcome with
        | raised error => exact ⟨later, reach_alike_of_raised before ends, added, course⟩
        | returned previous =>
            obtain ⟨sound, alike, more, further⟩ := enter_proceeds steady later before ends budget
              (fun below => below.eq_of_length_le above.length_le)
              (world.answer (groupTitle group.here))
            exact ⟨sound, alike, _, course.trans further⟩

/-- Executing a case and what is below it meets a verdict. -/
theorem case_governs (steady : Steady base tree engine) {here : ActionNode}
    {children : List ActionTree}
    (located : tree.root.subtree? address = some (.node here children)) :
    (Verdict.after (tree.reach address base)
        (tree.chainVerdicts base address 0 children)).Governs base tree engine.maxRetries address
      (tree.above address base) fun previous =>
        tree.execute address here previous >>= fun result =>
          tree.followAll engine address 0 result children := by
  have governs := followAll_governs steady children address 0 (fun position child there => by
    rw [Nat.zero_add]
    exact ActionTree.subtree?_concat located there) List.prefix_rfl
  refine governs.after fun bench previous grown before => ?_
  obtain ⟨_, ends⟩ := RetryEngine.execute_retraced steady located grown before
  exact ⟨ends, _, RetryEngine.execute_course steady located grown before engine.maxRetries
    fun _ => rfl⟩

/-- A visit leaves a tour sound, meets a verdict and is a course of the case. -/
structure Visited (base : World) (tree : SpecTree) (budget : Nat) (case : Address)
    (verdict : Verdict) (tour : Tour) (ended : Outcome Unit × Tour) : Prop where
  sound : ended.2.IsSound base tree
  met : verdict.Met base ended.1 ended.2.bench.world
  course : ∃ added, Course base tree budget case tour.bench added (ended.1, ended.2.bench)

/-- Whatever was visited before, a visit to a case meets its verdict. -/
theorem visit_proceeds (steady : Steady base tree engine) (world : World) {here : ActionNode}
    {children : List ActionTree}
    (located : tree.root.subtree? address = some (.node here children)) :
    ∃ trail : List (Address × ActionNode), tree.root.trail address = trail ++ [(address, here)] ∧
      ∀ tour : Tour, tour.IsSound base tree →
        Visited base tree engine.maxRetries address (tree.caseVerdict base address children) tour
          (tree.visit engine world trail address here children tour) := by
  obtain ⟨trail, way, proceeds⟩ :=
    enterAll_proceeds steady world engine.maxRetries address _ located List.prefix_rfl
  have governs := case_governs steady located
  refine ⟨trail, way, fun tour sound => ?_⟩
  obtain ⟨later, ends, added, course⟩ := proceeds tour sound
  rw [visit, Effect.bind_apply, caseVerdict]
  revert governs later ends course
  generalize tree.above address base = reached
  rcases tree.enterAll world trail .null tour with ⟨outcome, middle⟩
  intro governs later ends course
  cases ends with
  | raised alike ordinary => exact ⟨later, .fail alike ordinary, added, course.reraised⟩
  | @returned _ _ _ previous alike =>
      obtain ⟨met, more, further⟩ := governs middle.bench previous later.grown (.returned alike)
      exact ⟨later.grow further.grows, met, _, course.trans further⟩

end SpecTree

end DeferredSpec
