/-
# Entering groups on both sides

A part of the walk through a staged tree and a part of a run of its suite go in step if
they end alike whenever the tour mirrors the rig. Preparing a group is entering it:
whether its hooks have run, have failed or are still to run is what its standing says,
and what the cell holds then is the result that the walk remembers.
-/

import DeferredSpec.Proofs.Preparation
import DeferredSpec.Proofs.Staging

namespace DeferredSpec

namespace Staging

variable {staging : Staging} {α β γ δ : Type} {tour : Tour} {rig : Rig Runner}

namespace EndAlike

variable {correspond : α → β → Rig Runner → Prop} {further : γ → δ → Rig Runner → Prop}

/-- Sequences end alike if their parts do. -/
theorem bind {first : Effect Tour α} {other : Effect (Rig Runner) β}
    {next : α → Effect Tour γ} {continuation : β → Effect (Rig Runner) δ}
    (alike : staging.EndAlike correspond (first tour) (other rig))
    (onward : ∀ left right tour rig, correspond left right rig → staging.Mirrors tour rig →
      staging.EndAlike further (next left tour) (continuation right rig)) :
    staging.EndAlike further ((first >>= next) tour) ((other >>= continuation) rig) := by
  rw [Effect.bind_apply, Effect.bind_apply]
  revert alike
  generalize first tour = ended
  generalize other rig = finished
  rintro (⟨results, mirrors⟩ | ⟨bench, stands, mirrors⟩)
  · exact onward _ _ _ _ results mirrors
  · exact .raised bench stands mirrors

/-- What corresponds may be weakened. -/
theorem imp {ended : Outcome α × Tour} {finished : Outcome β × Rig Runner}
    {weaker : α → β → Rig Runner → Prop}
    (alike : staging.EndAlike correspond ended finished)
    (weaken : ∀ left right rig, correspond left right rig → weaker left right rig) :
    staging.EndAlike weaker ended finished := by
  cases alike with
  | returned results mirrors => exact .returned (weaken _ _ _ results) mirrors
  | raised bench stands mirrors => exact .raised bench stands mirrors

/-- What the side of the rig returns in the end is of no matter. -/
theorem andThen {first : Effect Tour α} {other : Effect (Rig Runner) β}
    (alike : staging.EndAlike correspond (first tour) (other rig)) (value : δ) :
    staging.EndAlike (fun _ _ _ => True) (first tour) ((other >>= fun _ => pure value) rig) := by
  rw [← bind_pure first]
  exact alike.bind fun _ _ _ _ _ mirrors => .returned trivial mirrors

/-- What is executed on the bench ends alike on both sides. -/
theorem execute (mirrors : staging.Mirrors tour rig) (execution : Execution α) :
    staging.EndAlike (fun left right _ => left = right) (Tour.execute execution tour)
      (Rig.execute execution rig) := by
  rw [Tour.execute_apply, Rig.execute_apply, mirrors.bench]
  have later : staging.Mirrors { tour with bench := (execution tour.bench).2 }
      { rig with bench := (execution tour.bench).2 } :=
    ⟨rfl, mirrors.roomy, mirrors.standing⟩
  cases (execution tour.bench).1 with
  | returned value => exact .returned rfl later
  | raised error => exact .raised rfl later.stands fun _ => later

/-- Catching errors keeps the likeness. -/
theorem capture {effect : Effect Tour α} {other : Effect (Rig Runner) β}
    (alike : staging.EndAlike correspond (effect tour) (other rig)) :
    staging.EndAlike
      (fun left right rig =>
        (∃ value result, left = .returned value ∧ right = .returned result ∧
          correspond value result rig) ∨
        ∃ error, left = .raised error ∧ right = .raised error)
      (Tour.capture effect tour) (Rig.capture other rig) := by
  rw [Tour.capture_apply, Rig.capture_apply]
  revert alike
  generalize effect tour = ended
  generalize other rig = finished
  rintro (⟨results, mirrors⟩ | ⟨bench, stands, mirrors⟩)
  · exact .returned (.inl ⟨_, _, rfl, rfl, results⟩) mirrors
  · simp only [bench]
    split
    · next ordinary => exact .returned (.inr ⟨_, rfl, rfl⟩) (mirrors ordinary)
    · exact .raised bench stands mirrors

end EndAlike

/-- The tour mirrors the rig again once a group is settled on both sides. -/
theorem mirrors_of_settled (later : Rig Runner) (standing : Standing)
    {progress : GroupPath → Preparation} {post : Post} {preparation : Preparation}
    (roomy : ∀ post ∈ staging.posts, post.cell < rig.cells.size)
    (outermost : ∀ error, progress [] ≠ .failed error)
    (agree : ∀ post ∈ staging.posts,
      (tour.standing post.address).Agrees (progress (0 :: post.address)) rig.cells[post.cell]?)
    (member : post ∈ staging.posts)
    (isSuite : later.IsSuite staging.runner
      ((staging.suite progress).setProgress (0 :: post.address) preparation))
    (size : later.cells.size = rig.cells.size)
    (others : ∀ cell, cell ≠ post.cell → later.cells[cell]? = rig.cells[cell]?)
    (settled : standing.Agrees preparation later.cells[post.cell]?) :
    staging.Mirrors (Tour.setStanding post.address standing ⟨later.bench, tour.standing⟩)
      later where
  bench := rfl
  roomy other listed := by
    rw [size]
    exact roomy other listed
  standing := by
    refine ⟨_, isSuite, fun error => ?_, fun other listed => ?_⟩
    · simpa [Suite.setProgress] using outermost error
    · have distinct := ActionTree.cell_eq_iff_of_mem_posts listed member
      by_cases same : other.address = post.address
      · have cell := distinct.mpr same
        simpa [Tour.setStanding, same, cell] using settled
      · have cell : other.cell ≠ post.cell := fun equal => same (distinct.mp equal)
        rw [others _ cell]
        simpa [Tour.setStanding, same] using agree other listed

variable {post : Post} {found : ActionTree} {source : Source} {previous : Value} {title : String}

/-- Preparing a group that was not prepared yet is executing it. -/
theorem endAlike_enter_pending {progress : GroupPath → Preparation}
    (mirrors : staging.Mirrors tour rig)
    (isSuite : rig.IsSuite staging.runner (staging.suite progress))
    (outermost : ∀ error, progress [] ≠ .failed error)
    (agree : ∀ post ∈ staging.posts,
      (tour.standing post.address).Agrees (progress (0 :: post.address)) rig.cells[post.cell]?)
    (member : post ∈ staging.posts)
    (located : staging.whole.root.subtree? post.address = some found)
    (known : ∀ progress, (staging.suite progress).groupAt (0 :: post.address) =
      (title, [.groupHook ⟨staging.index, post.address⟩ source ⟨post.cell⟩]))
    (above : Rig.read source rig = (.returned previous, rig))
    (standing : tour.standing post.address = .pending)
    (prepared : progress (0 :: post.address) = .pending) :
    staging.EndAlike
      (fun result _ rig => Rig.read (.kept ⟨post.cell⟩) rig = (.returned result, rig))
      (staging.whole.enter post.address found.here title previous tour)
      (Rig.prepare staging.forest staging.runner (0 :: post.address) rig) := by
  generalize begins : rig.withSuite staging.runner
    ((staging.suite progress).setProgress (0 :: post.address) .done) = begun
  have begunSuite : begun.IsSuite staging.runner
      ((staging.suite progress).setProgress (0 :: post.address) .done) := by
    rw [← begins]
    exact isSuite.withSuite _
  have begunBench : begun.bench = tour.bench := by
    rw [← begins, Rig.withSuite_bench, mirrors.bench]
  have begunCells : begun.cells = rig.cells := by rw [← begins, Rig.withSuite_cells]
  have ran := Body.run_groupHook ⟨post.cell⟩ staging.placed located
    (Rig.read_congr (begunBench.trans mirrors.bench.symm) begunCells above)
  rw [begunBench] at ran
  rw [SpecTree.enter, Rig.prepare, Effect.bind_apply, Effect.bind_apply,
    Rig.readSuite_of_isSuite isSuite, Effect.read_apply]
  simp only [id, suite_progress, standing, prepared, Effect.bind_apply,
    Rig.changeSuite_of_isSuite isSuite, begins]
  rw [Tour.capture_apply, Tour.execute_apply]
  rcases executed : staging.whole.execute post.address found.here previous tour.bench with
    ⟨outcome, bench⟩
  rw [executed] at ran
  cases outcome with
  | returned result =>
      have once := Rig.runHook_of_returned staging.runner (0 :: post.address) title ran
      rw [Rig.runHooks_single begunSuite (known _) once begunSuite (known _)]
      have bound : post.cell < begun.cells.size := begunCells ▸ mirrors.roomy post member
      refine .returned (by simp [Rig.read, Rig.cellValue, bound]) ?_
      refine mirrors_of_settled { begun with bench, cells := _ } _ mirrors.roomy outermost agree
        member begunSuite ?_ ?_ ?_
      · simp [begunCells]
      · intro cell distinct
        simp [begunCells, distinct.symm]
      · simp [Standing.Agrees, bound]
  | raised error =>
      cases ordinary : bench.world.isOrdinary error with
      | false =>
          have once := Rig.runHook_of_escaped staging.runner (0 :: post.address) title ran ordinary
          rw [Rig.runHooks_single begunSuite (known _) once begunSuite (known _)]
          simp only [ordinary]
          refine .raised rfl ⟨⟨_, begunSuite⟩, ?_⟩ (by simp [ordinary])
          simpa [begunCells] using mirrors.roomy
      | true =>
          have once := Rig.runHook_of_raised staging.runner (0 :: post.address) title ran ordinary begunSuite
          rw [Suite.setProgress_setProgress] at once
          have failedSuite := begunSuite.withSuite
            ((staging.suite progress).setProgress (0 :: post.address) (.failed error))
          rw [Rig.runHooks_single begunSuite (known _) once failedSuite (known _)]
          simp only [ordinary, if_true, Effect.bind_apply, Tour.execute_apply,
            Execution.ofAction_apply, Action.logComposed, Effect.modify_apply, Effect.raise_apply]
          have settled := mirrors_of_settled
            (Rig.withSuite staging.runner
              ((staging.suite progress).setProgress (0 :: post.address) (.failed error))
              (Rig.logHookFailure title error { begun with bench }))
            (.failed error) mirrors.roomy outermost agree member failedSuite (congrArg Array.size begunCells)
            (fun cell _ => congrArg (·[cell]?) begunCells) rfl
          exact .raised rfl settled.stands fun _ => settled

/-- Preparing a group is entering it. -/
theorem endAlike_enter (mirrors : staging.Mirrors tour rig) (member : post ∈ staging.posts)
    (located : staging.whole.root.subtree? post.address = some found)
    (known : ∀ progress, (staging.suite progress).groupAt (0 :: post.address) =
      (title, [.groupHook ⟨staging.index, post.address⟩ source ⟨post.cell⟩]))
    (above : Rig.read source rig = (.returned previous, rig)) :
    staging.EndAlike
      (fun result _ rig => Rig.read (.kept ⟨post.cell⟩) rig = (.returned result, rig))
      (staging.whole.enter post.address found.here title previous tour)
      (Rig.prepare staging.forest staging.runner (0 :: post.address) rig) := by
  obtain ⟨progress, isSuite, outermost, agree⟩ := mirrors.standing
  have agrees := agree post member
  cases standing : tour.standing post.address with
  | pending =>
      cases prepared : progress (0 :: post.address) with
      | pending =>
          exact endAlike_enter_pending mirrors isSuite outermost agree member located known above
            standing prepared
      | done => simp [standing, prepared, Standing.Agrees] at agrees
      | failed error => simp [standing, prepared, Standing.Agrees] at agrees
  | stored result =>
      cases prepared : progress (0 :: post.address) with
      | done =>
          rw [standing, prepared] at agrees
          have held : rig.cells[post.cell]? = some (some result) := agrees
          rw [SpecTree.enter, Rig.prepare, Effect.bind_apply, Effect.bind_apply,
            Rig.readSuite_of_isSuite isSuite, Effect.read_apply]
          simp only [id, suite_progress, standing, prepared]
          exact .returned (by simp [Rig.read, Rig.cellValue, held]) mirrors
      | pending => simp [standing, prepared, Standing.Agrees] at agrees
      | failed error => simp [standing, prepared, Standing.Agrees] at agrees
  | failed error =>
      cases prepared : progress (0 :: post.address) with
      | failed other =>
          rw [standing, prepared] at agrees
          obtain rfl : error = other := agrees
          rw [SpecTree.enter, Rig.prepare, Effect.bind_apply, Effect.bind_apply,
            Rig.readSuite_of_isSuite isSuite, Effect.read_apply]
          simp only [id, suite_progress, standing, prepared]
          exact .raised mirrors.bench mirrors.stands fun _ => mirrors
      | pending => simp [standing, prepared, Standing.Agrees] at agrees
      | done => simp [standing, prepared, Standing.Agrees] at agrees

end Staging

end DeferredSpec
