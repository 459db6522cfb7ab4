/-
# When realization returns

Realization does nothing that can fail but compose titles, which are made of descriptions and
of rendered arguments. So a tree of groups and cases is realized with a suite whenever its
titles can be composed.
-/

import DeferredSpec.Proofs.Registration
import DeferredSpec.Proofs.Spines

namespace DeferredSpec

/-- A sequence returns if its first part does and the rest goes on to return. -/
theorem Effect.returns_bind {σ α β : Type} {first : Effect σ α} {next : α → Effect σ β}
    {state middle : σ} {found : α} {value : β} (begun : first state = (.returned found, middle))
    (onward : ∃ later, next found middle = (.returned value, later)) :
    ∃ later, (first >>= next) state = (.returned value, later) := by
  obtain ⟨later, ended⟩ := onward
  exact ⟨later, bind_eq_returned_iff.mpr ⟨found, middle, begun, ended⟩⟩

namespace Rig

variable {runner : RunnerRef} {suite : Suite} {rig : Rig Runner}

/-- A title that can be composed is composed with any log. -/
theorem act_title_returns {world : World} {title : Action String} (ignores : title.IgnoresLog)
    (asks : title.OnlyAsks) (same : ∃ records, rig.bench.world = world.withRecords records)
    (composed : (title world).1.isReturned) :
    ∃ text, act title rig = (.returned text, rig) := by
  obtain ⟨records, same⟩ := same
  rcases told : title world with ⟨outcome, later⟩
  rw [told] at composed
  cases outcome with
  | raised error => cases composed
  | returned text =>
      obtain rfl := asks world text later told
      obtain ⟨written, ignored⟩ := ignores records later
      rw [told] at ignored
      have unchanged := asks _ _ _ ignored
      refine ⟨text, ?_⟩
      rw [act_apply, same, ignored, unchanged, ← same]

/-- A registration call returns. -/
theorem changeRunner_returns (change : Runner → World → Runner × World) :
    changeRunner runner change rig = (.returned (), (changeRunner runner change rig).2) := rfl

/-- A group is registered if its content is. -/
theorem group_returns {name : String} {content : Effect (Rig Runner) Unit}
    (filled : ∀ entered, changeRunner runner (SpecRunner.enter name) rig = (.returned (), entered) →
      ∃ later, content entered = (.returned (), later)) :
    ∃ later, group runner name content rig = (.returned (), later) := by
  obtain ⟨later, ended⟩ := filled _ (changeRunner_returns _)
  have attempted : content.attempt
      (changeRunner runner (SpecRunner.enter name) rig).2 = (.returned (.returned ()), later) := by
    rw [Effect.attempt_apply, ended]
  refine Effect.returns_bind rfl (Effect.returns_bind attempted ?_)
  exact Effect.returns_bind rfl ⟨_, rfl⟩

end Rig

namespace Realizer

open Rig

variable {realizer : Realizer} {whole : SpecTree} {index : Nat} {world : World}

mutual

/-- Realizing a tree of groups and cases with a suite returns if its titles can be
composed. -/
theorem realize_returns (complete : whole.losses = []) :
    ∀ (found : ActionTree) (address : Address) (source : Source) (suite : Suite)
      (rig : Rig Runner),
      found.isOutline → whole.IsTitled world address found →
      rig.IsSuite realizer.runner suite →
      (∃ records, rig.bench.world = world.withRecords records) →
      ∃ later, realizer.realize whole index address source found rig = (.returned (), later)
  | .node here children, address, source, suite, rig, outline, titled, isSuite, same => by
      rcases ActionTree.isOutline_node.mp outline with ⟨isGroup, lower⟩ | isCase
      · rw [SpecTree.IsTitled, isGroup] at titled
        obtain ⟨composed, below⟩ := titled
        obtain ⟨title, told⟩ := act_title_returns (ignoresLog_groupTitle here)
          (onlyAsks_groupTitle here) same composed
        simp only [realize, isGroup, SpecTree.require_of_losses_eq_nil complete,
          SpecTree.requireChildren_of_losses_eq_nil complete, act_pure, pure_bind]
        obtain ⟨logged, noted⟩ : ∃ logged, act (Action.log debugLevel realizationLogger
            ("registering group: " ++ title)) rig = (.returned (), logged) := ⟨_, rfl⟩
        have first := registered_log isSuite noted
        refine Effect.returns_bind told (Effect.returns_bind noted (group_returns ?_))
        intro entered opened
        have second := first.trans (registered_enter (first.isSuite isSuite) opened)
        obtain ⟨roomy, made⟩ : ∃ roomy, newCell entered =
            (.returned ⟨entered.cells.size⟩, roomy) := ⟨_, rfl⟩
        have third := second.trans (registered_newCell (second.isSuite isSuite) made).2
        obtain ⟨hooked, added⟩ : ∃ hooked, before realizer.runner
            (.groupHook ⟨index, address⟩ source ⟨entered.cells.size⟩) roomy =
              (.returned (), hooked) := ⟨_, rfl⟩
        have fourth := third.trans (registered_before (third.isSuite isSuite) added)
        refine Effect.returns_bind made (Effect.returns_bind added ?_)
        exact realizeAll_returns complete children address 0 _ _ hooked lower below
          (fourth.isSuite isSuite) (fourth.world same)
      · rw [SpecTree.IsTitled, isCase] at titled
        obtain ⟨title, told⟩ := act_title_returns (whole.ignoresLog_caseTitle address _)
          (whole.onlyAsks_caseTitle address _) same titled
        simp only [realize, isCase, SpecTree.require_of_losses_eq_nil complete, act_pure, pure_bind]
        exact Effect.returns_bind told (Effect.returns_bind rfl ⟨_, rfl⟩)

/-- Realizing such trees one after another returns if their titles can be composed. -/
theorem realizeAll_returns (complete : whole.losses = []) :
    ∀ (children : List ActionTree) (parent : Address) (next : Nat) (source : Source)
      (suite : Suite) (rig : Rig Runner),
      ActionTree.areOutlines children → whole.AreTitled world parent next children →
      rig.IsSuite realizer.runner suite →
      (∃ records, rig.bench.world = world.withRecords records) →
      ∃ later, realizer.realizeAll whole index parent next source children rig =
        (.returned (), later)
  | [], parent, next, source, suite, rig, _, _, _, _ => ⟨rig, by rw [realizeAll]; rfl⟩
  | child :: children, parent, next, source, suite, rig, outline, titled, isSuite, same => by
      obtain ⟨here, rest⟩ := ActionTree.areOutlines_cons.mp outline
      rw [SpecTree.AreTitled] at titled
      obtain ⟨middle, realized⟩ :=
        realize_returns complete child (parent ++ [next]) source suite rig here titled.1 isSuite same
      have first := (registered_realize world complete child _ _ _ _ _ here isSuite same realized).1
      rw [realizeAll]
      exact Effect.returns_bind realized <|
        realizeAll_returns complete children parent (next + 1) source _ middle rest titled.2
          (first.isSuite isSuite) (first.world same)

end

end Realizer

namespace ActionNode.IsShown

variable {world : World} {node : ActionNode}

end ActionNode.IsShown

theorem textsFrom_map (texts : List String) (next : Nat) (world : World) :
    textsFrom next (texts.map .text) world = (.returned texts, world) := by
  induction texts generalizing next with
  | nil => rfl
  | cons text texts ih =>
      rw [List.map_cons, textsFrom, Effect.bind_apply, ih]
      rfl

namespace SpecTree

variable {whole : SpecTree} {world : World}

end SpecTree

end DeferredSpec
