/-
# Runs of steps that are functions

In a tree whose steps are functions, each node comes to what the nodes on the way to it come
to one after another, wherever that is tried. So however often a step is retried, every attempt
at it ends alike, and a run of it ends as the first attempt at its whole way would, in its final
wording. This holds as long as the delay around a retry changes nothing that is there.
-/

import DeferredSpec.Proofs.Chains
import DeferredSpec.Proofs.Likeness.Functions
import DeferredSpec.Proofs.Nodes
import Mathlib.Data.List.Induction

namespace DeferredSpec

namespace ActionNode

/-- What a node does with the previous result. -/
def act (node : ActionNode) : Value → Action Value := node.step node.arguments

/-- What nodes do one after another, each with the result of the one before. -/
def actAlong : List ActionNode → Value → Action Value
  | [], previous => pure previous
  | node :: rest, previous => do
      let result ← node.act previous
      actAlong rest result

theorem actAlong_concat (nodes : List ActionNode) (last : ActionNode) (previous : Value) :
    actAlong (nodes ++ [last]) previous = actAlong nodes previous >>= last.act := by
  induction nodes generalizing previous with
  | nil =>
      rw [List.nil_append, actAlong, actAlong, pure_bind]
      exact bind_pure (last.act previous)
  | cons node rest ih =>
      rw [List.cons_append, actAlong, actAlong, bind_assoc]
      exact congrArg _ (funext fun result => ih result)

theorem isFunction_actAlong {base : World} {nodes : List ActionNode}
    (functions : ∀ node ∈ nodes, IsFunction base node.act) :
    IsFunction base (actAlong nodes) := by
  induction nodes with
  | nil => exact .pure base
  | cons node rest ih =>
      rw [List.forall_mem_cons] at functions
      exact functions.1.bind (ih functions.2)

end ActionNode

namespace ActionTree

/-- What holds of the root of a tree, and of all nodes below each child, holds of all nodes. -/
theorem forall_subtree? (holds : ActionNode → Prop) {here : ActionNode}
    {children : List ActionTree} (root : holds here)
    (below : ∀ child ∈ children, ∀ address found, child.subtree? address = some found →
      holds found.here) :
    ∀ address found, (ActionTree.node here children).subtree? address = some found →
      holds found.here := by
  intro address found located
  cases address with
  | nil =>
      cases located
      exact root
  | cons index rest =>
      rw [subtree?] at located
      cases there : children[index]? with
      | none =>
          rw [ActionTree.children, there] at located
          cases located
      | some child =>
          rw [ActionTree.children, there] at located
          exact below child (List.mem_of_getElem? there) rest found located

end ActionTree

namespace SpecTree

variable (tree : SpecTree)

/-- What the nodes above an address come to, one after another, from nothing. -/
def above (address : Address) : Action Value :=
  ActionNode.actAlong ((tree.root.trail address).dropLast.map Prod.snd) .null

/-- What the node at an address comes to, the nodes above having come to what they do. -/
def reach (address : Address) : Action Value :=
  ActionNode.actAlong ((tree.root.trail address).map Prod.snd) .null

/-- Every step of a tree is a function. -/
def IsFunctional (base : World) : Prop :=
  ∀ address found, tree.root.subtree? address = some found → IsFunction base found.here.act

variable {tree} {address : Address} {found child : ActionTree}

theorem above_concat {index : Nat} (located : tree.root.subtree? address = some found)
    (there : found.children[index]? = some child) :
    tree.above (address ++ [index]) = tree.reach address := by
  rw [above, reach, ActionTree.trail_concat located there, List.dropLast_concat]

/-- A node goes on from what the nodes above have come to. -/
theorem reach_eq (located : tree.root.subtree? address = some found) :
    tree.reach address = tree.above address >>= found.here.act := by
  rcases List.eq_nil_or_concat address with rfl | ⟨parent, index, rfl⟩
  · cases located
    exact ActionNode.actAlong_concat [] tree.root.here .null
  · rw [List.concat_eq_append] at located ⊢
    obtain ⟨around, before, there⟩ := ActionTree.exists_parent located
    rw [above_concat before there, reach, reach, ActionTree.trail_concat before there,
      List.map_append]
    exact ActionNode.actAlong_concat _ _ _

variable {base : World}

theorem IsFunctional.trail (functional : tree.IsFunctional base)
    (located : tree.root.subtree? address = some found) :
    ∀ node ∈ (tree.root.trail address).map Prod.snd, IsFunction base node.act := by
  induction address using List.reverseRecOn generalizing found with
  | nil =>
      intro node member
      cases List.mem_singleton.mp member
      exact functional [] tree.root rfl
  | append_singleton parent index ih =>
      obtain ⟨around, before, there⟩ := ActionTree.exists_parent located
      intro node member
      rw [ActionTree.trail_concat before there, List.map_append] at member
      rcases List.mem_append.mp member with early | last
      · exact ih before node early
      · cases List.mem_singleton.mp last
        exact functional _ found located

/-- The whole way to a node comes to the same wherever it is tried. -/
theorem IsFunctional.reach (functional : tree.IsFunctional base)
    (located : tree.root.subtree? address = some found) {world : World}
    (grown : base.Grows world) :
    base.Grows (tree.reach address base).2 ∧ world.Grows (tree.reach address world).2 ∧
      EndsAlike base (tree.reach address base) (tree.reach address world) :=
  ActionNode.isFunction_actAlong (functional.trail located) base .null world .null (.refl base)
    grown (.null base base world)

theorem IsFunctional.grows_above (functional : tree.IsFunctional base)
    (located : tree.root.subtree? address = some found) :
    base.Grows (tree.above address base).2 := by
  rcases List.eq_nil_or_concat address with rfl | ⟨parent, index, rfl⟩
  · exact .refl base
  · rw [List.concat_eq_append] at located ⊢
    obtain ⟨around, before, there⟩ := ActionTree.exists_parent located
    rw [above_concat before there]
    exact (functional.reach before (.refl base)).1

/-- A node that is executed against what is alike what the nodes above come to ends as it
does on its whole way. -/
theorem IsFunctional.act (functional : tree.IsFunctional base)
    (located : tree.root.subtree? address = some found) {world : World} {previous : Value}
    (grown : base.Grows world)
    (before : EndsAlike base (tree.above address base) (.returned previous, world)) :
    world.Grows (found.here.act previous world).2 ∧
      EndsAlike base (tree.reach address base) (found.here.act previous world) := by
  have grows := functional.grows_above located
  rw [reach_eq located, Effect.bind_apply]
  revert before grows
  generalize tree.above address base = ended
  rintro (alike | _) grows
  obtain ⟨_, later, ends⟩ := functional address found located _ _ _ _ grows grown alike
  exact ⟨later, ends⟩

/-- A node above which an error was raised comes to that error. -/
theorem reach_alike_of_raised (located : tree.root.subtree? address = some found)
    {error : ErrorRef} {world : World}
    (ends : EndsAlike base (tree.above address base) (.raised error, world)) :
    EndsAlike base (tree.reach address base) (.raised error, world) := by
  rw [reach_eq located, Effect.bind_apply]
  revert ends
  generalize tree.above address base = ended
  rintro (_ | ⟨alike, ordinary⟩)
  exact .raised alike ordinary

variable (complete : tree.losses = []) (unheard : tree.listeners = {})

include complete unheard

theorem execute_eq_act (address : Address) (node : ActionNode) (previous : Value) (bench : Bench) :
    (tree.execute address node previous bench).1 = (node.act previous bench.world).1 ∧
      (tree.execute address node previous bench).2.world = (node.act previous bench.world).2 := by
  rw [execute_unheard complete unheard]
  exact ⟨rfl, rfl⟩

/-- Without listeners, executing nodes one after another is running their steps. -/
theorem executeAlong_eq_actAlong (trail : List (Address × ActionNode)) (previous : Value)
    (bench : Bench) :
    (tree.executeAlong trail previous bench).1 =
        (ActionNode.actAlong (trail.map Prod.snd) previous bench.world).1 ∧
      (tree.executeAlong trail previous bench).2.world =
        (ActionNode.actAlong (trail.map Prod.snd) previous bench.world).2 := by
  induction trail generalizing previous bench with
  | nil => exact ⟨rfl, rfl⟩
  | cons entry rest ih =>
      obtain ⟨outcome, world⟩ :=
        execute_eq_act complete unheard entry.1 entry.2 previous bench
      rw [executeAlong, List.map_cons, ActionNode.actAlong, Effect.bind_apply, Effect.bind_apply]
      revert outcome world
      generalize tree.execute entry.1 entry.2 previous bench = ended
      generalize entry.2.act previous bench.world = acted
      obtain ⟨outcome, later⟩ := ended
      obtain ⟨other, world⟩ := acted
      rintro ⟨⟩ ⟨⟩
      cases outcome with
      | returned result => exact ih result later
      | raised error => exact ⟨rfl, rfl⟩

end SpecTree

/-- Whatever a delay does before and after a retry, it only adds to the world. It may take time
and write to the log, but leaves alone what steps have made. -/
def Delay.OnlyGrows (delay : Delay) : Prop :=
  ∀ world : World, world.Grows (delay.approach world).1 ∧
    ∀ failure (later : World), later.Grows (((delay.approach world).2 failure).depart later)

namespace Delay

theorem immediate_onlyGrows : immediate.OnlyGrows := by
  refine fun world => ⟨.refl world, fun failure later => ?_⟩
  cases failure <;> exact .refl later

/-- Waiting is noted, which changes nothing else. -/
theorem sleep_onlyGrows (seconds : Binary64) : (sleep seconds).OnlyGrows := by
  refine fun world => ⟨⟨fun _ _ => rfl, fun _ _ => rfl, fun _ _ => rfl, fun _ _ => rfl,
    Nat.le_refl _⟩, fun failure later => ?_⟩
  cases failure <;> exact .refl later

end Delay

/-- A tree of functions without listeners, under an engine whose delay runs a retry once and
changes nothing that is there. -/
structure Steady (base : World) (tree : SpecTree) (engine : RetryEngine) : Prop where
  complete : tree.losses = []
  unheard : tree.listeners = {}
  functional : tree.IsFunctional base
  once : engine.delay.RunsOnce
  harmless : engine.delay.OnlyGrows

/-- How a step ended on a bench, and the world it left. -/
def worldOf (ended : Outcome Value × Bench) : Outcome Value × World := (ended.1, ended.2.world)

namespace RetryEngine

variable {engine : RetryEngine} {tree : SpecTree} {base : World} {address : Address}
  {found : ActionTree} {previous : Value} {bench : Bench}

theorem worldOf_finish (outcome : Outcome Value) (bench : Bench) :
    worldOf (finish outcome bench) = word outcome bench.world := by
  rw [finish_apply]
  rfl

/-- An attempt that ends like a function is put into words. -/
theorem accept_eq_finish {reference : Outcome Value × World} {started : Outcome Value × Bench}
    (ends : EndsAlike base reference (worldOf started)) :
    accept started = finish started.1 started.2 := by
  obtain ⟨outcome, later⟩ := started
  cases outcome with
  | returned value => rfl
  | raised error =>
      have caught : later.world.isOrdinary error = true := ends.isOrdinary
      rw [accept]
      simp only [caught, if_true]

/-- A failed expectation that is the last attempt is put into words. -/
theorem settle_eq_finish (engine : RetryEngine) (node : ActionNode) (count : Nat)
    (first : ErrorRef) {last : Outcome Value × Bench} (failed : failedExpectation last) :
    engine.settle node count first last = finish last.1 last.2 := by
  obtain ⟨outcome, later⟩ := last
  cases outcome with
  | returned value => cases failed
  | raised error =>
      have failure : later.world.isAssertionFailure error := failed
      simp only [settle, wrapUp, failure, if_true, decide, Effect.bind_apply,
        FailureKind.ask_of_isAssertionFailure failure]

/-- Of steps that end like a function, one ends with a failed expectation just if another
does. -/
theorem failedExpectation_congr {reference : Outcome Value × World}
    {one other : Outcome Value × Bench} (ends : EndsAlike base reference (worldOf one))
    (also : EndsAlike base reference (worldOf other)) :
    failedExpectation one = failedExpectation other := by
  obtain ⟨first, left⟩ := one
  obtain ⟨second, right⟩ := other
  rw [worldOf] at ends also
  cases ends with
  | returned _ =>
      cases also
      rfl
  | raised alike _ =>
      cases also with
      | raised same _ => exact alike.isAssertionFailure.trans same.isAssertionFailure.symm

variable (steady : Steady base tree engine)
  (located : tree.root.subtree? address = some found)

include steady located in
/-- Executing the whole way to a node ends as the way does. -/
theorem executeAlong_alike (bench : Bench) (grown : base.Grows bench.world) :
    let ended := worldOf (tree.executeAlong (tree.root.trail address) .null bench)
    bench.world.Grows ended.2 ∧ EndsAlike base (tree.reach address base) ended := by
  obtain ⟨outcome, left⟩ := SpecTree.executeAlong_eq_actAlong steady.complete steady.unheard
    (tree.root.trail address) .null bench
  rw [worldOf, outcome, left]
  exact (steady.functional.reach located grown).2

include steady located in
/-- A delay around the whole way to a node leaves what that comes to as it is. -/
theorem around_alike (bench : Bench) (grown : base.Grows bench.world) :
    let ended := worldOf
      (engine.delay.around (tree.executeAlong (tree.root.trail address) .null) bench)
    bench.world.Grows ended.2 ∧ EndsAlike base (tree.reach address base) ended := by
  obtain ⟨earlier, later⟩ := steady.harmless bench.world
  rw [Delay.around]
  revert earlier later
  rcases engine.delay.approach bench.world with ⟨world, onward⟩
  intro earlier later
  obtain ⟨reached, ends⟩ :=
    executeAlong_alike steady located { bench with world } (grown.trans earlier)
  exact ⟨(earlier.trans reached).trans (later _ _), ends.grow (.refl _) (later _ _)⟩

variable (grown : base.Grows bench.world)
  (before : EndsAlike base (tree.above address base) (.returned previous, bench.world))

include steady located grown before

/-- Every attempt at a step ends as its whole way does. -/
theorem trial_alike (number : Nat) :
    let ended := worldOf (engine.trial tree address found.here previous bench number)
    bench.world.Grows ended.2 ∧ EndsAlike base (tree.reach address base) ended := by
  induction number with
  | zero =>
      obtain ⟨outcome, world⟩ := SpecTree.execute_eq_act steady.complete steady.unheard address
        found.here previous bench
      rw [trial, worldOf, outcome, world]
      exact steady.functional.act located grown before
  | succ number ih =>
      obtain ⟨earlier, _⟩ := ih
      rw [trial, retrial]
      revert earlier
      generalize engine.trial tree address found.here previous bench number = last
      intro earlier
      replace earlier : bench.world.Grows last.2.world := earlier
      have told := World.Grows.record last.2.world
        ⟨infoLevel, retryLogger, engine.announcement (number + 1)⟩
      obtain ⟨later, ends⟩ := around_alike steady located
        (Bench.happened .delayed { last.2 with world := last.2.world.record _ })
        ((grown.trans earlier).trans told)
      exact ⟨(earlier.trans told).trans later, ends⟩

/-- All attempts end with a failed expectation if the first one does. -/
theorem failedExpectation_trial (number : Nat) :
    failedExpectation (engine.trial tree address found.here previous bench number) =
      failedExpectation (engine.trial tree address found.here previous bench 0) :=
  failedExpectation_congr (trial_alike steady located grown before number).2
    (trial_alike steady located grown before 0).2

/-- The budget is spent as soon as one attempt is retried. -/
theorem retries_eq :
    engine.retries tree address found.here previous bench =
      if failedExpectation (engine.trial tree address found.here previous bench 0) &&
          engine.awaits tree address then engine.maxRetries
      else 0 := by
  rw [retries]
  split
  next eligible =>
    have none : (List.range' 1 engine.maxRetries).find? (fun number =>
        !failedExpectation (engine.trial tree address found.here previous bench number)) =
          none := by
      rw [List.find?_eq_none]
      intro number _
      rw [failedExpectation_trial steady located grown before number,
        (Bool.and_eq_true_iff.mp eligible).1]
      decide
    rw [none, Option.getD_none]
  next => rfl

/-- A run of a step puts its last attempt into words. -/
theorem run_eq_finish :
    engine.run tree address found.here previous bench =
      let last := engine.trial tree address found.here previous bench
        (engine.retries tree address found.here previous bench)
      finish last.1 last.2 := by
  cases eligible : failedExpectation (engine.trial tree address found.here previous bench 0) &&
      engine.awaits tree address with
  | false =>
      have only : engine.retries tree address found.here previous bench = 0 := by
        rw [retries, eligible]
        rfl
      rw [only, ← accept_eq_finish (trial_alike steady located grown before 0).2]
      exact run_of_unretried steady.complete (by rw [trial]) eligible
  | true =>
      obtain ⟨failed, awaits⟩ := Bool.and_eq_true_iff.mp eligible
      have also := failedExpectation_trial steady located grown before
        (engine.retries tree address found.here previous bench)
      rw [failed] at also
      rcases started : engine.trial tree address found.here previous bench 0 with ⟨outcome, left⟩
      rw [started] at failed
      cases outcome with
      | returned value => cases failed
      | raised error =>
          rw [run_of_retried steady.complete steady.once started failed awaits]
          exact settle_eq_finish engine _ _ _ also

/-- A run of a step ends as its whole way does, put into words. -/
theorem run_alike :
    let ended := worldOf (engine.run tree address found.here previous bench)
    bench.world.Grows ended.2 ∧
      EndsAlike base (word (tree.reach address base).1 (tree.reach address base).2) ended := by
  obtain ⟨reached, _⟩ := steady.functional.reach located (.refl base)
  obtain ⟨later, ends⟩ := trial_alike steady located grown before
    (engine.retries tree address found.here previous bench)
  obtain ⟨_, worded, same⟩ := word_alike reached (grown.trans later) ends
  rw [run_eq_finish steady located grown before, worldOf_finish]
  exact ⟨later.trans worded, same⟩

end RetryEngine

end DeferredSpec
