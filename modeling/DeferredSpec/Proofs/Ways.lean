/-
# Ways to the cases of a staged tree

On the way to a case of a staged tree the groups around it are prepared, and the ledger tells
which hooks that runs: those of the groups on the way, each with what it reads at hand. Every
case that the suite hands out lies at the end of such a way.
-/

import DeferredSpec.Proofs.Ledger
import DeferredSpec.Proofs.Likeness.Runs
import DeferredSpec.Proofs.Refinement

namespace DeferredSpec

/-- What a body of a realized tree reads when it starts. -/
def Body.source? : Body → Option Source
  | .routine .. => none
  | .groupHook _ source _ => some source
  | .realizedCase _ _ source => some source

/-- The node of a tree that a body stands for. -/
def Body.node? : Body → Option NodeRef
  | .routine .. => none
  | .groupHook node _ _ => some node
  | .realizedCase _ node _ => some node

namespace Deed

/-- What is run finds what it reads. -/
def IsFed : Deed → Prop
  | .hook _ _ run start | .body ⟨_, _, run⟩ start =>
      ∀ source, run.source? = some source → (Rig.read source start).1.isReturned

/-- Whether the hook of the given group of a tree is run. -/
def isHookOf (node : NodeRef) : Deed → Bool
  | .hook _ _ (.groupHook group _ _) _ => group = node
  | _ => false

end Deed

/-- The case lies below the given group of a tree. -/
def Pick.IsBelow (group : NodeRef) (pick : Pick) : Prop :=
  ∃ realizer address source, pick.body = .realizedCase realizer ⟨group.tree, address⟩ source ∧
    group.address <+: address ∧ group.address ≠ address

namespace Ledger

/-- What was run for chosen cases: all of it found what it reads, the hook of a group ran at
most once, and only if a case below the group was chosen. -/
structure IsFrugal (chosen : List Pick) (ledger : Ledger) : Prop where
  fed : ∀ deed ∈ ledger.deeds, deed.IsFed
  once : ∀ group, ledger.deeds.countP (Deed.isHookOf group) ≤ 1
  needed : ∀ group, ∀ deed ∈ ledger.deeds, deed.isHookOf group →
    ∃ pick ∈ chosen, pick.IsBelow group

/-- Something was added to the deeds of a ledger, all of one kind. -/
def Adds (kind : Deed → Prop) (before after : Ledger) : Prop :=
  ∃ added, after.deeds = before.deeds ++ added ∧ ∀ deed ∈ added, kind deed

namespace Adds

variable {kind wider : Deed → Prop} {first second third : Ledger}

theorem of_deeds_eq (same : second.deeds = first.deeds) : Adds kind first second :=
  ⟨[], by rw [same, List.append_nil], fun _ member => nomatch member⟩

theorem one {deed : Deed} (same : second.deeds = first.deeds ++ [deed]) (here : kind deed) :
    Adds kind first second :=
  ⟨[deed], same, fun _ member => List.mem_singleton.mp member ▸ here⟩

protected theorem trans (early : Adds kind first second) (late : Adds kind second third) :
    Adds kind first third := by
  obtain ⟨before, same, all⟩ := early
  obtain ⟨after, more, others⟩ := late
  refine ⟨before ++ after, by rw [more, same, List.append_assoc], fun deed member => ?_⟩
  exact (List.mem_append.mp member).elim (all deed) (others deed)

protected theorem imp (adds : Adds kind first second) (wide : ∀ deed, kind deed → wider deed) :
    Adds wider first second := by
  obtain ⟨added, same, all⟩ := adds
  exact ⟨added, same, fun deed member => wide deed (all deed member)⟩

end Adds

section Hooks

variable {forest : Array SpecTree} {runner : RunnerRef} {path : GroupPath} {name : String}
  {suite : Suite} {ledger : Ledger}

theorem readSuite_of_isSuite {α : Type} (isSuite : ledger.rig.IsSuite runner suite)
    (view : Suite → α) :
    perform (Rig.readSuite runner view) ledger = (.returned (view suite), ledger) := by
  rw [perform_apply, Rig.readSuite_of_isSuite isSuite]

/-- A group without further hooks runs none. -/
theorem runHooks_nil {hooks : List Body} {generations done : Nat}
    (isSuite : ledger.rig.IsSuite runner suite) (known : suite.groupAt path = (name, hooks))
    (all : hooks.length ≤ done) :
    runHooks forest runner path generations done ledger = (.returned (), ledger) := by
  have positioned : hooks.zipIdx.drop done = [] := List.drop_eq_nil_of_le (by simpa using all)
  have once : runFurtherHooks forest runner path done ledger = (.returned 0, ledger) := by
    rw [runFurtherHooks, Effect.bind_apply, readSuite_of_isSuite isSuite]
    simp only [known, positioned, List.drop_eq_nil_of_le all]
    rfl
  cases generations with
  | zero => rw [runHooks, Effect.bind_apply, once]; rfl
  | succ generations => rw [runHooks, Effect.bind_apply, once]; rfl

/-- A group with one hook writes it down and runs it, unless the hook registers more. -/
theorem runHooks_single {hook : Body} (generations : Nat) {outcome : Outcome Unit}
    {later : Rig Runner} {after : Suite} (isSuite : ledger.rig.IsSuite runner suite)
    (known : suite.groupAt path = (name, [hook]))
    (ended : Rig.runHook forest runner path name hook ledger.rig = (outcome, later))
    (still : later.IsSuite runner after) (unchanged : after.groupAt path = (name, [hook])) :
    runHooks forest runner path generations 0 ledger =
      (outcome, ⟨later, ledger.deeds ++ [.hook path 0 hook ledger.rig]⟩) := by
  have once : runFurtherHooks forest runner path 0 ledger =
      (outcome.map fun _ => 1, ⟨later, ledger.deeds ++ [.hook path 0 hook ledger.rig]⟩) := by
    rw [runFurtherHooks, Effect.bind_apply, readSuite_of_isSuite isSuite]
    simp only [known, List.zipIdx_cons, List.zipIdx_nil, List.drop_zero, Effect.forEach_singleton,
      runHook, Effect.bind_apply, write_apply, perform_apply, ended]
    cases outcome <;> rfl
  cases outcome with
  | raised error => cases generations <;> (rw [runHooks, Effect.bind_apply, once]; rfl)
  | returned _ =>
      cases generations with
      | zero => rw [runHooks, Effect.bind_apply, once]; rfl
      | succ generations =>
          rw [runHooks, Effect.bind_apply, once]
          exact runHooks_nil still unchanged (Nat.le_refl 1)

end Hooks

end Ledger

namespace Staging

variable {staging : Staging} {tour : Tour} {rig : Rig Runner} {ledger : Ledger}

variable (staging) in
/-- The hook of a group of the tree is run, with what it reads at hand. The group is the given
one, or lies around it. -/
inductive HookedOn (group : GroupPath) : Deed → Prop
  | intro {address : Address} {source : Source} {cell : CellRef} {start : Rig Runner}
      (onWay : 0 :: address <+: group) (fed : (Rig.read source start).1.isReturned) :
      HookedOn group
        (.hook (0 :: address) 0 (.groupHook ⟨staging.index, address⟩ source cell) start)

/-- Nothing is run to prepare the outermost group. -/
theorem prepare_outermost_deeds (mirrors : staging.Mirrors tour ledger.rig) :
    (Ledger.prepare staging.forest staging.runner [] ledger).2.deeds = ledger.deeds := by
  obtain ⟨progress, isSuite, _, _⟩ := mirrors.standing
  rw [Ledger.prepare, Effect.bind_apply, Ledger.readSuite_of_isSuite isSuite]
  simp only [id, suite_progress]
  cases progress [] with
  | done => rfl
  | failed error => rfl
  | pending =>
      let begun : Ledger := ⟨ledger.rig.withSuite staging.runner
        ((staging.suite progress).setProgress [] .done), ledger.deeds⟩
      have begunSuite : begun.rig.IsSuite staging.runner
        ((staging.suite progress).setProgress [] .done) := isSuite.withSuite _
      have known : ((staging.suite progress).setProgress [] .done).groupAt [] =
        (staging.name, []) := rfl
      simp only [Effect.bind_apply, Ledger.perform_apply, Rig.changeSuite_of_isSuite isSuite]
      exact congrArg (fun ended => ended.2.deeds)
        (Ledger.runHooks_nil begunSuite known (Nat.le_refl 0))

/-- Running the hook of a group leaves the suite as it is but for what it notes of groups. -/
theorem isSuite_runHook {path : GroupPath} {title : String} {post : Post} {found : ActionTree}
    {source : Source} {previous : Value} {progress : GroupPath → Preparation}
    (isSuite : rig.IsSuite staging.runner (staging.suite progress))
    (located : staging.whole.root.subtree? post.address = some found)
    (above : Rig.read source rig = (.returned previous, rig)) :
    ∃ later, (Rig.runHook staging.forest staging.runner path title
      (.groupHook ⟨staging.index, post.address⟩ source ⟨post.cell⟩) rig).2.IsSuite staging.runner
        (staging.suite later) := by
  have ran := Body.run_groupHook ⟨post.cell⟩ staging.placed located above
  rcases executed : staging.whole.execute post.address found.here previous rig.bench with
    ⟨outcome, bench⟩
  rw [executed] at ran
  cases outcome with
  | returned result =>
      rw [Rig.runHook_of_returned staging.runner path title ran]
      exact ⟨progress, isSuite⟩
  | raised error =>
      have begunSuite : Rig.IsSuite staging.runner (staging.suite progress) { rig with bench } :=
        isSuite
      cases ordinary : bench.world.isOrdinary error with
      | false =>
          rw [Rig.runHook_of_escaped staging.runner path title ran ordinary]
          exact ⟨progress, isSuite⟩
      | true =>
          rw [Rig.runHook_of_raised staging.runner path title ran ordinary begunSuite]
          exact ⟨_, begunSuite.withSuite _⟩

/-- Preparing a group of the tree runs no hook but its own, and that with what it reads at
hand. -/
theorem prepare_adds {post : Post} {found : ActionTree} {source : Source} {previous : Value}
    {title : String} (mirrors : staging.Mirrors tour ledger.rig)
    (located : staging.whole.root.subtree? post.address = some found)
    (known : ∀ progress, (staging.suite progress).groupAt (0 :: post.address) =
      (title, [.groupHook ⟨staging.index, post.address⟩ source ⟨post.cell⟩]))
    (above : Rig.read source ledger.rig = (.returned previous, ledger.rig)) :
    Ledger.Adds (staging.HookedOn (0 :: post.address)) ledger
      (Ledger.prepare staging.forest staging.runner (0 :: post.address) ledger).2 := by
  obtain ⟨progress, isSuite, _, _⟩ := mirrors.standing
  rw [Ledger.prepare, Effect.bind_apply, Ledger.readSuite_of_isSuite isSuite]
  simp only [id, suite_progress]
  cases progress (0 :: post.address) with
  | done => exact .of_deeds_eq rfl
  | failed error => exact .of_deeds_eq rfl
  | pending =>
      let begun : Ledger := ⟨ledger.rig.withSuite staging.runner
        ((staging.suite progress).setProgress (0 :: post.address) .done), ledger.deeds⟩
      have begunSuite : begun.rig.IsSuite staging.runner
        ((staging.suite progress).setProgress (0 :: post.address) .done) := isSuite.withSuite _
      have fed : Rig.read source begun.rig = (.returned previous, begun.rig) :=
        Rig.read_congr (show begun.rig.bench = ledger.rig.bench from rfl) rfl above
      obtain ⟨later, still⟩ := isSuite_runHook begunSuite located fed
      simp only [Effect.bind_apply, Ledger.perform_apply, Rig.changeSuite_of_isSuite isSuite]
      have ran := Ledger.runHooks_single ((staging.suite progress).generations staging.forest)
        begunSuite (known _) (Prod.eta (Rig.runHook staging.forest _ _ title _ begun.rig)).symm
        still (known _)
      refine .one (congrArg (fun ended => ended.2.deeds) ran) (.intro List.prefix_rfl ?_)
      rw [fed]
      rfl

variable (staging) in
/-- The way to what lies in a group: entering the nodes of the trail is preparing the group and
all around it, which leads to what the source holds then and runs no other hooks. -/
structure Way (trail : List (Address × ActionNode)) (group : GroupPath) (source : Source) :
    Prop where
  leads : staging.Leads trail group source
  adds : ∀ (ledger : Ledger) (tour : Tour), staging.Mirrors tour ledger.rig →
    Ledger.Adds (staging.HookedOn group) ledger
      (Effect.forEach (Ledger.prepare staging.forest staging.runner) (GroupPath.lineage group)
        ledger).2

/-- Nothing is on the way to the tree itself. -/
theorem way_nil : staging.Way [] [] .nothing where
  leads := leads_nil
  adds ledger tour mirrors := by
    have alone : GroupPath.lineage [] = [[]] := rfl
    rw [alone, Effect.forEach_singleton]
    exact .of_deeds_eq (prepare_outermost_deeds mirrors)

/-- Preparing groups does the same to the rig whether a ledger is kept or not. -/
theorem shadows_lineage (group : GroupPath) :
    Ledger.Shadows
      (Effect.forEach (Ledger.prepare staging.forest staging.runner) (GroupPath.lineage group))
      (Effect.forEach (Rig.prepare staging.forest staging.runner) (GroupPath.lineage group)) := by
  have prepared := Ledger.Shadows.forEach id
    (Ledger.shadows_prepare staging.forest staging.runner) (GroupPath.lineage group)
  rwa [List.map_id] at prepared

/-- What the way leads to is at hand once the groups on it are prepared. -/
theorem Way.fed {trail : List (Address × ActionNode)} {group : GroupPath} {source : Source}
    {later : Ledger} (way : staging.Way trail group source)
    (mirrors : staging.Mirrors tour ledger.rig)
    (prepared : Effect.forEach (Ledger.prepare staging.forest staging.runner)
      (GroupPath.lineage group) ledger = (.returned (), later)) :
    ∃ after previous, staging.Mirrors after later.rig ∧
      Rig.read source later.rig = (.returned previous, later.rig) := by
  obtain ⟨outcome, rig⟩ := shadows_lineage group ledger
  have alike := way.leads tour ledger.rig mirrors
  rw [prepared] at outcome rig
  revert outcome rig alike
  generalize Effect.forEach (Rig.prepare staging.forest staging.runner) _ ledger.rig = ended
  obtain ⟨ending, last⟩ := ended
  rintro ⟨⟩ ⟨⟩ alike
  revert alike
  generalize staging.whole.enterAll staging.world trail .null tour = walked
  rintro ⟨results, mirrors⟩
  exact ⟨_, _, mirrors, results⟩

/-- The way goes on from a group into a group in it. -/
theorem Way.enter {trail : List (Address × ActionNode)} {group : GroupPath} {source : Source}
    {post : Post} {position : Nat} {found : ActionTree} (way : staging.Way trail group source)
    (member : post ∈ staging.posts) (place : 0 :: post.address = group ++ [position])
    (located : staging.whole.root.subtree? post.address = some found)
    (known : ∀ progress, (staging.suite progress).groupAt (0 :: post.address) =
      (staging.world.answer (groupTitle found.here),
        [.groupHook ⟨staging.index, post.address⟩ source ⟨post.cell⟩])) :
    staging.Way (trail ++ [(post.address, found.here)]) (0 :: post.address)
      (.kept ⟨post.cell⟩) where
  leads := way.leads.enter member place located known
  adds ledger tour mirrors := by
    have deeper : ∀ deed, staging.HookedOn group deed →
        staging.HookedOn (0 :: post.address) deed := by
      rintro _ ⟨onWay, fed⟩
      exact .intro (onWay.trans (place ▸ List.prefix_append group [position])) fed
    have first := (way.adds ledger tour mirrors).imp deeper
    rw [place, GroupPath.lineage_append, Effect.forEach_append, Effect.bind_apply, ← place]
    rcases ended : Effect.forEach (Ledger.prepare staging.forest staging.runner)
      (GroupPath.lineage group) ledger with ⟨outcome, middle⟩
    rw [ended] at first
    cases outcome with
    | raised error => exact first
    | returned _ =>
        obtain ⟨after, previous, mirrors, above⟩ := way.fed mirrors ended
        rw [Effect.forEach_singleton]
        exact first.trans (prepare_adds mirrors located known above)

variable (staging) in
/-- A case that the suite hands out: it lies at the end of the way to the group around it. -/
inductive Handed : Pick → Prop
  | intro {trail : List (Address × ActionNode)} {group : GroupPath} {source : Source}
      {position : Nat} {address : Address} {here : ActionNode} {children : List ActionTree}
      (path : List String) (way : staging.Way trail group source)
      (place : 0 :: address = group ++ [position])
      (located : staging.whole.root.subtree? address = some (.node here children))
      (onWay : staging.whole.root.trail address = trail ++ [(address, here)])
      (chains : ActionTree.areChains children) :
      Handed ⟨group, path, .realizedCase staging.realizer ⟨staging.index, address⟩ source⟩

mutual

/-- All cases of a part of the tree are handed out. -/
theorem handed_of_mem_picks :
    ∀ (found : ActionTree) (trail : List (Address × ActionNode)) (address : Address)
      (group : GroupPath) (position : Nat) (path : List String) (source : Source) (cell : Nat),
      found.isConventional → staging.Holds address source cell found →
      staging.Way trail group source → 0 :: address = group ++ [position] →
      staging.whole.root.trail address = trail ++ [(address, found.here)] →
      ∀ pick ∈ Entry.picks group position path
        (staging.realizer.entryOf staging.whole staging.index staging.world address source cell
          found), staging.Handed pick
  | .node here children, trail, address, group, position, path, source, cell, conventional, holds,
      way, place, onWay, pick, listed => by
      rcases ActionTree.isConventional_node.mp conventional with
        ⟨isGroup, lower⟩ | ⟨isCase, chains⟩
      · simp only [Realizer.entryOf, isGroup, Entry.picks] at listed
        have member : ⟨address, cell⟩ ∈ staging.posts := by
          apply holds.posted
          rw [ActionTree.posts, isGroup]
          exact List.mem_cons_self
        have onward := way.enter member place holds.located (holds.groupAt isGroup)
        rw [← place] at listed
        refine handed_of_mem_picksAll children _ address 0 _ _ _ lower
          (fun position child found => ?_) onward (fun position child found => ?_) pick listed
        · simpa using holds.child isGroup found
        · rw [Nat.zero_add, ActionTree.trail_concat holds.located found, onWay]
      · simp only [Realizer.entryOf, isCase, Entry.picks, List.mem_singleton] at listed
        subst listed
        exact .intro _ way place holds.located onWay chains

/-- All cases of several parts of the tree are handed out. -/
theorem handed_of_mem_picksAll :
    ∀ (children : List ActionTree) (trail : List (Address × ActionNode)) (parent : Address)
      (next : Nat) (path : List String) (source : Source) (cell : Nat),
      ActionTree.areConventional children →
      (∀ position child, children[position]? = some child →
        staging.Holds (parent ++ [next + position]) source
          (cell + ActionTree.groupCounts (children.take position)) child) →
      staging.Way trail (0 :: parent) source →
      (∀ position child, children[position]? = some child →
        staging.whole.root.trail (parent ++ [next + position]) =
          trail ++ [(parent ++ [next + position], child.here)]) →
      ∀ pick ∈ Entry.picksAll (0 :: parent) next path
        (staging.realizer.entriesOf staging.whole staging.index staging.world parent next source
          cell children), staging.Handed pick
  | [], trail, parent, next, path, source, cell, _, _, _, _, pick, listed => by
      rw [Realizer.entriesOf, Entry.picksAll] at listed
      cases listed
  | child :: children, trail, parent, next, path, source, cell, conventional, holds, way, onWay,
      pick, listed => by
      obtain ⟨here, rest⟩ := ActionTree.areConventional_cons.mp conventional
      rw [Realizer.entriesOf, Entry.picksAll] at listed
      have first : staging.Holds (parent ++ [next]) source cell child := by
        simpa [ActionTree.groupCounts] using holds 0 child rfl
      rcases List.mem_append.mp listed with listed | listed
      · exact handed_of_mem_picks child trail (parent ++ [next]) (0 :: parent) next path source cell
          here first way rfl (onWay 0 child rfl) pick listed
      · refine handed_of_mem_picksAll children trail parent (next + 1) path source _ rest
          (fun position other found => ?_) way (fun position other found => ?_) pick listed
        · simpa [ActionTree.groupCounts, Nat.add_assoc, Nat.add_comm 1] using
            holds (position + 1) other found
        · simpa [Nat.add_assoc, Nat.add_comm 1] using onWay (position + 1) other found

end

/-- All cases of the suite are handed out. -/
theorem handed_of_mem_suite (progress : GroupPath → Preparation) {pick : Pick}
    (listed : pick ∈ (staging.suite progress).picks) : staging.Handed pick := by
  rw [Suite.picks, picksFrom_zero] at listed
  exact handed_of_mem_picks staging.whole.root [] [] [] 0 _ .nothing staging.base
    staging.conventional holds_root way_nil rfl rfl pick listed

variable (staging) in
/-- What is run for an invocation of a case: hooks of the groups around it, and its body if what
that reads is at hand. -/
inductive Serves (pick : Pick) : Deed → Prop
  | hook {deed : Deed} (hooked : staging.HookedOn pick.group deed) : Serves pick deed
  | body {start : Rig Runner} (fed : Deed.IsFed (.body pick start)) :
      Serves pick (.body pick start)

variable {pick : Pick} {deed : Deed}

/-- Nothing is run for an invocation of a case but what serves it. -/
theorem Handed.adds (handed : staging.Handed pick) (mirrors : staging.Mirrors tour ledger.rig) :
    Ledger.Adds (staging.Serves pick) ledger
      (Ledger.runPick staging.forest staging.runner pick ledger).2 := by
  obtain ⟨path, way, place, located, onWay, chains⟩ := handed
  have prepared := way.adds ledger tour mirrors
  rw [Ledger.runPick, Effect.bind_apply]
  rcases ended : Effect.forEach _ _ ledger with ⟨outcome, later⟩
  rw [ended] at prepared
  cases outcome with
  | raised error => exact prepared.imp fun _ hooked => .hook hooked
  | returned _ =>
      obtain ⟨after, previous, _, above⟩ := way.fed mirrors ended
      refine .trans (prepared.imp fun _ hooked => .hook hooked) (.one rfl (.body ?_))
      intro source known
      cases known
      rw [above]
      rfl

/-- What is run for an invocation finds what it reads. -/
theorem Serves.isFed (serves : staging.Serves pick deed) : deed.IsFed := by
  cases serves with
  | hook hooked =>
      obtain ⟨_, fed⟩ := hooked
      intro source known
      cases known
      exact fed
  | body fed => exact fed

/-- The hook of a group runs for a case below that group only. -/
theorem Serves.isBelow (serves : staging.Serves pick deed) (handed : staging.Handed pick)
    {group : NodeRef} (isHook : deed.isHookOf group) : pick.IsBelow group := by
  obtain ⟨path, way, place, located, onWay, chains⟩ := handed
  cases serves with
  | body fed => cases isHook
  | hook hooked =>
      obtain ⟨around, fed⟩ := hooked
      obtain rfl := of_decide_eq_true isHook
      have below := around.trans (place ▸ List.prefix_append _ _)
      rw [List.cons_prefix_cons] at below
      refine ⟨_, _, _, rfl, below.2, fun same => ?_⟩
      cases same
      rw [place] at around
      exact not_concat_prefix _ _ around

end Staging

end DeferredSpec
