/-
# Running a realized tree is walking it

A run of the suite of a staged tree and the walk through the tree go in step: each
preparation of a group is an entering of it, each case is a visit. Whatever the steps
and the delay do, the reports are the same, and so is the bench, on which the world,
the log and the history of all executions are kept.
-/

import DeferredSpec.Proofs.Entering

namespace DeferredSpec

namespace Realizer

variable {realizer : Realizer} {whole : SpecTree} {index : Nat}

mutual

/-- Realizing a chain executes it at once. -/
theorem realize_of_isChain (complete : whole.losses = []) :
    ∀ (found : ActionTree) (address : Address) (previous : Value), found.isChain →
      (realizer.realize whole index address (.ready previous) found : Effect (Rig Runner) Unit) =
        Rig.execute (whole.follow realizer.engine address previous found)
  | .node here children, address, previous, chain => by
      obtain ⟨isStep, lower⟩ := ActionTree.isChain_node.mp chain
      have above : (Rig.read (.ready previous) : Effect (Rig Runner) Value) = pure previous := rfl
      rw [realize, SpecTree.follow, Rig.execute_bind]
      simp only [isStep, SpecTree.require_of_losses_eq_nil complete,
        SpecTree.requireChildren_of_losses_eq_nil complete, Rig.act_pure, pure_bind, above,
        realizeAll_of_areChains complete children address 0 _ lower]

/-- Realizing chains below the same node executes them one after another. -/
theorem realizeAll_of_areChains (complete : whole.losses = []) :
    ∀ (children : List ActionTree) (parent : Address) (next : Nat) (previous : Value),
      ActionTree.areChains children →
      (realizer.realizeAll whole index parent next (.ready previous) children :
          Effect (Rig Runner) Unit) =
        Rig.execute (whole.followAll realizer.engine parent next previous children)
  | [], parent, next, previous, _ => by
      rw [realizeAll, SpecTree.followAll, Rig.execute_pure]
  | child :: children, parent, next, previous, chains => by
      obtain ⟨here, rest⟩ := ActionTree.areChains_cons.mp chains
      rw [realizeAll, SpecTree.followAll, Rig.execute_bind, realize_of_isChain complete child _ _ here]
      simp only [realizeAll_of_areChains complete children parent (next + 1) previous rest]

end

/-- The body of a case without branches into groups executes the case and what is below. -/
theorem runCase_eq {address : Address} (found : ActionTree) {source : Source} {previous : Value}
    {rig : Rig Runner} (complete : whole.losses = []) (chains : ActionTree.areChains found.children)
    (above : Rig.read source rig = (.returned previous, rig)) :
    realizer.runCase whole ⟨index, address⟩ source found rig =
      Rig.execute (do
        let result ← whole.execute address found.here previous
        whole.followAll realizer.engine address 0 result found.children) rig := by
  rw [runCase, Effect.bind_apply, above, Rig.execute_bind]
  simp only [SpecTree.requireChildren_of_losses_eq_nil complete, Rig.act_pure, pure_bind,
    realizeAll_of_areChains complete found.children address 0 _ chains]

end Realizer

theorem GroupPath.lineage_append (group : GroupPath) (index : Nat) :
    GroupPath.lineage (group ++ [index]) = GroupPath.lineage group ++ [group ++ [index]] := by
  rw [lineage, List.length_append, List.length_singleton, List.range_succ, List.map_append,
    lineage]
  congr 1
  · apply List.map_congr_left
    intro depth shallow
    rw [List.mem_range] at shallow
    rw [List.take_append_of_le_length (by omega)]
  · rw [List.map_singleton, List.take_of_length_le (by simp)]

namespace Staging

variable {staging : Staging} {tour : Tour} {rig : Rig Runner}

variable (staging) in
/-- Entering the groups of a trail is preparing those of a path, and leads to what the
source holds then. -/
def Leads (trail : List (Address × ActionNode)) (group : GroupPath) (source : Source) : Prop :=
  ∀ tour rig, staging.Mirrors tour rig →
    staging.EndAlike (fun result _ rig => Rig.read source rig = (.returned result, rig))
      (staging.whole.enterAll staging.world trail .null tour)
      (Effect.forEach (Rig.prepare staging.forest staging.runner) (GroupPath.lineage group) rig)

/-- Preparing the outermost group runs nothing, for it has no hooks. -/
theorem prepare_outermost (mirrors : staging.Mirrors tour rig) :
    ∃ later, Rig.prepare staging.forest staging.runner [] rig = (.returned (), later) ∧
      staging.Mirrors tour later := by
  obtain ⟨progress, isSuite, outermost, agree⟩ := mirrors.standing
  rw [Rig.prepare, Effect.bind_apply, Rig.readSuite_of_isSuite isSuite]
  simp only [id, suite_progress]
  cases prepared : progress [] with
  | done => exact ⟨rig, rfl, mirrors⟩
  | failed error => exact absurd prepared (outermost error)
  | pending =>
      have begunSuite := isSuite.withSuite ((staging.suite progress).setProgress [] .done)
      simp only [Effect.bind_apply, Rig.changeSuite_of_isSuite isSuite]
      rw [Rig.runHooks_nil staging.name [] begunSuite rfl rfl]
      refine ⟨_, rfl, mirrors.bench, mirrors.roomy, _, begunSuite, ?_, agree⟩
      intro error
      simp

/-- Nothing is above the tree. -/
theorem leads_nil : staging.Leads [] [] .nothing := by
  intro tour rig mirrors
  obtain ⟨later, prepared, still⟩ := prepare_outermost mirrors
  have alone : GroupPath.lineage [] = [[]] := rfl
  rw [alone, Effect.forEach_singleton, prepared]
  exact .returned rfl still

/-- The groups on the way to a group are entered once those around it are. -/
theorem Leads.enter {trail : List (Address × ActionNode)} {group : GroupPath} {source : Source}
    {post : Post} {position : Nat} {found : ActionTree}
    (leads : staging.Leads trail group source) (member : post ∈ staging.posts)
    (place : 0 :: post.address = group ++ [position])
    (located : staging.whole.root.subtree? post.address = some found)
    (known : ∀ progress, (staging.suite progress).groupAt (0 :: post.address) =
      (staging.world.answer (groupTitle found.here),
        [.groupHook ⟨staging.index, post.address⟩ source ⟨post.cell⟩])) :
    staging.Leads (trail ++ [(post.address, found.here)]) (0 :: post.address)
      (.kept ⟨post.cell⟩) := by
  intro tour rig mirrors
  rw [SpecTree.enterAll_append, place, GroupPath.lineage_append, Effect.forEach_append]
  refine (leads tour rig mirrors).bind fun result _ tour rig above mirrors => ?_
  rw [Effect.forEach_singleton, ← place]
  exact endAlike_enter mirrors member located known above

variable {trail : List (Address × ActionNode)} {group : GroupPath} {source : Source}

/-- Running a case is visiting it. -/
theorem endAlike_visit (path : List String) {address : Address} {here : ActionNode}
    {children : List ActionTree} (leads : staging.Leads trail group source)
    (located : staging.whole.root.subtree? address = some (.node here children))
    (chains : ActionTree.areChains children) (mirrors : staging.Mirrors tour rig) :
    staging.EndAlike (fun _ _ _ => True)
      (staging.whole.visit staging.realizer.engine staging.world trail address here children tour)
      (Rig.runPick staging.forest staging.runner
        ⟨group, path, .realizedCase staging.realizer ⟨staging.index, address⟩ source⟩ rig) := by
  rw [SpecTree.visit, Rig.runPick]
  refine (leads tour rig mirrors).bind fun previous _ tour rig above mirrors => ?_
  have body : (Body.realizedCase staging.realizer ⟨staging.index, address⟩ source).run
      staging.forest rig = (Rig.execute (do
        let result ← staging.whole.execute address here previous
        staging.whole.followAll staging.realizer.engine address 0 result children) >>= fun _ =>
          pure .null) rig := by
    simp only [Body.run, staging.placed, located]
    rw [Effect.bind_apply, Effect.bind_apply,
      Realizer.runCase_eq (.node here children) staging.complete chains above]
    rfl
  have alike := EndAlike.execute mirrors (do
    let result ← staging.whole.execute address here previous
    staging.whole.followAll staging.realizer.engine address 0 result children)
  have ends := alike.andThen Value.null
  rw [← body] at ends
  exact ends.andThen ()

/-- What is reported of a case depends on how it ends. -/
theorem endAlike_report {effect : Effect Tour Unit} {pick : Pick}
    (alike : staging.EndAlike (fun _ _ _ => True) (effect tour)
      (Rig.runPick staging.forest staging.runner pick rig)) :
    staging.EndAlike (fun left right _ => left = right) (SpecTree.report pick.path effect tour)
      (Rig.reportPick staging.forest staging.runner pick rig) := by
  rw [SpecTree.report, Rig.reportPick]
  refine alike.capture.bind fun left right tour rig same mirrors => ?_
  rcases same with ⟨_, _, rfl, rfl, _⟩ | ⟨error, rfl, rfl⟩
  · exact .returned rfl mirrors
  · exact (EndAlike.execute mirrors _).bind fun _ _ _ _ _ mirrors => .returned rfl mirrors

variable (staging) in
/-- A tree is the part of the staged tree at an address, its groups and cells are among
those of the staged tree, and the suite holds its entry at the path of that address. -/
structure Holds (address : Address) (source : Source) (cell : Nat) (found : ActionTree) : Prop where
  located : staging.whole.root.subtree? address = some found
  posted : found.posts address cell ⊆ staging.posts
  known : ∀ title hooks entries,
    staging.realizer.entryOf staging.whole staging.index staging.world address source cell found =
        .group title hooks entries →
      ∀ progress rest, (staging.suite progress).groupAt (0 :: (address ++ rest)) =
        Entry.groupAt title hooks entries rest

theorem holds_root : staging.Holds [] .nothing staging.base staging.whole.root where
  located := rfl
  posted := List.Subset.refl _
  known title hooks entries isGroup progress rest := by
    have only : (staging.suite progress).root.entries = [.group title hooks entries] := by
      rw [← isGroup]
      rfl
    rw [Suite.groupAt, only]
    rfl

/-- What holds of a group holds of each child, which reads the cell of the group. -/
theorem Holds.child {address : Address} {cell position : Nat} {here : ActionNode}
    {children : List ActionTree} {child : ActionTree}
    (holds : staging.Holds address source cell (.node here children))
    (isGroup : here.variant = .group) (found : children[position]? = some child) :
    staging.Holds (address ++ [position]) (.kept ⟨cell⟩)
      (cell + 1 + ActionTree.groupCounts (children.take position)) child where
  located := ActionTree.subtree?_concat holds.located found
  posted := by
    have below := ActionTree.posts_subset_postsAll address 0 (cell + 1) found
    rw [Nat.zero_add] at below
    refine List.Subset.trans below (List.Subset.trans ?_ holds.posted)
    rw [ActionTree.posts, isGroup]
    exact List.subset_cons_self _ _
  known title hooks entries isEntry progress rest := by
    have entry := staging.realizer.getElem?_entriesOf staging.whole staging.index staging.world
      address (.kept ⟨cell⟩) 0 (cell + 1) found
    rw [Nat.zero_add, isEntry] at entry
    have around := holds.known _ _ _ (by rw [Realizer.entryOf, isGroup]) progress (position :: rest)
    rw [List.append_assoc, List.singleton_append, around, Entry.groupAt, entry]

/-- The group of a tree is known to the suite by its hook. -/
theorem Holds.groupAt {address : Address} {cell : Nat} {here : ActionNode}
    {children : List ActionTree} (holds : staging.Holds address source cell (.node here children))
    (isGroup : here.variant = .group) (progress : GroupPath → Preparation) :
    (staging.suite progress).groupAt (0 :: address) =
      (staging.world.answer (groupTitle here),
        [.groupHook ⟨staging.index, address⟩ source ⟨cell⟩]) := by
  have known := holds.known _ _ _ (by rw [Realizer.entryOf, isGroup]) progress []
  rw [List.append_nil] at known
  rw [known]
  rfl

mutual

/-- Running the cases of a conventional tree is walking through the tree. -/
theorem endAlike_walk :
    ∀ (found : ActionTree) (trail : List (Address × ActionNode)) (address : Address)
      (group : GroupPath) (position : Nat) (path : List String) (source : Source) (cell : Nat)
      (tour : Tour) (rig : Rig Runner),
      found.isConventional → staging.Holds address source cell found →
      staging.Leads trail group source → 0 :: address = group ++ [position] →
      staging.Mirrors tour rig →
      staging.EndAlike (fun left right _ => left = right)
        (staging.whole.walk staging.realizer.engine staging.world trail address path found tour)
        (Effect.collect (Rig.reportPick staging.forest staging.runner)
          (Entry.picks group position path
            (staging.realizer.entryOf staging.whole staging.index staging.world address source
              cell found)) rig)
  | .node here children, trail, address, group, position, path, source, cell, tour, rig,
      conventional, holds, leads, place, mirrors => by
      rcases ActionTree.isConventional_node.mp conventional with
        ⟨isGroup, lower⟩ | ⟨isCase, chains⟩
      · simp only [SpecTree.walk, Realizer.entryOf, isGroup, Entry.picks]
        have member : ⟨address, cell⟩ ∈ staging.posts := by
          apply holds.posted
          rw [ActionTree.posts, isGroup]
          exact List.mem_cons_self
        have onward := leads.enter member place holds.located (holds.groupAt isGroup)
        rw [← place]
        exact endAlike_walkAll children _ address 0 _ _ _ tour rig lower
          (fun position child found => by
            simpa using holds.child isGroup found) onward mirrors
      · simp only [SpecTree.walk, Realizer.entryOf, isCase, Entry.picks]
        have alike := endAlike_report <|
          endAlike_visit (path ++ [staging.world.answer
            (staging.whole.caseTitle address (.node here children))]) leads holds.located chains
            mirrors
        exact alike.bind fun _ _ _ _ same mirrors => .returned (by simp [same]) mirrors

/-- Running the cases of several conventional trees is walking through one after another. -/
theorem endAlike_walkAll :
    ∀ (children : List ActionTree) (trail : List (Address × ActionNode)) (parent : Address)
      (next : Nat) (path : List String) (source : Source) (cell : Nat) (tour : Tour)
      (rig : Rig Runner),
      ActionTree.areConventional children →
      (∀ position child, children[position]? = some child →
        staging.Holds (parent ++ [next + position]) source
          (cell + ActionTree.groupCounts (children.take position)) child) →
      staging.Leads trail (0 :: parent) source → staging.Mirrors tour rig →
      staging.EndAlike (fun left right _ => left = right)
        (staging.whole.walkAll staging.realizer.engine staging.world trail parent next path
          children tour)
        (Effect.collect (Rig.reportPick staging.forest staging.runner)
          (Entry.picksAll (0 :: parent) next path
            (staging.realizer.entriesOf staging.whole staging.index staging.world parent next
              source cell children)) rig)
  | [], trail, parent, next, path, source, cell, tour, rig, _, _, _, mirrors => by
      rw [SpecTree.walkAll, Realizer.entriesOf, Entry.picksAll]
      exact .returned rfl mirrors
  | child :: children, trail, parent, next, path, source, cell, tour, rig, conventional, holds,
      leads, mirrors => by
      obtain ⟨here, rest⟩ := ActionTree.areConventional_cons.mp conventional
      rw [SpecTree.walkAll, Realizer.entriesOf, Entry.picksAll, Effect.collect_append]
      have first : staging.Holds (parent ++ [next]) source cell child := by
        simpa [ActionTree.groupCounts] using holds 0 child rfl
      refine (endAlike_walk child trail (parent ++ [next]) (0 :: parent) next path source cell tour
        rig here first leads rfl mirrors).bind fun _ _ tour rig same mirrors => ?_
      refine (endAlike_walkAll children trail parent (next + 1) path source _ tour rig rest
        (fun position other found => ?_) leads mirrors).bind fun _ _ tour rig also mirrors => ?_
      · simpa [ActionTree.groupCounts, Nat.add_assoc, Nat.add_comm 1] using
          holds (position + 1) other found
      · exact .returned (by rw [same, also]) mirrors

end

theorem picksFrom_zero (progress : GroupPath → Preparation) :
    (staging.suite progress).picksFrom 0 =
      Entry.picks [] 0 (withName [] staging.name) staging.entry := by
  have only : (staging.suite progress).root.entries = [staging.entry] := rfl
  have name : (staging.suite progress).root.name = staging.name := rfl
  simp [Suite.picksFrom, Entry.picksAll, only, name]

/-- Behind the only entry of the suite there is nothing to run. -/
theorem runFrom_one (stands : staging.Stands rig) (generations : Nat) :
    Rig.runFrom staging.forest staging.runner generations 1 rig = (.returned [], rig) := by
  obtain ⟨progress, isSuite⟩ := stands.isSuite
  have further : Rig.runFurther staging.forest staging.runner 1 rig = (.returned (1, []), rig) := by
    rw [Rig.runFurther, Effect.bind_apply, Rig.readSuite_of_isSuite isSuite]
    rfl
  cases generations with
  | zero => rw [Rig.runFrom, Effect.bind_apply, further]; rfl
  | succ generations => rw [Rig.runFrom, Effect.bind_apply, further]; rfl

/-- The cases of the only entry of the suite are run one after another. -/
theorem runFurther_zero (stands : staging.Stands rig) :
    Rig.runFurther staging.forest staging.runner 0 rig =
      (Effect.collect (Rig.reportPick staging.forest staging.runner)
        (Entry.picks [] 0 (withName [] staging.name) staging.entry) >>= fun reports =>
          pure (1, reports)) rig := by
  obtain ⟨progress, isSuite⟩ := stands.isSuite
  rw [Rig.runFurther, Effect.bind_apply, Rig.readSuite_of_isSuite isSuite]
  simp only [id, picksFrom_zero]
  rfl

/-- All cases of the suite are those of the tree, and none is registered while it runs. -/
theorem endAlike_runFrom (generations : Nat) (mirrors : staging.Mirrors tour rig) :
    staging.EndAlike (fun left right _ => left = right)
      (staging.whole.walk staging.realizer.engine staging.world [] []
        (withName [] staging.name) staging.whole.root tour)
      (Rig.runFrom staging.forest staging.runner (generations + 1) 0 rig) := by
  have further := runFurther_zero mirrors.stands
  have alike := endAlike_walk staging.whole.root [] [] [] 0 (withName [] staging.name) .nothing
    staging.base tour rig staging.conventional holds_root leads_nil rfl mirrors
  rw [Rig.runFrom, Effect.bind_apply, further, ← Effect.bind_apply, bind_assoc,
    ← bind_pure (staging.whole.walk _ _ _ _ _ _)]
  refine alike.bind fun left right tour rig same mirrors => ?_
  rw [pure_bind]
  simp only [Nat.one_ne_zero, Nat.le_zero, if_false, Effect.bind_apply,
    runFrom_one mirrors.stands]
  exact .returned (by rw [same, List.append_nil]) mirrors

/-- When nothing is prepared yet, no group was entered yet. -/
theorem mirrors_reset (stands : staging.Stands rig) :
    staging.Mirrors { bench := rig.bench }
      (rig.withSuite staging.runner (staging.suite fun _ => .pending)) := by
  obtain ⟨progress, isSuite⟩ := stands.isSuite
  exact ⟨rfl, stands.roomy, _, isSuite.withSuite _, fun _ => by simp, fun _ _ => trivial⟩

/-- A run of the suite begins with nothing prepared. -/
theorem runSuite_eq_runFrom (stands : staging.Stands rig) :
    Rig.runSuite staging.forest staging.runner rig =
      Rig.runFrom staging.forest staging.runner
        ((staging.suite fun _ => .pending).generations staging.forest) 0
        (rig.withSuite staging.runner (staging.suite fun _ => .pending)) := by
  obtain ⟨progress, isSuite⟩ := stands.isSuite
  have freshSuite := isSuite.withSuite (staging.suite fun _ => .pending)
  rw [Rig.runSuite, Effect.bind_apply, Rig.changeSuite_of_isSuite isSuite, suite_reset]
  simp only [Effect.bind_apply, Rig.readSuite_of_isSuite freshSuite, id]

/-- A run of the suite yields what the walk through the tree yields, and does the same to
the bench, whatever earlier runs have left in the cells. -/
theorem runSuite_eq_walkThrough (stands : staging.Stands rig) :
    (Rig.runSuite staging.forest staging.runner rig).1 =
        (staging.whole.walkThrough staging.realizer.engine staging.world staging.name rig.bench).1 ∧
      (Rig.runSuite staging.forest staging.runner rig).2.bench =
        (staging.whole.walkThrough staging.realizer.engine staging.world staging.name rig.bench).2 ∧
      staging.Stands (Rig.runSuite staging.forest staging.runner rig).2 := by
  have mirrors := mirrors_reset stands
  have alike := endAlike_runFrom
    (Entry.depth (Body.generations staging.forest) (staging.suite fun _ => .pending).root.close)
    mirrors
  rw [runSuite_eq_runFrom stands, SpecTree.walkThrough, Suite.generations]
  revert alike
  generalize Rig.runFrom staging.forest staging.runner _ 0 _ = finished
  generalize staging.whole.walk _ _ _ _ _ _ _ = ended
  rintro (⟨rfl, mirrors⟩ | ⟨bench, stands, _⟩)
  · exact ⟨rfl, mirrors.bench, mirrors.stands⟩
  · exact ⟨rfl, bench, stands⟩

end Staging

/-- The rigs that come about once a suite was filled: it is run any number of times, and in
between anything may happen to the bench, to the results that groups have left and to
other runners, as long as nothing more is registered with the suite. -/
inductive Rig.Reached (forest : Array SpecTree) (runner : RunnerRef) (filled : Rig Runner) :
    Rig Runner → Prop
  | filled : Reached forest runner filled filled
  | run {rig : Rig Runner} (reached : Reached forest runner filled rig) :
      Reached forest runner filled (Rig.runSuite forest runner rig).2
  | meanwhile {rig later : Rig Runner} {suite : Suite} {progress : GroupPath → Preparation}
      (reached : Reached forest runner filled rig) (before : rig.IsSuite runner suite)
      (after : later.IsSuite runner { suite with progress })
      (roomy : rig.cells.size ≤ later.cells.size) : Reached forest runner filled later

namespace Staging

variable {staging : Staging} {start realized rig : Rig Runner}

/-- A tree that was realized with a fresh suite stands in the rig. -/
theorem stands_of_realizeRoot (room : staging.base = start.cells.size)
    (world : staging.world = start.bench.world)
    (fresh : start.IsSuite staging.runner (Suite.empty staging.name))
    (ended : staging.realizer.realizeRoot staging.whole staging.index start =
      (.returned (), realized)) : staging.Stands realized := by
  have outline := ActionTree.isOutline_of_isConventional _ staging.conventional
  have registered := (Realizer.registered_realize staging.world staging.complete
    staging.whole.root [] .nothing _ start realized outline fresh
    ⟨start.bench.world.records, by rw [world]; rfl⟩ ended).1
  rw [← room] at registered
  refine ⟨⟨_, registered.isSuite fresh⟩, fun post member => ?_⟩
  have listed : post.cell ∈ staging.posts.map Post.cell := List.mem_map_of_mem member
  rw [posts, ActionTree.cells_posts] at listed
  rw [registered.cells, Array.size_append, Array.size_replicate, ← room]
  rw [List.mem_range'_1] at listed
  exact listed.2

/-- The tree goes on standing in the rig. -/
theorem stands_of_reached (stands : staging.Stands realized)
    (reached : Rig.Reached staging.forest staging.runner realized rig) : staging.Stands rig := by
  induction reached with
  | filled => exact stands
  | run _ ih => exact (runSuite_eq_walkThrough ih).2.2
  | @meanwhile rig later suite progress _ before after roomy ih =>
      obtain ⟨known, isSuite⟩ := ih.isSuite
      rw [Rig.IsSuite] at before isSuite
      rw [before] at isSuite
      cases isSuite
      exact ⟨⟨progress, after⟩, fun post member => Nat.lt_of_lt_of_le (ih.roomy post member) roomy⟩

end Staging

namespace Realizer

variable {forest : Array SpecTree} {index : Nat} {whole : SpecTree} {realizer : Realizer}
  {name : String} {start realized rig : Rig Runner}

/-- Running a conventional tree that was realized with a fresh suite is walking through it,
the first time and every later time: the reports are the same, errors included, and so is
the bench with the history of all executions, whatever the steps and the delay do. -/
theorem runSuite_eq_walk (placed : forest[index]? = some whole) (complete : whole.losses = [])
    (conventional : whole.root.isConventional)
    (fresh : start.IsSuite realizer.runner (Suite.empty name))
    (ended : realizer.realizeRoot whole index start = (.returned (), realized))
    (reached : Rig.Reached forest realizer.runner realized rig) :
    (Rig.runSuite forest realizer.runner rig).1 =
        (whole.walkThrough realizer.engine start.bench.world name rig.bench).1 ∧
      (Rig.runSuite forest realizer.runner rig).2.bench =
        (whole.walkThrough realizer.engine start.bench.world name rig.bench).2 := by
  let staging : Staging :=
    { forest, index, whole, realizer, name, world := start.bench.world, base := start.cells.size,
      placed, complete, conventional }
  have stands : staging.Stands realized := Staging.stands_of_realizeRoot rfl rfl fresh ended
  obtain ⟨outcome, bench, _⟩ :=
    Staging.runSuite_eq_walkThrough (Staging.stands_of_reached stands reached)
  exact ⟨outcome, bench⟩

/-- A subject with one assertion entry, run twice. -/
theorem runSuite_eq_walk_twice :
    let entry : ActionNode :=
      { description := .text "should", step := fun _ previous => pure previous,
        variant := .leafCase }
    let whole : SpecTree :=
      { root := (SpecTree.subject "five" (pure (.integer 5))).root.addChild entry }
    let realizer : Realizer := ⟨⟨0⟩, ⟨1, .immediate, false⟩⟩
    let start : Rig Runner := { runners := #[.suite (Suite.empty "")] }
    let realized := (realizer.realizeRoot whole 0 start).2
    let again := (Rig.runSuite #[whole] ⟨0⟩ realized).2
    whole.root.isConventional ∧
      realizer.realizeRoot whole 0 start = (.returned (), realized) ∧
      (Rig.runSuite #[whole] ⟨0⟩ again).1 =
        (whole.walkThrough realizer.engine {} "" again.bench).1 := by
  intro entry whole realizer start realized again
  have conventional : whole.root.isConventional = true := rfl
  have fresh : start.IsSuite realizer.runner (Suite.empty "") := rfl
  have outcome : (realizer.realizeRoot whole 0 start).1 = .returned () := rfl
  have ended : realizer.realizeRoot whole 0 start = (.returned (), realized) :=
    Prod.ext outcome rfl
  have reached : Rig.Reached #[whole] realizer.runner realized again := .run .filled
  have placed : #[whole][0]? = some whole := rfl
  exact ⟨conventional, ended, (runSuite_eq_walk placed rfl conventional fresh ended reached).1⟩

end Realizer

end DeferredSpec
