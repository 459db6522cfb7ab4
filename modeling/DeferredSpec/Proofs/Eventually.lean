/-
# An engine that retries by default

Whoever turns retries on by default means `should` as `should_eventually`: a subject behaves the
same when every access of the first word is replaced by the second and the engine is left to
retry what asks for it. The same steps are executed with the same results and the delay is
called in between at the same places, and every case ends alike. What tells the two apart is in
the titles, which are in the log as well. So nothing that runs may look at the log.
-/

import DeferredSpec.Proofs.PairedRealizing
import DeferredSpec.Proofs.Unlogged.Samples
import DeferredSpec.Suite.Run

namespace DeferredSpec

open Effect (Echoes)

namespace ActionTree

variable {change : ActionNode → ActionNode}

mutual

theorem height_mapNodes : ∀ tree : ActionTree, (tree.mapNodes change).height = tree.height
  | .node here children => by rw [mapNodes, height, height, heightAll_mapAll children]

theorem heightAll_mapAll : ∀ trees : List ActionTree,
    heightAll (mapAll change trees) = heightAll trees
  | [] => rfl
  | tree :: trees => by
      rw [mapAll, heightAll, heightAll, height_mapNodes tree, heightAll_mapAll trees]

end

theorem height_promotedBelow (tree : ActionTree) : tree.promotedBelow.height = tree.height := by
  have same : tree.promotedBelow.height = tree.promoted.height := by
    cases tree
    rw [promoted_node]
    rfl
  rw [same, promoted, height_mapNodes]

end ActionTree

/-- Reports of a case that ended alike in the same groups, under titles that differ in promoted
words at most. -/
structure CaseReport.IsPromoted (report other : CaseReport) : Prop where
  path : ∃ around title promoted, IsPromotedTitle title promoted ∧
    report.path = around ++ [title] ∧ other.path = around ++ [promoted]
  error : other.error = report.error

namespace Pairing

variable {pairing : Pairing} {forest others : Array SpecTree}

/-- The forests hold the tree and its promoted form in the same place. -/
structure Grows (pairing : Pairing) (forest others : Array SpecTree) : Prop where
  whole : forest[pairing.index]? = some pairing.whole
  promoted : others[pairing.index]? = some pairing.whole.promoted

namespace Grows

theorem bodies_generations (grows : pairing.Grows forest others) {body twin : Body}
    (bodies : pairing.Bodies body twin) :
    twin.generations others = body.generations forest := by
  cases bodies with
  | hook => rfl
  | case _ _ =>
      simp only [Body.generations, grows.whole, grows.promoted]
      exact pairing.whole.root.height_promotedBelow

theorem map_generations (grows : pairing.Grows forest others) {hooks twins : List Body}
    (prepared : List.Forall₂ pairing.Bodies hooks twins) :
    twins.map (Body.generations others) = hooks.map (Body.generations forest) := by
  induction prepared with
  | nil => rfl
  | cons head _ ih => rw [List.map_cons, List.map_cons, grows.bodies_generations head, ih]

mutual

theorem depth_eq (grows : pairing.Grows forest others) :
    ∀ {entry twin : Entry}, pairing.PairsEntry entry twin →
    twin.depth (Body.generations others) = entry.depth (Body.generations forest)
  | _, _, .group _ prepared content => by
      rw [Entry.depth, Entry.depth, grows.map_generations prepared, depthAll_eq grows content]
  | _, _, .case _ bodies => by rw [Entry.depth, Entry.depth, grows.bodies_generations bodies]

theorem depthAll_eq (grows : pairing.Grows forest others) :
    ∀ {entries twins : List Entry}, pairing.PairsEntries entries twins →
    Entry.depthAll (Body.generations others) twins =
      Entry.depthAll (Body.generations forest) entries
  | _, _, .nil => rfl
  | _, _, .cons head tail => by
      rw [Entry.depthAll, Entry.depthAll, depth_eq grows head, depthAll_eq grows tail]

end

theorem generations_eq (grows : pairing.Grows forest others) {suite twin : Suite}
    (pairs : pairing.Suites suite twin) :
    twin.generations others = suite.generations forest := by
  rw [Suite.generations, Suite.generations, grows.depth_eq pairs.root.close]

end Grows

/-! ### Running -/

/-- Where there is a node it is executed alike in both trees, and all is promoted below it. -/
theorem IsBlind.executed_alike (blind : pairing.IsBlind) (address : Address) :
    (pairing.whole.root.subtree? address = none ∧
        pairing.whole.promoted.root.subtree? address = none) ∨
      ∃ found twin, pairing.whole.root.subtree? address = some found ∧
        pairing.whole.promoted.root.subtree? address = some twin ∧
        twin.children = found.children.map ActionTree.promoted ∧
        ∀ previous, Echoes pairing.Rigs Eq
          (Rig.execute (pairing.whole.execute address found.here previous))
          (Rig.execute (pairing.whole.promoted.execute address twin.here previous)) := by
  have there := pairing.whole.subtree?_promoted address
  cases located : pairing.whole.root.subtree? address with
  | none =>
      rw [located] at there
      exact .inl ⟨rfl, there⟩
  | some found =>
      rw [located] at there
      obtain ⟨twin, also, step, arguments, children⟩ := there
      refine .inr ⟨found, twin, rfl, also, children, fun previous => ?_⟩
      have known := ActionTree.nodeAt?_of_subtree? located
      rw [SpecTree.execute_promoted blind.tree.complete blind.tree.unheard address step arguments]
      exact echoes_execute
        (blind.tree.ignoresLog_execute address (blind.tree.steps address _ known) previous)

section Running

variable (blind : pairing.IsBlind) (grows : pairing.Grows forest others)
include blind grows

/-- What runs in paired hooks and cases keeps rigs paired. -/
theorem echoes_run {body twin : Body} (bodies : pairing.Bodies body twin) :
    Echoes pairing.Rigs Eq (body.run forest) (twin.run others) := by
  have complete := blind.tree.complete
  have still : pairing.whole.promoted.losses = [] := complete
  cases bodies with
  | @hook address cell source reading =>
      rw [Body.run, Body.run, grows.whole, grows.promoted]
      dsimp only
      rcases blind.executed_alike address with
        ⟨none, never⟩ | ⟨found, other, located, also, _, executed⟩
      · rw [none, never]
        exact .pure rfl
      · rw [located, also]
        exact (echoes_read reading).bind_eq fun previous =>
          (executed previous).bind_eq fun result =>
            (echoes_setCell cell result).bind_eq fun _ => .pure rfl
  | @case address source settled reading =>
      rw [Body.run, Body.run, grows.whole, grows.promoted]
      dsimp only
      rcases blind.executed_alike address with
        ⟨none, never⟩ | ⟨found, other, located, also, children, executed⟩
      · rw [none, never]
        exact .pure rfl
      · rw [located, also]
        dsimp only
        rw [Realizer.runCase, Realizer.runCase, children]
        refine Echoes.bind_eq ((echoes_read reading).bind_eq fun previous =>
          (executed previous).bind_eq fun result => ?_) fun _ => .pure rfl
        rw [SpecTree.requireChildren_of_losses_eq_nil complete,
          SpecTree.requireChildren_of_losses_eq_nil still, Rig.act_pure, pure_bind, pure_bind]
        exact blind.echoes_realizeAll found.children address 0 (.ready result)
          (ActionTree.hasBelow_children located) settled (Action.IgnoresLog.pure result)

theorem echoes_runHook (path : GroupPath) (name : String) {hook twin : Body}
    (bodies : pairing.Bodies hook twin) :
    Echoes pairing.Rigs Eq (Rig.runHook forest pairing.runner path name hook)
      (Rig.runHook others pairing.runner path name twin) := by
  refine (echoes_capture (echoes_run blind grows bodies)).bind fun outcomes => ?_
  cases outcomes with
  | returned _ => exact .pure rfl
  | raised error =>
      exact (echoes_act (Action.echoes_logComposed _ _ _ _)).bind_eq fun _ =>
        (echoes_changeSuite fun pairs => pairs.setProgress path (.failed error)).bind_eq fun _ =>
          .raise error

theorem echoes_runFurtherHooks (path : GroupPath) (done : Nat) :
    Echoes pairing.Rigs Eq (Rig.runFurtherHooks forest pairing.runner path done)
      (Rig.runFurtherHooks others pairing.runner path done) := by
  have looked : Echoes pairing.Rigs
      (fun group twin => twin.1 = group.1 ∧ List.Forall₂ pairing.Bodies group.2 twin.2)
      (Rig.readSuite pairing.runner fun suite => suite.groupAt path)
      (Rig.readSuite pairing.runner fun suite => suite.groupAt path) :=
    echoes_readSuite fun pairs => pairs.groupAt path
  refine looked.bind fun {group twin} alike => ?_
  obtain ⟨name, hooks⟩ := group
  obtain ⟨other, twins⟩ := twin
  obtain ⟨rfl, prepared⟩ := alike
  have left := List.forall₂_drop done prepared
  dsimp only
  rw [← left.length_eq]
  exact (Echoes.forEach (fun bodies => echoes_runHook blind grows path other bodies) left).bind_eq
    fun _ => .pure rfl

theorem echoes_runHooks (path : GroupPath) : ∀ generations done : Nat,
    Echoes pairing.Rigs Eq (Rig.runHooks forest pairing.runner path generations done)
      (Rig.runHooks others pairing.runner path generations done)
  | 0, done => (echoes_runFurtherHooks blind grows path done).bind_eq fun _ => .pure rfl
  | generations + 1, done => by
      refine (echoes_runFurtherHooks blind grows path done).bind_eq fun count => ?_
      split
      · exact .pure rfl
      · exact echoes_runHooks path generations (done + count)

theorem echoes_prepare (path : GroupPath) :
    Echoes pairing.Rigs Eq (Rig.prepare forest pairing.runner path)
      (Rig.prepare others pairing.runner path) := by
  refine (echoes_readSuite fun pairs => pairs).bind fun {suite twin} pairs => ?_
  rw [pairs.progress]
  cases suite.progress path with
  | done => exact .pure rfl
  | failed error => exact .raise error
  | pending =>
      dsimp only
      rw [grows.generations_eq pairs]
      exact (echoes_changeSuite fun pairs => pairs.setProgress path .done).bind_eq fun _ =>
        echoes_runHooks blind grows path _ 0

theorem echoes_runPick {pick twin : Pick} (picks : pairing.Picks pick twin) :
    Echoes pairing.Rigs Eq (Rig.runPick forest pairing.runner pick)
      (Rig.runPick others pairing.runner twin) := by
  rw [Rig.runPick, Rig.runPick, picks.group]
  have lineage : List.Forall₂ Eq (GroupPath.lineage pick.group) (GroupPath.lineage pick.group) :=
    List.forall₂_refl _
  have prepared := Echoes.forEach (fun {path _} same => by
    subst same
    exact echoes_prepare blind grows path) lineage
  exact prepared.bind_eq fun _ => (echoes_run blind grows picks.bodies).bind_eq fun _ => .pure rfl

theorem echoes_reportPick {pick twin : Pick} (picks : pairing.Picks pick twin) :
    Echoes pairing.Rigs CaseReport.IsPromoted (Rig.reportPick forest pairing.runner pick)
      (Rig.reportPick others pairing.runner twin) := by
  refine (echoes_capture (echoes_runPick blind grows picks)).bind fun outcomes => ?_
  cases outcomes with
  | returned _ => exact .pure ⟨picks.path, rfl⟩
  | raised error =>
      exact (echoes_act (Action.echoes_logComposed _ _ _ _)).bind_eq fun _ =>
        .pure ⟨picks.path, rfl⟩

theorem echoes_runFurther (done : Nat) :
    Echoes pairing.Rigs
      (fun found other => other.1 = found.1 ∧ List.Forall₂ CaseReport.IsPromoted found.2 other.2)
      (Rig.runFurther forest pairing.runner done) (Rig.runFurther others pairing.runner done) := by
  refine (echoes_readSuite fun pairs => pairs).bind fun {suite twin} pairs => ?_
  refine (Echoes.collect (fun picks => echoes_reportPick blind grows picks)
    (pairs.picksFrom done)).bind fun reports => ?_
  exact .pure ⟨pairs.root.entries.length, reports⟩

theorem echoes_runFrom : ∀ generations done : Nat,
    Echoes pairing.Rigs (List.Forall₂ CaseReport.IsPromoted)
      (Rig.runFrom forest pairing.runner generations done)
      (Rig.runFrom others pairing.runner generations done)
  | 0, done => (echoes_runFurther blind grows done).bind fun found => .pure found.2
  | generations + 1, done => by
      refine (echoes_runFurther blind grows done).bind fun {found other} alike => ?_
      obtain ⟨count, reports⟩ := found
      obtain ⟨length, twins⟩ := other
      obtain ⟨rfl, same⟩ := alike
      dsimp only
      split
      · exact .pure same
      · exact (echoes_runFrom generations length).bind fun more =>
          .pure (List.rel_append same more)

/-- To run a suite keeps rigs paired, and every case ends alike. -/
theorem echoes_runSuite :
    Echoes pairing.Rigs (List.Forall₂ CaseReport.IsPromoted)
      (Rig.runSuite forest pairing.runner) (Rig.runSuite others pairing.runner) := by
  refine (echoes_changeSuite fun pairs => pairs.reset).bind_eq fun _ => ?_
  refine (echoes_readSuite fun pairs => pairs).bind fun {suite twin} pairs => ?_
  rw [grows.generations_eq pairs]
  exact echoes_runFrom blind grows _ 0

end Running

end Pairing

/-! ### Presentations -/

namespace Realizer

/-- Realize a tree from one of its nodes and then run the suite a number of times, however
realization has ended. -/
def present (realizer : Realizer) (forest : Array SpecTree) (whole : SpecTree) (index : Nat)
    (target : Address) (runs : Nat) :
    Effect (Rig Runner) (Outcome Unit × List (List CaseReport)) := do
  let outcome ← (realizer.realizeFrom whole index target).attempt
  let reports ← Effect.collect (fun _ => Rig.runSuite forest realizer.runner) (List.range runs)
  pure (outcome, reports)

/-- Two presentations went alike: realization and the cases of every run ended alike, under
titles that differ in promoted words at most; the same was executed with the same results, with
the delay called in between at the same places; and the worlds, errors and all, are the same
but for the log. -/
structure WentAlike
    (first second : Outcome (Outcome Unit × List (List CaseReport)) × Rig Runner) : Prop where
  ended : first.1.Pairs
    (fun found other => other.1 = found.1 ∧
      List.Forall₂ (List.Forall₂ CaseReport.IsPromoted) found.2 other.2) second.1
  history : second.2.bench.history = first.2.bench.history
  world : first.2.bench.world.SameButLog second.2.bench.world

end Realizer

/-- The rig with another log. -/
def Rig.withRecords (records : Array LogRecord) (rig : Rig Runner) : Rig Runner :=
  { rig with bench.world := rig.bench.world.withRecords records }

namespace Pairing

variable {pairing : Pairing} {forest others : Array SpecTree}

/-- A rig with an empty suite is paired with the rig with another log. -/
theorem rigs_withRecords {start : Rig Runner} {name : String}
    (fresh : start.IsSuite pairing.runner (Suite.empty name)) (records : Array LogRecord) :
    pairing.Rigs start (start.withRecords records) :=
  ⟨⟨records, rfl⟩, rfl, rfl, _, _, fresh, suites_empty name, fresh.setIfInBounds_self.symm⟩

/-- To present a tree goes like presenting its promoted form. -/
theorem IsBlind.wentAlike (blind : pairing.IsBlind) (grows : pairing.Grows forest others)
    {start : Rig Runner} {name : String}
    (fresh : start.IsSuite pairing.runner (Suite.empty name)) (records : Array LogRecord)
    (target : Address) (runs : Nat) :
    Realizer.WentAlike
      (pairing.eager.present forest pairing.whole pairing.index target runs start)
      (pairing.patient.present others pairing.whole.promoted pairing.index target runs
        (start.withRecords records)) := by
  have complete := blind.tree.complete
  have still : pairing.whole.promoted.losses = [] := complete
  have alike : Echoes pairing.Rigs
      (fun found other => other.1 = found.1 ∧
        List.Forall₂ (List.Forall₂ CaseReport.IsPromoted) found.2 other.2)
      (pairing.eager.present forest pairing.whole pairing.index target runs)
      (pairing.patient.present others pairing.whole.promoted pairing.index target runs) := by
    rw [Realizer.present, Realizer.present, Realizer.realizeFrom_eq_realizeRoot complete,
      Realizer.realizeFrom_eq_realizeRoot still]
    refine blind.echoes_realizeRoot.attempt.bind fun outcomes => ?_
    have times : List.Forall₂ Eq (List.range runs) (List.range runs) := List.forall₂_refl _
    have ran := Echoes.collect (fun {_ _} _ => echoes_runSuite blind grows) times
    exact ran.bind fun reports => .pure ⟨outcomes.eq.symm, reports⟩
  obtain ⟨ended, left⟩ := alike start _ (rigs_withRecords fresh records)
  obtain ⟨written, bench⟩ := left.bench
  exact ⟨ended, by rw [bench], written, by rw [bench]⟩

end Pairing

namespace SpecTree

variable [ObjectModel] [ObjectModel.IsBlind]

/-- An engine that retries by default means what it says. Whatever is done with the handles of a
subject, and with every access of `should` replaced by one of `should_eventually`: with the
engine for the first and one that does not retry by default for the second, every step below an
entry is retried alike whatever the bench is; and if nothing that runs looks at the log, to
realize and run the one goes like the other. -/
theorem present_promoted (description : String) {factory : Action Value}
    (blind : factory.IgnoresLog) {operations : List HandleOperation}
    (engines : ∀ operation ∈ operations, operation.IsBlind) (budget : Nat) {delay : Delay}
    (unlogged : delay.IsBlind) (world later : World) {forest others : Array SpecTree}
    {whole promoted : SpecTree} {index : Nat}
    (grown : grownFrom description factory {} operations world = whole)
    (renamed : grownFrom description factory {} (operations.map HandleOperation.promoted) later =
      promoted)
    (here : forest[index]? = some whole) (there : others[index]? = some promoted)
    {runner : RunnerRef} {name : String} {start : Rig Runner}
    (fresh : start.IsSuite runner (Suite.empty name)) (records : Array LogRecord)
    (target : Address) (runs : Nat) :
    (∀ address node, whole.IsAsserted address →
      (⟨budget, delay, false⟩ : RetryEngine).run promoted address node =
        (⟨budget, delay, true⟩ : RetryEngine).run whole address node) ∧
      Realizer.WentAlike
        ((⟨runner, ⟨budget, delay, true⟩⟩ : Realizer).present forest whole index target runs start)
        ((⟨runner, ⟨budget, delay, false⟩⟩ : Realizer).present others promoted index target runs
          (start.withRecords records)) := by
  let pairing : Pairing := ⟨whole, index, runner, budget, delay⟩
  obtain rfl : whole.promoted = promoted := by
    rw [← renamed, ← grown]
    exact (grownFrom_promoted description factory {} operations world later).symm
  have tree : whole.IsBlind := by
    rw [← grown, grownFrom_eq]
    exact isBlind_foldl_next (isBlind_subject description blind) engines
  have regular : whole.IsRegular := by
    rw [← grown]
    exact ((Grown.subject description factory {}).grow operations world).isRegular
  refine ⟨fun address node asserted => ?_, ?_⟩
  · have settled : pairing.Settled address := fun _ => asserted
    exact settled.run_promoted tree.complete tree.unheard node
  · have silent : pairing.IsBlind := ⟨regular, tree, unlogged⟩
    have planted : pairing.Grows forest others := ⟨here, there⟩
    exact silent.wentAlike planted fresh records target runs

end SpecTree

namespace SpecTree

/-- Three, which should equal five. -/
def threeShouldEqualFive : List HandleOperation :=
  [.member .standard [] should, .member .standard [0] "equal", .call [0, 0] [.integer 5]]

/-- Three does not equal five, and with two retries the delay is called twice, whether retries
are the default or asked for. -/
theorem present_promoted_of_three :
    let factory : Action Value := pure (.integer 3)
    let whole := grownFrom "three" factory {} threeShouldEqualFive {}
    let renamed := threeShouldEqualFive.map HandleOperation.promoted
    let promoted := grownFrom "three" factory {} renamed {}
    let start : Rig Runner := { runners := #[.suite (Suite.empty "")] }
    let first := (⟨⟨0⟩, ⟨2, .immediate, true⟩⟩ : Realizer).present #[whole] whole 0 [] 1 start
    let second := (⟨⟨0⟩, ⟨2, .immediate, false⟩⟩ : Realizer).present #[promoted] promoted 0 [] 1
      (start.withRecords #[])
    (factory.IgnoresLog ∧ (∀ operation ∈ threeShouldEqualFive, operation.IsBlind) ∧
      Delay.immediate.IsBlind ∧ start.IsSuite ⟨0⟩ (Suite.empty "")) ∧
      first.2.bench.delays = 2 ∧
      (∀ address node, whole.IsAsserted address →
        (⟨2, .immediate, false⟩ : RetryEngine).run promoted address node =
          (⟨2, .immediate, true⟩ : RetryEngine).run whole address node) ∧
      Realizer.WentAlike first second := by
  intro factory whole renamed promoted start first second
  have blind : factory.IgnoresLog := .pure _
  have engines : ∀ operation ∈ threeShouldEqualFive, operation.IsBlind := by
    intro operation member
    simp only [threeShouldEqualFive, List.mem_cons, List.not_mem_nil, or_false] at member
    rcases member with rfl | rfl | rfl
    · exact AssertionEngine.isBlind_standard
    · exact AssertionEngine.isBlind_standard
    · trivial
  have one : #[whole][0]? = some whole := rfl
  have other : #[promoted][0]? = some promoted := rfl
  have fresh : start.IsSuite ⟨0⟩ (Suite.empty "") := rfl
  refine ⟨⟨blind, engines, Delay.isBlind_immediate, fresh⟩, by decide +kernel, ?_⟩
  exact present_promoted "three" blind engines 2 Delay.isBlind_immediate {} {} rfl rfl one other
    fresh #[] [] 1

end SpecTree

end DeferredSpec
