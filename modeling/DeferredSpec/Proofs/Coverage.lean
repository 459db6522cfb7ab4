/-
# What a passed case has covered

The body of a realized case executes the case and then, right away, the steps of the chains
below it. An entry below the case is registered as a case of its own instead, and nothing
below that entry is executed in this body. So a passed case of a grown tree has covered all
that lies below it just if no further entry lies there.
-/

import DeferredSpec.Proofs.Growth
import DeferredSpec.Proofs.Undertakings
import DeferredSpec.Samples.Objects
import DeferredSpec.Suite.Run

namespace DeferredSpec

namespace Rig

variable {ρ α : Type} {allowed : Address → Prop}

theorem undertakes_execute {goals : α → Address → Prop} {execution : Execution α}
    (undertakes : execution.Undertakes allowed goals) :
    (execute execution : Effect (Rig ρ) α).Undertakes allowed goals :=
  fun rig => undertakes rig.bench

theorem undertakes_act (action : Action α) :
    (act action : Effect (Rig ρ) α).Undertakes allowed fun _ _ => False :=
  undertakes_execute (Execution.undertakes_ofAction action)

theorem undertakes_read (source : Source) :
    (read source : Effect (Rig ρ) Value).Undertakes allowed fun _ _ => False := by
  cases source with
  | produced make => exact undertakes_act make
  | kept cell =>
      refine .after (.of_quiet fun _ => rfl) fun found => ?_
      cases found with
      | some value => exact .pure value fun _ => id
      | none => exact undertakes_act _

/-- Registering a case executes nothing. -/
theorem undertakes_case [SpecRunner ρ] (runner : RunnerRef) (name : String) (body : Body) :
    (case runner name body : Effect (Rig ρ) Unit).Undertakes allowed fun _ _ => False := by
  refine .of_quiet fun rig => ?_
  rw [case, changeRunner, Effect.modify_apply]
  cases rig.runners[runner.index]? <;> rfl

end Rig

/-- What is found below a node is found in one of its children. -/
theorem ActionTree.exists_child {here : ActionNode} {children : List ActionTree} {position : Nat}
    {rest : Address} (inside : ((node here children).subtree? (position :: rest)).isSome) :
    ∃ child, children[position]? = some child ∧ (child.subtree? rest).isSome := by
  rw [subtree?] at inside
  cases there : (node here children).children[position]? with
  | none =>
      rw [there] at inside
      cases inside
  | some child =>
      rw [there] at inside
      exact ⟨child, there, inside⟩

namespace SpecTree

/-- What the body of the case at an address may execute: what lies on the way to the case,
and steps of chains. -/
def Admits (whole : SpecTree) (case executed : Address) : Prop :=
  executed <+: case ∨
    ∃ found, whole.root.subtree? executed = some found ∧ found.here.variant = .chainStep

end SpecTree

namespace Realizer

variable {ρ : Type} [SpecRunner ρ] {realizer : Realizer} {whole : SpecTree} {case : Address}

mutual

/-- Realizing a node below a case executes all of it if it is a chain. -/
theorem undertakes_realize (complete : whole.losses = []) (index : Nat) :
    ∀ (tree : ActionTree) (address : Address) (source : Source), tree.isKinded true →
      whole.root.subtree? address = some tree →
      (∀ above, above <+: address → above ≠ address → whole.Admits case above) →
      (realizer.realize whole index address source tree : Effect (Rig ρ) Unit).Undertakes
        (whole.Admits case) fun _ executed =>
          tree.isChain ∧ ∃ rest, executed = address ++ rest ∧ (tree.subtree? rest).isSome
  | .node here children, address, source, kinded, located, onWay => by
      obtain ⟨kind, below⟩ := ActionTree.isKinded_iff.mp kinded
      rw [realize, SpecTree.require_of_losses_eq_nil complete, Rig.act_pure, pure_bind]
      cases variant : here.variant with
      | group =>
          -- below an entry there is no group
          rw [show here.variant = ActionTree.kindOf true here from kind, ActionTree.kindOf]
            at variant
          split at variant <;> cases variant
      | leafCase =>
          refine .after (Rig.undertakes_act _) fun title => ?_
          refine .after (Rig.undertakes_act _) fun _ => ?_
          refine (Rig.undertakes_case realizer.runner title _).imp ?_
          rintro _ executed ⟨chain, _⟩
          rw [(ActionTree.isChain_node.mp chain).1] at variant
          cases variant
      | chainStep =>
          have reached : ∀ executed, executed <+: address → whole.Admits case executed := by
            intro executed onTheWay
            by_cases same : executed = address
            · exact .inr ⟨.node here children, same ▸ located, variant⟩
            · exact onWay executed onTheWay same
          have found : (whole.root.subtree? address).isSome := by rw [located]; rfl
          refine .after (Rig.undertakes_read source) fun previous => ?_
          have run := (realizer.engine.undertakes_run here previous complete found).allow reached
          have inside : ∀ (position : Nat) (child : ActionTree),
              children[position]? = some child →
                whole.root.subtree? (address ++ [0 + position]) = some child := by
            intro position child there
            rw [Nat.zero_add]
            exact ActionTree.subtree?_concat located there
          have lower (result : Value) := undertakes_realizeAll complete index children address 0
            (.ready result) below inside reached
          simp only [SpecTree.requireChildren_of_losses_eq_nil complete, Rig.act_pure, pure_bind]
          refine .bind _ (Rig.undertakes_execute run) lower ?_
          rintro _ _ executed ⟨chain, rest, rfl, inside⟩
          cases rest with
          | nil => exact .inl (List.append_nil address)
          | cons position rest =>
              obtain ⟨child, there, inside⟩ := ActionTree.exists_child inside
              refine .inr ⟨(ActionTree.isChain_node.mp chain).2, position, child, rest, there, ?_,
                inside⟩
              rw [Nat.zero_add]

/-- Realizing nodes below a case executes all of them if they are chains. -/
theorem undertakes_realizeAll (complete : whole.losses = []) (index : Nat) :
    ∀ (children : List ActionTree) (parent : Address) (next : Nat) (source : Source),
      ActionTree.areKinded true children →
      (∀ (position : Nat) (child : ActionTree), children[position]? = some child →
        whole.root.subtree? (parent ++ [next + position]) = some child) →
      (∀ above, above <+: parent → whole.Admits case above) →
      (realizer.realizeAll whole index parent next source children :
        Effect (Rig ρ) Unit).Undertakes (whole.Admits case) fun _ executed =>
          ActionTree.areChains children ∧ ∃ position child rest,
            children[position]? = some child ∧ executed = parent ++ (next + position) :: rest ∧
              (child.subtree? rest).isSome
  | [], parent, next, source, _, _, _ => by
      refine .pure () ?_
      rintro executed ⟨_, position, child, rest, ⟨⟩, _⟩
  | child :: children, parent, next, source, kinded, located, onWay => by
      rw [ActionTree.areKinded_iff] at kinded
      rw [realizeAll]
      have toChild : ∀ above, above <+: parent ++ [next] → above ≠ parent ++ [next] →
          whole.Admits case above := by
        intro above onTheWay apart
        rcases List.prefix_concat_iff.mp onTheWay with same | onTheWay
        · exact absurd same apart
        · exact onWay above onTheWay
      have further : ∀ (position : Nat) (other : ActionTree), children[position]? = some other →
          whole.root.subtree? (parent ++ [next + 1 + position]) = some other := by
        intro position other found
        rw [Nat.add_right_comm, Nat.add_assoc]
        exact located (position + 1) other found
      have kindedRest : ActionTree.areKinded true children :=
        ActionTree.areKinded_iff.mpr fun other member =>
          kinded other (List.mem_cons_of_mem child member)
      refine .bind _
        (undertakes_realize complete index child (parent ++ [next]) source
          (kinded child List.mem_cons_self) (located 0 child rfl) toChild)
        (fun _ => undertakes_realizeAll complete index children parent (next + 1) source
          kindedRest further onWay) ?_
      rintro _ _ executed ⟨chains, position, other, rest, found, rfl, inside⟩
      obtain ⟨first, others⟩ := ActionTree.areChains_cons.mp chains
      cases position with
      | zero =>
          cases found
          refine .inl ⟨first, rest, ?_, inside⟩
          rw [List.append_assoc]
          rfl
      | succ position =>
          refine .inr ⟨others, position, other, rest, found, ?_, inside⟩
          rw [Nat.add_right_comm, Nat.add_assoc]

end

/-- The body of a case executes the case, and all below it if that is chains. -/
theorem undertakes_runCase (complete : whole.losses = []) {index : Nat} {here : ActionNode}
    {children : List ActionTree} (source : Source)
    (located : whole.root.subtree? case = some (.node here children))
    (below : ActionTree.areKinded true children) :
    (realizer.runCase whole ⟨index, case⟩ source (.node here children) :
      Effect (Rig ρ) Unit).Undertakes (whole.Admits case) fun _ executed =>
        executed = case ∨ ActionTree.areChains children ∧
          ∃ rest, rest ≠ [] ∧ executed = case ++ rest ∧
            ((ActionTree.node here children).subtree? rest).isSome := by
  have inside : ∀ (position : Nat) (child : ActionTree), children[position]? = some child →
      whole.root.subtree? (case ++ [0 + position]) = some child := by
    intro position child there
    rw [Nat.zero_add]
    exact ActionTree.subtree?_concat located there
  have itself (previous : Value) : (whole.execute case here previous).Undertakes
      (whole.Admits case) fun _ executed => executed = case :=
    (whole.undertakes_execute case here previous).allow
      fun executed same => .inl (same ▸ List.prefix_rfl)
  have lower (result : Value) : Effect.Undertakes (whole.Admits case) _
      (realizer.realizeAll whole index case 0 (.ready result) children : Effect (Rig ρ) Unit) :=
    undertakes_realizeAll complete index children case 0 (.ready result) below inside
      fun above onTheWay => .inl onTheWay
  rw [runCase]
  simp only [SpecTree.requireChildren_of_losses_eq_nil complete, Rig.act_pure, pure_bind]
  refine .after (Rig.undertakes_read source) fun previous => ?_
  refine .bind _ (Rig.undertakes_execute (itself previous)) lower ?_
  rintro _ _ executed (same | ⟨chains, rest, proper, rfl, found⟩)
  · exact .inl same
  · cases rest with
    | nil => exact absurd rfl proper
    | cons position rest =>
        obtain ⟨child, there, found⟩ := ActionTree.exists_child found
        refine .inr ⟨chains, position, child, rest, there, ?_, found⟩
        rw [Nat.zero_add]

end Realizer

namespace SpecTree

/-- Everything below a node was executed with success in a part of a history. -/
def IsCovered (whole : SpecTree) (address : Address) (segment : Array Happening) : Prop :=
  ∀ rest, rest ≠ [] → (whole.root.subtree? (address ++ rest)).isSome →
    Completes segment (address ++ rest)

/-- Nothing below a node opens a case of its own. -/
def IsLastEntry (whole : SpecTree) (address : Address) : Prop :=
  ∀ rest found, rest ≠ [] → whole.root.subtree? (address ++ rest) = some found →
    ¬ found.here.isDescribedBy assertionEntries

end SpecTree

/-- The case of a node of a grown tree covers all that lies below the node, once it returns,
just if no further entry lies there. -/
theorem Body.isCovered_iff [ObjectModel] {ρ : Type} [SpecRunner ρ] {forest : Array SpecTree}
    {realizer : Realizer} {node : NodeRef} {source : Source} {whole : SpecTree}
    {found : ActionTree} {first last : Rig ρ} {value : Value}
    (placed : forest[node.tree]? = some whole) (grown : whole.Grown)
    (located : whole.root.subtree? node.address = some found)
    (isCase : found.here.variant = .leafCase)
    (returned : (realizedCase realizer node source).run forest first = (.returned value, last)) :
    ∃ segment, last.bench.history = first.bench.history ++ segment ∧
      Completes segment node.address ∧
      (whole.IsCovered node.address segment ↔ whole.IsLastEntry node.address) := by
  have regular := grown.isRegular
  have strict : node.address ≠ [] := by
    intro top
    rw [top] at located
    cases located
    rw [regular.root] at isCase
    cases isCase
  obtain ⟨flag, _, kinded⟩ := ActionTree.isKinded_of_subtree? regular.kinded strict located
  have entry := ActionTree.isDescribedBy_of_variant kinded isCase
  have below : ActionTree.areKinded true found.children := by
    have lower := (ActionTree.isKinded_iff.mp kinded).2
    rwa [ActionTree.isKindedBelow, entry, Bool.or_true] at lower
  obtain ⟨here, children⟩ := found
  have body : Effect.Undertakes (whole.Admits node.address) _
      (realizer.runCase whole node source (.node here children) : Effect (Rig ρ) Unit) :=
    Realizer.undertakes_runCase regular.complete source located below
  simp only [run, placed, located] at returned
  obtain ⟨_, middle, ended, finished⟩ := Effect.bind_eq_returned_iff.mp returned
  cases finished
  obtain ⟨segment, grows, within, complete⟩ := body first
  rw [ended] at grows complete
  refine ⟨segment, grows, complete () rfl _ (.inl rfl), ?_⟩
  constructor
  · intro covered rest target proper there isEntry
    -- a further entry was executed, but it is neither on the way nor a step
    have present : (whole.root.subtree? (node.address ++ rest)).isSome := by rw [there]; rfl
    have onTheWay := within _ (.of_completes (covered rest proper present))
    have apart : node.address ++ rest ≠ [] := by simp [strict]
    obtain ⟨flag, _, kinded⟩ := ActionTree.isKinded_of_subtree? regular.kinded apart there
    have further := ActionTree.variant_of_isDescribedBy kinded isEntry
    rcases onTheWay with above | ⟨step, same, isStep⟩
    · have short := above.length_le
      rw [List.length_append] at short
      exact proper (List.eq_nil_of_length_eq_zero (by omega))
    · cases there.symm.trans same
      rw [further] at isStep
      cases isStep
  · intro last rest proper present
    have chains : ActionTree.areChains children := by
      refine ActionTree.areChains_of_undescribed children below ?_
      intro position deeper child target there inside
      have lower : whole.root.subtree? (node.address ++ position :: deeper) = some target := by
        rw [List.append_cons, ActionTree.subtree?_append,
          ActionTree.subtree?_concat located there]
        exact inside
      exact last (position :: deeper) target (List.cons_ne_nil position deeper) lower
    refine complete () rfl _ (.inr ⟨chains, rest, proper, rfl, ?_⟩)
    rwa [ActionTree.subtree?_append, located] at present

/-- A case passed between two rigs: once the groups around it were prepared, its body ran and
returned. If it is the case of a node of a grown tree, everything below the node was covered
meanwhile just if no further entry lies there. -/
def Pick.Passes [ObjectModel] (forest : Array SpecTree) (runner : RunnerRef) (pick : Pick)
    (first last : Rig Runner) : Prop :=
  ∃ start value,
    Effect.forEach (Rig.prepare forest runner) (GroupPath.lineage pick.group) first =
        (.returned (), start) ∧
      pick.body.run forest start = (.returned value, last) ∧
      ∀ realizer node source whole found, pick.body = .realizedCase realizer node source →
        forest[node.tree]? = some whole → whole.Grown →
        whole.root.subtree? node.address = some found → found.here.variant = .leafCase →
          ∃ segment, last.bench.history = start.bench.history ++ segment ∧
            Completes segment node.address ∧
            (whole.IsCovered node.address segment ↔ whole.IsLastEntry node.address)

namespace Rig

variable [ObjectModel] {forest : Array SpecTree} {runner : RunnerRef}
  {first middle last : Rig Runner} {pick : Pick} {picks : List Pick} {report : CaseReport}
  {reports : List CaseReport}

/-- Cases were run and reported one after another, each from where the one before has left
the rig. -/
inductive Accounts (forest : Array SpecTree) (runner : RunnerRef) :
    Rig Runner → List Pick → List CaseReport → Rig Runner → Prop
  | nil {rig : Rig Runner} : Accounts forest runner rig [] [] rig
  | cons {first middle last : Rig Runner} {pick : Pick} {picks : List Pick}
      {report : CaseReport} {reports : List CaseReport} (path : report.path = pick.path)
      (passes : report.passed → pick.Passes forest runner first middle)
      (rest : Accounts forest runner middle picks reports last) :
      Accounts forest runner first (pick :: picks) (report :: reports) last

theorem passes_of_runPick (ended : runPick forest runner pick first = (.returned (), last)) :
    pick.Passes forest runner first last := by
  rw [runPick] at ended
  obtain ⟨_, start, prepared, rest⟩ := Effect.bind_eq_returned_iff.mp ended
  obtain ⟨value, finish, returned, done⟩ := Effect.bind_eq_returned_iff.mp rest
  cases done
  refine ⟨start, value, prepared, returned, ?_⟩
  intro realizer node source whole found isRealized placed grown located isCase
  rw [isRealized] at returned
  exact Body.isCovered_iff placed grown located isCase returned

/-- A case that is reported as passed has passed. -/
theorem passes_of_reportPick
    (ended : reportPick forest runner pick first = (.returned report, last)) :
    report.path = pick.path ∧ (report.passed → pick.Passes forest runner first last) := by
  rw [reportPick] at ended
  obtain ⟨outcome, middle, captured, rest⟩ := Effect.bind_eq_returned_iff.mp ended
  rw [capture_apply] at captured
  cases outcome with
  | returned value =>
      cases rest
      refine ⟨rfl, fun _ => passes_of_runPick ?_⟩
      rcases run : runPick forest runner pick first with ⟨outcome, later⟩
      rw [run] at captured
      cases outcome with
      | returned value =>
          cases captured
          rfl
      | raised error =>
          simp only at captured
          split at captured <;> cases captured
  | raised error =>
      obtain ⟨_, later, _, reported⟩ := Effect.bind_eq_returned_iff.mp rest
      cases reported
      refine ⟨rfl, fun passed => ?_⟩
      cases passed

theorem accounts_of_collect
    (ended : Effect.collect (reportPick forest runner) picks first = (.returned reports, last)) :
    Accounts forest runner first picks reports last := by
  induction picks generalizing first reports with
  | nil =>
      cases ended
      exact .nil
  | cons pick picks ih =>
      rw [Effect.collect_cons] at ended
      obtain ⟨report, middle, reported, rest⟩ := Effect.bind_eq_returned_iff.mp ended
      obtain ⟨others, finish, collected, done⟩ := Effect.bind_eq_returned_iff.mp rest
      cases done
      obtain ⟨path, passes⟩ := passes_of_reportPick reported
      exact .cons path passes (ih collected)

theorem Accounts.append {further : List Pick} {more : List CaseReport}
    (early : Accounts forest runner first picks reports middle)
    (late : Accounts forest runner middle further more last) :
    Accounts forest runner first (picks ++ further) (reports ++ more) last := by
  induction early with
  | nil => exact late
  | cons path passes _ ih => exact .cons path passes (ih late)

theorem accounts_of_runFurther {done count : Nat}
    (ended : runFurther forest runner done first = (.returned (count, reports), last)) :
    ∃ picks, Accounts forest runner first picks reports last := by
  rw [runFurther] at ended
  obtain ⟨suite, _, found, rest⟩ := Effect.bind_eq_returned_iff.mp ended
  cases found
  obtain ⟨others, finish, collected, done⟩ := Effect.bind_eq_returned_iff.mp rest
  cases done
  exact ⟨_, accounts_of_collect collected⟩

/-- However much is registered while a suite runs, its cases run one after another. -/
theorem accounts_of_runFrom {generations done : Nat}
    (ended : runFrom forest runner generations done first = (.returned reports, last)) :
    ∃ picks, Accounts forest runner first picks reports last := by
  induction generations generalizing done first reports with
  | zero =>
      rw [runFrom] at ended
      obtain ⟨⟨count, found⟩, middle, further, done⟩ := Effect.bind_eq_returned_iff.mp ended
      cases done
      exact accounts_of_runFurther further
  | succ generations ih =>
      rw [runFrom] at ended
      obtain ⟨⟨count, found⟩, middle, further, rest⟩ := Effect.bind_eq_returned_iff.mp ended
      obtain ⟨picks, early⟩ := accounts_of_runFurther further
      simp only at rest
      split at rest
      · cases rest
        exact ⟨picks, early⟩
      · obtain ⟨more, finish, onward, done⟩ := Effect.bind_eq_returned_iff.mp rest
        cases done
        obtain ⟨others, late⟩ := ih onward
        exact ⟨picks ++ others, early.append late⟩

/-- A case that returns when it was handed out, and a case that a run reports as passed, has
passed: all that lies below its node was executed with success by its body, just if no
further entry lies there. -/
theorem passes_of_returned (forest : Array SpecTree) (runner : RunnerRef)
    (first last : Rig Runner) :
    (∀ pick, runPick forest runner pick first = (.returned (), last) →
        pick.Passes forest runner first last) ∧
      ∀ reports, runSuite forest runner first = (.returned reports, last) →
        ∃ picks start, changeSuite runner Suite.reset first = (.returned (), start) ∧
          Accounts forest runner start picks reports last := by
  refine ⟨fun pick => passes_of_runPick, ?_⟩
  intro reports ended
  rw [runSuite] at ended
  obtain ⟨_, start, reset, rest⟩ := Effect.bind_eq_returned_iff.mp ended
  obtain ⟨suite, _, found, run⟩ := Effect.bind_eq_returned_iff.mp rest
  cases found
  obtain ⟨picks, accounts⟩ := accounts_of_runFrom run
  exact ⟨picks, start, reset, accounts⟩

end Rig

namespace SpecTree

/-- The expectation that something is a number. -/
def equalNode (number : Int) : ActionNode where
  description := .text "equal"
  step := fun arguments previous =>
    AssertionEngine.standard.invoke previous (.text "equal") arguments
  variant := .chainStep
  arguments := some [.integer number]

/-- A subject that makes five. -/
def fiveNode : ActionNode where
  description := .text "five"
  step := fun _ _ => pure (.integer 5)
  variant := .group

/-- Five should equal five. -/
def singleEntry : SpecTree where
  root := .node fiveNode [.node entryNode [.single (equalNode 5)]]

/-- Five should equal five, which in turn should equal six. -/
def nestedEntry : SpecTree where
  root :=
    .node fiveNode [.node entryNode [.node (equalNode 5) [.node entryNode [.single (equalNode 6)]]]]

theorem grown_singleEntry : singleEntry.Grown := by
  have planted : (SpecTree.subject "five" (pure (.integer 5))).Grown :=
    .subject "five" (pure (.integer 5)) {}
  have opened : SpecTree.Grown { root := .node fiveNode [.single entryNode] } :=
    planted.member (rfl : resolveMember _ .standard [] (.text should) {} = _)
  have named : SpecTree.Grown
      { root := .node fiveNode
          [.node entryNode [.single { equalNode 5 with arguments := none }]] } :=
    opened.member (rfl : resolveMember _ .standard [0] (.text "equal") {} = _)
  exact named.call (rfl : callNode _ [0, 0] [.integer 5] {} = _)

theorem grown_nestedEntry : nestedEntry.Grown := by
  have opened : SpecTree.Grown
      { root := .node fiveNode [.node entryNode [.node (equalNode 5) [.single entryNode]]] } :=
    grown_singleEntry.member (rfl : resolveMember _ .standard [0, 0] (.text should) {} = _)
  have named : SpecTree.Grown
      { root := .node fiveNode [.node entryNode [.node (equalNode 5)
          [.node entryNode [.single { equalNode 6 with arguments := none }]]]] } :=
    opened.member (rfl : resolveMember _ .standard [0, 0, 0] (.text "equal") {} = _)
  exact named.call (rfl : callNode _ [0, 0, 0, 0] [.integer 6] {} = _)

end SpecTree

namespace Rig

/-- A suite with which a tree was realized, when its cases are handed out. -/
def taken (whole : SpecTree) : Outcome (List Pick) × Rig Runner :=
  let realizer : Realizer := ⟨⟨0⟩, ⟨5, .immediate, false⟩⟩
  let start : Rig Runner := { runners := #[.suite (Suite.empty "")] }
  takePicks ⟨0⟩ (realizer.realizeRoot whole 0 start).2

/-- The first case that is handed out. -/
def firstPick (whole : SpecTree) : Pick :=
  match (taken whole).1 with
  | .returned (pick :: _) => pick
  | _ => ⟨[], [], .routine {} []⟩

/-- Five should equal five, as a case that was handed out and in a run. -/
theorem passes_of_returned_of_singleEntry :
    let forest := #[SpecTree.singleEntry]
    let pick := firstPick SpecTree.singleEntry
    let rig := (taken SpecTree.singleEntry).2
    pick.path = ["when doing five", "should equal 5"] ∧
      pick.Passes forest ⟨0⟩ rig (runPick forest ⟨0⟩ pick rig).2 ∧
      ∃ picks start, changeSuite ⟨0⟩ Suite.reset rig = (.returned (), start) ∧
        Accounts forest ⟨0⟩ start picks [⟨["when doing five", "should equal 5"], none⟩]
          (runSuite forest ⟨0⟩ rig).2 := by
  intro forest pick rig
  have path : pick.path = ["when doing five", "should equal 5"] := by decide +kernel
  have returned : (runPick forest ⟨0⟩ pick rig).1 = .returned () := by decide +kernel
  have reported : (runSuite forest ⟨0⟩ rig).1 =
      .returned [⟨["when doing five", "should equal 5"], none⟩] := by decide +kernel
  refine ⟨path, ?_, ?_⟩
  · exact (passes_of_returned forest ⟨0⟩ rig _).1 pick (Effect.apply_of_outcome returned)
  · exact (passes_of_returned forest ⟨0⟩ rig _).2 _ (Effect.apply_of_outcome reported)

/-- An expectation that does not hold is skipped in silence: five should equal five, which in
turn should equal six, is handed out as one case, and the case returns. -/
theorem passes_uncovered :
    let forest := #[SpecTree.nestedEntry]
    let pick := firstPick SpecTree.nestedEntry
    let rig := (taken SpecTree.nestedEntry).2
    let ended := runPick forest ⟨0⟩ pick rig
    SpecTree.nestedEntry.Grown ∧
      pick.path = ["when doing five", "should equal 5 should equal 6"] ∧
      ended.1 = .returned () ∧
      ∀ segment, ended.2.bench.history = rig.bench.history ++ segment →
        ¬ SpecTree.nestedEntry.IsCovered [0] segment := by
  intro forest pick rig ended
  have path : pick.path = ["when doing five", "should equal 5 should equal 6"] := by
    decide +kernel
  have returned : ended.1 = .returned () := by decide +kernel
  have skipped : ended.2.bench.history.all (Happening.isApart [0, 0, 0]) = true := by
    decide +kernel
  refine ⟨SpecTree.grown_nestedEntry, path, returned, fun segment grows covered => ?_⟩
  apply not_completes_of_all skipped
  rw [grows]
  exact completes_append.mpr (.inr (covered [0, 0] (List.cons_ne_nil 0 [0]) rfl))

end Rig

end DeferredSpec
