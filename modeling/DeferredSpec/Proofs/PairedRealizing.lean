/-
# Realizing a tree and its promoted form

To realize a tree with an engine that retries by default and to realize its promoted form with
one that does not comes to the same: wherever a step may be retried in one of the two it may be
in the other, so that everything is executed in the same order with the same results, and what
is registered is paired. A step right below a subject that is taken for an entry is never
executed, since the subject has not been when the step is realized.
-/

import DeferredSpec.Proofs.Pairings
import DeferredSpec.Proofs.Plans

namespace DeferredSpec

open Effect (Echoes)

/-! ### Titles -/

/-- A part of a title, before it is known to be a text, and what stands in its place. -/
inductive IsPromotedChunk : Value → Value → Prop
  | described (description : Value) : IsPromotedChunk description (promotedName description)
  | shown (arguments : String) : IsPromotedChunk (.text arguments) (.text arguments)

theorem ActionNode.echoes_titleChunks (node : ActionNode) :
    Echoes World.SameButLog (List.Forall₂ IsPromotedChunk) (titleChunks node)
      (titleChunks node.promoted) := by
  rw [titleChunks, titleChunks, promoted_arguments]
  split
  · exact .pure (.cons (.described node.description) .nil)
  · exact .pure (.cons (.described node.description) .nil)
  · exact (Action.ignoresLog_renderAll _).echoes.bind_eq fun rendered =>
      .pure (.cons (.described node.description) (.cons (.shown rendered) .nil))

/-- The parts of a title are texts just if those in their places are. -/
theorem echoes_textsFrom {chunks others : List Value}
    (promoted : List.Forall₂ IsPromotedChunk chunks others) (next : Nat) :
    Echoes World.SameButLog (List.Forall₂ IsPromotedWord) (textsFrom next chunks)
      (textsFrom next others) := by
  induction promoted generalizing next with
  | nil => exact .pure .nil
  | @cons chunk _ _ _ head _ ih =>
      cases head with
      | shown arguments =>
          exact (ih (next + 1)).bind fun texts => .pure (.cons (.shown arguments) texts)
      | described =>
          cases chunk with
          | text word =>
              exact (ih (next + 1)).bind fun texts => .pure (.cons (.described word) texts)
          | _ =>
              exact (Action.ignoresLog_typeName _).echoes.bind_eq fun kind =>
                Action.echoes_fail _

namespace SpecTree

variable {tree : SpecTree}

theorem echoes_chainChunks (complete : tree.losses = []) (found : ActionTree)
    (address : Address) :
    Echoes World.SameButLog (List.Forall₂ IsPromotedChunk) (tree.chainChunks address found)
      (tree.promoted.chainChunks address found.promoted) := by
  have still : tree.promoted.losses = [] := complete
  obtain ⟨here, children⟩ := found
  rw [ActionTree.promoted_node, chainChunks_node, chainChunks_node,
    require_of_losses_eq_nil complete, require_of_losses_eq_nil still]
  refine here.echoes_titleChunks.bind fun own => Echoes.bind_eq (.pure rfl) fun _ => ?_
  rcases children with _ | ⟨child, _ | ⟨other, rest⟩⟩
  · exact .pure own
  · exact (echoes_chainChunks complete child (address ++ [0])).bind fun rest =>
      .pure (List.rel_append own rest)
  · exact .pure own

/-- The titles of a case and of the promoted case differ in promoted words at most. -/
theorem echoes_caseTitle (complete : tree.losses = []) (address : Address) (found : ActionTree) :
    Echoes World.SameButLog IsPromotedTitle (tree.caseTitle address found)
      (tree.promoted.caseTitle address found.promoted) :=
  (echoes_chainChunks complete found address).bind fun chunks =>
    (echoes_textsFrom chunks 0).bind fun {_ _} words => .pure ⟨_, _, words, rfl, rfl⟩

/-! ### Executions -/

/-- A promoted node is executed as the node is. -/
theorem execute_promoted (complete : tree.losses = []) (unheard : tree.listeners = {})
    (address : Address) {node twin : ActionNode} (step : twin.step = node.step)
    (arguments : twin.arguments = node.arguments) (previous : Value) :
    tree.promoted.execute address twin previous = tree.execute address node previous := by
  have still : tree.promoted.losses = [] := complete
  have silent : tree.promoted.listeners = {} := unheard
  funext bench
  rw [execute_unheard complete unheard, execute_unheard still silent, step, arguments]

theorem executeAlong_promoted (complete : tree.losses = []) (unheard : tree.listeners = {})
    (entries : List (Address × ActionNode)) (previous : Value) :
    tree.promoted.executeAlong (entries.map fun entry => (entry.1, entry.2.promoted)) previous =
      tree.executeAlong entries previous := by
  induction entries generalizing previous with
  | nil => rfl
  | cons entry rest ih =>
      rw [List.map_cons, executeAlong, executeAlong,
        execute_promoted complete unheard entry.1 entry.2.promoted_step
          entry.2.promoted_arguments]
      exact congrArg _ (funext ih)

/-- The way from the root is executed alike in both trees. -/
theorem rerun_promoted (complete : tree.losses = []) (unheard : tree.listeners = {})
    (address : Address) : tree.promoted.rerun address = tree.rerun address := by
  have still : tree.promoted.losses = [] := complete
  rw [rerun, rerun, trail_of_losses_eq_nil complete, trail_of_losses_eq_nil still,
    tree.root.trail_eq_cons address, promoted, ActionTree.trail_promotedBelow]
  exact congrArg _ (funext (executeAlong_promoted complete unheard _))

end SpecTree

namespace Pairing

variable {pairing : Pairing}

theorem Settled.append {address : Address} (settled : pairing.Settled address) (rest : Address) :
    pairing.Settled (address ++ rest) := fun first => (settled first).append rest

/-- Whether a failure may be retried is answered alike for both trees. -/
theorem Settled.askEventual_promoted {address : Address} (settled : pairing.Settled address)
    (complete : pairing.whole.losses = []) :
    pairing.patient.engine.askEventual pairing.whole.promoted address =
      pairing.eager.engine.askEventual pairing.whole address := by
  have still : pairing.whole.promoted.losses = [] := complete
  rw [RetryEngine.askEventual, RetryEngine.askEventual,
    SpecTree.require_of_losses_eq_nil complete, SpecTree.require_of_losses_eq_nil still]
  exact congrArg (fun flag => pure () >>= fun _ => pure flag)
    (SpecTree.isEventual_promoted complete pairing.budget pairing.delay settled)

/-- To retry does not depend on what retries by default. -/
theorem retryFrom_promoted (complete : pairing.whole.losses = [])
    (unheard : pairing.whole.listeners = {}) (address : Address) (node : ActionNode)
    (remaining number : Nat) (latest : Outcome Value) :
    pairing.patient.engine.retryFrom pairing.whole.promoted address node remaining number latest =
      pairing.eager.engine.retryFrom pairing.whole address node remaining number latest := by
  have attempted : pairing.patient.engine.attemptRetry pairing.whole.promoted address =
      pairing.eager.engine.attemptRetry pairing.whole address := by
    rw [RetryEngine.attemptRetry, RetryEngine.attemptRetry,
      SpecTree.rerun_promoted complete unheard]
    rfl
  induction remaining generalizing number latest with
  | zero => rfl
  | succ remaining ih =>
      rw [RetryEngine.retryFrom, RetryEngine.retryFrom, attempted]
      simp only [ih]
      rfl

/-- A step of a chain is executed and retried alike in both trees. -/
theorem Settled.run_promoted {address : Address} (settled : pairing.Settled address)
    (complete : pairing.whole.losses = []) (unheard : pairing.whole.listeners = {})
    (node : ActionNode) :
    pairing.patient.engine.run pairing.whole.promoted address node =
      pairing.eager.engine.run pairing.whole address node := by
  funext previous
  rw [RetryEngine.run, RetryEngine.run, SpecTree.execute_promoted complete unheard address
    (rfl : node.step = node.step) rfl previous]
  simp only [RetryEngine.mayRetry, settled.askEventual_promoted complete,
    retryFrom_promoted complete unheard]
  rfl

variable (pairing) in
/-- The tree has grown from a subject, and nothing that runs for it looks at the log. -/
structure IsBlind : Prop where
  regular : pairing.whole.IsRegular
  tree : pairing.whole.IsBlind
  delay : pairing.delay.IsBlind

namespace IsBlind

/-- Of the nodes for which retries are settled, none but cases are renamed. -/
theorem promoted_eq (blind : pairing.IsBlind) {address : Address} {found : ActionTree}
    (located : pairing.whole.root.subtree? address = some found)
    (settled : pairing.Settled address) (other : found.here.variant ≠ .leafCase) :
    found.here.promoted = found.here := by
  refine ActionNode.promoted_of_not_isDescribedBy (Bool.eq_false_iff.mpr fun first => ?_)
  by_cases top : address = []
  · subst top
    cases located
    cases settled first
  · obtain ⟨_, _, kinded⟩ := ActionTree.isKinded_of_subtree? blind.regular.kinded top located
    refine other (ActionTree.variant_of_isDescribedBy kinded ?_)
    rw [ActionNode.isDescribedBy_entries, first, Bool.or_true]

mutual

/-- To realize a node and everything below it keeps rigs paired. -/
theorem echoes_realize (blind : pairing.IsBlind) :
    ∀ (found : ActionTree) (address : Address) (source : Source),
    pairing.whole.root.subtree? address = some found → pairing.Settled address →
    source.IsBlind →
    Echoes pairing.Rigs Eq
      (pairing.eager.realize pairing.whole pairing.index address source found)
      (pairing.patient.realize pairing.whole.promoted pairing.index address source found.promoted)
  | .node here children, address, source, located, settled, reading => by
      have complete := blind.tree.complete
      have still : pairing.whole.promoted.losses = [] := complete
      have listed : pairing.whole.root.HasBelow address 0 children :=
        ActionTree.hasBelow_children located
      have below := echoes_realizeAll blind children address 0
      have plain := blind.promoted_eq located settled
      rw [ActionTree.promoted_node, Realizer.realize, Realizer.realize]
      simp only [ActionNode.promoted_variant, SpecTree.require_of_losses_eq_nil complete,
        SpecTree.require_of_losses_eq_nil still, SpecTree.requireChildren_of_losses_eq_nil complete,
        SpecTree.requireChildren_of_losses_eq_nil still, Rig.act_pure, pure_bind]
      cases kind : here.variant with
      | group =>
          have same : here.promoted = here := plain (by rw [ActionTree.here, kind]; decide)
          rw [same]
          refine (echoes_act (ignoresLog_groupTitle here).echoes).bind_eq fun title => ?_
          refine (echoes_act (Action.ignoresLog_log _ _ _).echoes).bind_eq fun _ => ?_
          refine echoes_group (echoes_newCell.bind_eq fun cell => ?_)
          refine (echoes_before (.hook address cell reading)).bind_eq fun _ => ?_
          exact below (.kept cell) listed settled trivial
      | leafCase =>
          have titled := SpecTree.echoes_caseTitle complete address (.node here children)
          rw [ActionTree.promoted_node] at titled
          refine (echoes_act titled).bind fun {title other} promoted => ?_
          refine (echoes_act (Action.echoes_log _ _ _ _)).bind_eq fun _ => ?_
          exact echoes_case promoted (.case settled reading)
      | chainStep =>
          have same : here.promoted = here := plain (by rw [ActionTree.here, kind]; decide)
          have known := ActionTree.nodeAt?_of_subtree? located
          rw [same, settled.run_promoted complete blind.tree.unheard]
          refine (echoes_read reading).bind_eq fun previous => ?_
          have executed : Execution.IgnoresLog
              (pairing.eager.engine.run pairing.whole address here previous) :=
            RetryEngine.ignoresLog_run blind.tree blind.delay known previous
          refine (echoes_execute executed).bind_eq fun result => ?_
          exact below (.ready result) listed settled (Action.IgnoresLog.pure result)

theorem echoes_realizeAll (blind : pairing.IsBlind) :
    ∀ (children : List ActionTree) (parent : Address) (next : Nat) (source : Source),
    pairing.whole.root.HasBelow parent next children → pairing.Settled parent → source.IsBlind →
    Echoes pairing.Rigs Eq
      (pairing.eager.realizeAll pairing.whole pairing.index parent next source children)
      (pairing.patient.realizeAll pairing.whole.promoted pairing.index parent next source
        (children.map ActionTree.promoted))
  | [], _, _, _, _, _, _ => .pure rfl
  | child :: children, parent, next, source, located, settled, reading => by
      rw [List.map_cons, Realizer.realizeAll, Realizer.realizeAll]
      have first := echoes_realize blind child (parent ++ [next]) source located.head
        (settled.append [next]) reading
      exact first.bind_eq fun _ =>
        echoes_realizeAll blind children parent (next + 1) source located.tail settled reading

end

end IsBlind

/-! ### Steps right below the subject -/

/-- A group has not left its result yet. -/
def Unset (cell : CellRef) (rig : Rig Runner) : Prop := (rig.cells[cell.index]?).join = none

theorem read_of_unset {cell : CellRef} {rig : Rig Runner} (unset : Unset cell rig) :
    Rig.read (.kept cell) rig =
      (Rig.act (Action.fail .noResult) : Effect (Rig Runner) Value) rig := by
  rw [Rig.read, Rig.cellValue, Effect.bind_apply, Effect.read_apply]
  rw [Unset] at unset
  simp only [unset]

/-- A result that a group has not left cannot be read. -/
theorem echoes_read_unset (cell : CellRef) :
    Echoes (fun rig twin => pairing.Rigs rig twin ∧ Unset cell rig) (fun _ _ => False)
      (Rig.read (.kept cell)) (Rig.read (.kept cell)) := by
  rintro rig twin ⟨pairs, unset⟩
  have also : Unset cell twin := by
    rw [Unset, pairs.cells]
    exact unset
  rw [read_of_unset unset, read_of_unset also]
  exact (echoes_act (Action.echoes_fail .noResult)).keeping (fun _ held => held) rig twin
    ⟨pairs, unset⟩

/-- Until it is set, a new cell is unset. -/
theorem echoes_newCell_bind {next further : CellRef → Effect (Rig Runner) Unit}
    (after : ∀ cell, Echoes (fun rig twin => pairing.Rigs rig twin ∧ Unset cell rig) Eq (next cell)
      (further cell)) :
    Echoes pairing.Rigs Eq (Rig.newCell >>= next) (Rig.newCell >>= further) := by
  intro rig twin pairs
  obtain ⟨_, left⟩ := echoes_newCell rig twin pairs
  have unset : Unset ⟨rig.cells.size⟩ (Rig.newCell rig).2 := by simp [Unset, Rig.newCell]
  obtain ⟨outcomes, held⟩ := after ⟨rig.cells.size⟩ _ _ ⟨left, unset⟩
  have same : (Rig.newCell >>= further) twin = further ⟨rig.cells.size⟩ (Rig.newCell twin).2 := by
    rw [← pairs.cells]
    rfl
  rw [same]
  exact ⟨outcomes, held.1⟩

theorem cells_bind {α β : Type} {first : Effect (Rig Runner) α}
    {next : α → Effect (Rig Runner) β}
    (keeps : ∀ rig, (first rig).2.cells = rig.cells)
    (further : ∀ value rig, (next value rig).2.cells = rig.cells) (rig : Rig Runner) :
    ((first >>= next) rig).2.cells = rig.cells := by
  have before := keeps rig
  rw [Effect.bind_apply]
  rcases ended : first rig with ⟨outcome, later⟩
  rw [ended] at before
  cases outcome with
  | returned value => exact (further value later).trans before
  | raised error => exact before

/-- To register a case leaves all results as they are. -/
theorem cells_realize_leafCase {realizer : Realizer} {whole : SpecTree}
    (complete : whole.losses = []) {found : ActionTree}
    (isCase : found.here.variant = .leafCase) (index : Nat) (address : Address)
    (source : Source) (rig : Rig Runner) :
    (realizer.realize whole index address source found rig).2.cells = rig.cells := by
  rcases found with ⟨here, children⟩
  have kind : here.variant = .leafCase := isCase
  rw [Realizer.realize, SpecTree.require_of_losses_eq_nil complete, Rig.act_pure, pure_bind]
  simp only [kind]
  exact cells_bind (fun _ => rfl) (fun _ => cells_bind (fun _ => rfl) fun _ =>
    Rig.cells_changeRunner _ _) rig

namespace IsBlind

/-- Below a subject that is taken for an entry there are cases, which are registered, and steps,
which lack the result of the subject. -/
theorem echoes_realizeAll_unset (blind : pairing.IsBlind) (cell : CellRef) :
    ∀ (children : List ActionTree) (next : Nat),
      pairing.whole.root.HasBelow [] next children → (∀ child ∈ children, child.isKinded true) →
      Echoes (fun rig twin => pairing.Rigs rig twin ∧ Unset cell rig) Eq
        (pairing.eager.realizeAll pairing.whole pairing.index [] next (.kept cell) children)
        (pairing.patient.realizeAll pairing.whole.promoted pairing.index [] next (.kept cell)
          (children.map ActionTree.promoted))
  | [], _, _, _ => .pure rfl
  | child :: children, next, located, kinded => by
      have complete := blind.tree.complete
      have still : pairing.whole.promoted.losses = [] := complete
      rw [List.forall_mem_cons] at kinded
      rw [List.map_cons, Realizer.realizeAll, Realizer.realizeAll]
      have first : Echoes (fun rig twin => pairing.Rigs rig twin ∧ Unset cell rig) Eq
          (pairing.eager.realize pairing.whole pairing.index [next] (.kept cell) child)
          (pairing.patient.realize pairing.whole.promoted pairing.index [next] (.kept cell)
            child.promoted) := by
        by_cases entry : child.here.isDescribedBy assertionEntries
        · have isCase := ActionTree.variant_of_isDescribedBy kinded.1 entry
          have asserted := SpecTree.isAsserted_of_isDescribedBy (List.cons_ne_nil next [])
            located.head entry
          refine (blind.echoes_realize child [next] (.kept cell) located.head
            (fun _ => asserted) trivial).keeping fun rig unset => ?_
          rw [Unset, cells_realize_leafCase complete isCase]
          exact unset
        · have isStep := (ActionTree.isKinded_iff.mp kinded.1).1
          rw [ActionTree.kindOf, if_neg entry, if_pos rfl] at isStep
          rcases child with ⟨here, below⟩
          have kind : here.variant = .chainStep := isStep
          rw [ActionTree.promoted_node, Realizer.realize, Realizer.realize,
            SpecTree.require_of_losses_eq_nil complete, SpecTree.require_of_losses_eq_nil still]
          simp only [ActionNode.promoted_variant, kind, Rig.act_pure, pure_bind]
          exact (echoes_read_unset cell).bind fun impossible => impossible.elim
      exact first.bind_eq fun _ =>
        echoes_realizeAll_unset blind cell children (next + 1) located.tail kinded.2

/-- To realize a whole tree keeps rigs paired. -/
theorem echoes_realizeRoot (blind : pairing.IsBlind) :
    Echoes pairing.Rigs Eq (pairing.eager.realizeRoot pairing.whole pairing.index)
      (pairing.patient.realizeRoot pairing.whole.promoted pairing.index) := by
  have complete := blind.tree.complete
  have still : pairing.whole.promoted.losses = [] := complete
  rw [Realizer.realizeRoot, Realizer.realizeRoot]
  cases first : pairing.whole.root.here.isDescribedBy [should] with
  | false =>
      have same := ActionNode.promoted_of_not_isDescribedBy first
      have root : pairing.whole.promoted.root = pairing.whole.root.promoted :=
        ActionTree.promotedBelow_eq_promoted same
      rw [root]
      refine blind.echoes_realize pairing.whole.root [] .nothing rfl (fun described => ?_)
        (Action.IgnoresLog.pure _)
      rw [first] at described
      cases described
  | true =>
      have isGroup := blind.regular.root
      have kinded := blind.regular.kinded
      have root : pairing.whole.promoted.root = pairing.whole.root.promotedBelow := rfl
      have listed : pairing.whole.root.HasBelow [] 0 pairing.whole.root.children :=
        ActionTree.hasBelow_children rfl
      rw [ActionTree.isKindedBelow, ActionNode.isDescribedBy_entries, first, Bool.or_true,
        Bool.or_true, ActionTree.areKinded_iff] at kinded
      rw [root]
      have content := fun cell => blind.echoes_realizeAll_unset cell pairing.whole.root.children 0
        listed kinded
      rcases shape : pairing.whole.root with ⟨here, children⟩
      rw [shape] at isGroup content
      have kind : here.variant = .group := isGroup
      rw [ActionTree.promotedBelow, Realizer.realize, Realizer.realize,
        SpecTree.require_of_losses_eq_nil complete, SpecTree.require_of_losses_eq_nil still]
      simp only [ActionTree.here, ActionTree.children, kind, Rig.act_pure, pure_bind,
        SpecTree.requireChildren_of_losses_eq_nil complete,
        SpecTree.requireChildren_of_losses_eq_nil still]
      refine (echoes_act (ignoresLog_groupTitle here).echoes).bind_eq fun title => ?_
      refine (echoes_act (Action.ignoresLog_log _ _ _).echoes).bind_eq fun _ => ?_
      refine echoes_group (echoes_newCell_bind fun cell => ?_)
      refine Echoes.bind_eq ((echoes_before (.hook [] cell ?_)).keeping fun rig unset => ?_)
        fun _ => content cell
      · exact Action.IgnoresLog.pure _
      · rw [Unset, Rig.before, Rig.cells_changeRunner]
        exact unset

end IsBlind

end Pairing

end DeferredSpec
