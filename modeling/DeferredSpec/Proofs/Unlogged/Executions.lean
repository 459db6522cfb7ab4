/-
# Executions ignore the log

What the steps of a tree, an assertion engine and a delay do may ignore the log. Then all of
the executing and retrying that is built on them does: on benches that differ in the log at
most it ends in the same way, with the same history, and leaves benches that differ in the log
at most. Trees that handles grow are such if the subject and the engines are.

Retrying needs less than that: two steps are retried alike if they are executed alike and the
ways to them are, whatever relates the two benches, as long as it tells the worlds apart by the
log at most.
-/

import DeferredSpec.Proofs.Chains
import DeferredSpec.Proofs.Echoes
import DeferredSpec.Proofs.Nodes
import DeferredSpec.Proofs.Operations

namespace DeferredSpec

open DeferredSpec.Action

variable {α β : Type}

/-- The worlds differ in the log at most. -/
def World.SameButLog (world other : World) : Prop :=
  ∃ records, other = world.withRecords records

/-- The benches differ in the log at most. -/
def Bench.SameButLog (bench other : Bench) : Prop :=
  ∃ records, other = { bench with world := bench.world.withRecords records }

theorem World.SameButLog.refl (world : World) : world.SameButLog world := ⟨world.records, rfl⟩

theorem Bench.SameButLog.refl (bench : Bench) : bench.SameButLog bench :=
  ⟨bench.world.records, rfl⟩

namespace Action

/-- An action that ignores the log ends alike whatever the log is. -/
theorem IgnoresLog.echoes {action : Action α} (ignores : IgnoresLog action) :
    Effect.Echoes World.SameButLog Eq action action := by
  rintro world _ ⟨records, rfl⟩
  obtain ⟨written, same⟩ := ignores records world
  rw [same]
  exact ⟨.of_eq rfl, ⟨written, rfl⟩⟩

theorem echoes_fail {values : α → β → Prop} (fault : Fault) :
    Effect.Echoes World.SameButLog values (fail fault) (fail fault) :=
  (IgnoresLog.update fun _ _ => rfl).echoes.bind_eq fun error => .raise error

/-- What is written to the log makes no other difference. -/
theorem echoes_log (level : Nat) (source message other : String) :
    Effect.Echoes World.SameButLog Eq (log level source message) (log level source other) := by
  rintro world _ ⟨records, rfl⟩
  exact ⟨.returned rfl, ⟨records.push ⟨level, source, other⟩, rfl⟩⟩

theorem echoes_logComposed (level : Nat) (source : String) (message other : World → Wording) :
    Effect.Echoes World.SameButLog Eq (logComposed level source message)
      (logComposed level source other) := by
  refine .modify ?_
  rintro world _ ⟨records, rfl⟩
  cases message world <;> cases other (world.withRecords records) <;> exact ⟨_, rfl⟩

theorem ignoresLog_log (level : Nat) (source message : String) :
    IgnoresLog (log level source message) :=
  fun records _ => ⟨records.push ⟨level, source, message⟩, rfl⟩

end Action

/-- A relation of benches that steps cannot upset: related benches differ in what a step can see
in the log at most, and the same done to both keeps them related. -/
structure Bench.Concord (states : Bench → Bench → Prop) : Prop where
  world : ∀ {bench other}, states bench other → bench.world.SameButLog other.world
  withWorld : ∀ {bench other} {world later : World}, states bench other →
    world.SameButLog later → states { bench with world := world } { other with world := later }
  delayed : ∀ {bench other}, states bench other →
    states (bench.happened .delayed) (other.happened .delayed)

theorem Bench.concord_sameButLog : Concord SameButLog where
  world := by
    rintro bench _ ⟨records, rfl⟩
    exact ⟨records, rfl⟩
  withWorld := by
    rintro bench _ world _ ⟨_, rfl⟩ ⟨records, rfl⟩
    exact ⟨records, rfl⟩
  delayed := by
    rintro bench _ ⟨records, rfl⟩
    exact ⟨records, rfl⟩

namespace Bench.Concord

variable {states : Bench → Bench → Prop} {values : α → β → Prop}

/-- What ends alike in worlds does so on benches. -/
theorem echoes_ofAction (concord : Concord states) {first : Action α} {second : Action β}
    (echoes : Effect.Echoes World.SameButLog values first second) :
    Effect.Echoes states values (Execution.ofAction first) (Execution.ofAction second) := by
  intro bench other related
  obtain ⟨pairs, left⟩ := echoes bench.world other.world (concord.world related)
  rw [Execution.ofAction_apply, Execution.ofAction_apply]
  exact ⟨pairs, concord.withWorld related left⟩

/-- What is caught of executions that end alike is alike. -/
theorem echoes_capture (concord : Concord states) {first : Execution α} {second : Execution β}
    (echoes : Effect.Echoes states values first second) :
    Effect.Echoes states (Outcome.Pairs values) first.capture second.capture := by
  refine echoes.attempt.bind fun outcomes => ?_
  cases outcomes with
  | returned alike => exact .pure (.returned alike)
  | raised error =>
      have asked : Effect.Echoes states Eq
          (Effect.read fun bench => bench.world.isOrdinary error)
          (Effect.read fun bench => bench.world.isOrdinary error) := by
        refine .read fun related => ?_
        obtain ⟨records, same⟩ := concord.world related
        rw [same]
        rfl
      refine asked.bind_eq fun isCaught => ?_
      cases isCaught with
      | true => exact .pure (.raised error)
      | false => exact .raise error

theorem echoes_delayed (concord : Concord states) :
    Effect.Echoes states Eq (Effect.modify (Bench.happened .delayed))
      (Effect.modify (Bench.happened .delayed)) := .modify concord.delayed

end Bench.Concord

/-- What ends alike in worlds does so on benches that differ in the log at most. -/
protected theorem Effect.Echoes.ofAction {values : α → β → Prop} {first : Action α}
    {second : Action β} (echoes : Effect.Echoes World.SameButLog values first second) :
    Effect.Echoes Bench.SameButLog values (Execution.ofAction first) (Execution.ofAction second) :=
  Bench.concord_sameButLog.echoes_ofAction echoes

namespace Execution

/-- The execution ends alike on benches that differ in the log at most. -/
def IgnoresLog (execution : Execution α) : Prop :=
  Effect.Echoes Bench.SameButLog Eq execution execution

namespace IgnoresLog

protected theorem pure (value : α) : IgnoresLog (pure value) := Effect.Echoes.pure rfl

protected theorem raise (error : ErrorRef) : IgnoresLog (Effect.raise error : Execution α) :=
  Effect.Echoes.raise error

protected theorem ofAction {action : Action α} (ignores : Action.IgnoresLog action) :
    IgnoresLog (ofAction action) := ignores.echoes.ofAction

protected theorem bind {first : Execution α} {next : α → Execution β}
    (ignores : IgnoresLog first) (further : ∀ value, IgnoresLog (next value)) :
    IgnoresLog (first >>= next) := Effect.Echoes.bind_eq ignores further

protected theorem happened (happening : Happening) :
    IgnoresLog (Effect.modify (Bench.happened happening)) := by
  refine Effect.Echoes.modify ?_
  rintro bench _ ⟨records, rfl⟩
  exact ⟨records, rfl⟩

protected theorem attempt {execution : Execution α} (ignores : IgnoresLog execution) :
    IgnoresLog execution.attempt := (Effect.Echoes.attempt ignores).mono fun pairs => pairs.eq

end IgnoresLog

end Execution

open Execution (IgnoresLog)

namespace Delay

/-- Nothing that a delay does depends on the log. -/
def IsBlind : Delay → Prop
  | .finish => True
  | .act action next => Action.IgnoresLog action ∧ next.IsBlind
  | .look next =>
      (∀ records world, next (world.withRecords records) = next world) ∧
        ∀ world, (next world).IsBlind
  | .callback next => ∀ failure, (next failure).IsBlind

theorem isBlind_propagate {next : Delay} (blind : next.IsBlind) (failure : Option ErrorRef) :
    (propagate next failure).IsBlind := by
  cases failure with
  | none => exact blind
  | some error => exact ⟨.raise error, trivial⟩

theorem isBlind_immediate : immediate.IsBlind :=
  fun failure => isBlind_propagate (show finish.IsBlind from trivial) failure

theorem isBlind_sleep (seconds : Binary64) : (sleep seconds).IsBlind :=
  ⟨IgnoresLog.modify fun _ _ => rfl, isBlind_immediate⟩

/-- A blind delay around retries that end alike goes alike, and so does what it comes to. -/
theorem echoes_perform {states : Bench → Bench → Prop} (concord : Bench.Concord states)
    {values : α → β → Prop} {first : Execution α} {second : Execution β}
    (echoes : Effect.Echoes states values first second) :
    ∀ (delay : Delay) {latest : Option α} {other : Option β}, delay.IsBlind →
      Option.Rel values latest other →
      Effect.Echoes states (Option.Rel values) (delay.perform first latest)
        (delay.perform second other)
  | .finish, _, _, _, related => .pure related
  | .act _ next, _, _, ⟨acts, blind⟩, related =>
      (concord.echoes_ofAction acts.echoes).bind_eq fun _ =>
        echoes_perform concord echoes next blind related
  | .look next, _, _, ⟨same, blind⟩, related => by
      intro bench twin met
      obtain ⟨records, found⟩ := concord.world met
      have onward := echoes_perform concord echoes (next bench.world) (blind bench.world) related
      have chosen : next twin.world = next bench.world := by rw [found, same]
      rw [perform, perform]
      simp only [chosen]
      exact onward bench twin met
  | .callback next, _, _, blind, related => by
      rw [perform, perform]
      refine echoes.attempt.bind fun outcomes => ?_
      cases outcomes with
      | returned alike =>
          exact echoes_perform concord echoes (next none) (blind none) (.some alike)
      | raised error =>
          exact echoes_perform concord echoes (next (some error)) (blind (some error)) related

end Delay

/-- Whatever it was called with, the step of a node ignores the log. -/
def ActionNode.IsBlind (node : ActionNode) : Prop :=
  ∀ arguments previous, Action.IgnoresLog (node.step arguments previous)

namespace SpecTree

/-- Nothing that is executed for a tree depends on the log: the tree is complete, has no
listeners, and its steps ignore the log. -/
structure IsBlind (tree : SpecTree) : Prop where
  complete : tree.losses = []
  unheard : tree.listeners = {}
  steps : ∀ address node, tree.root.nodeAt? address = some node → node.IsBlind

variable {tree : SpecTree}

theorem IsBlind.ignoresLog_execute (blind : tree.IsBlind) (address : Address) {node : ActionNode}
    (step : node.IsBlind) (previous : Value) : IgnoresLog (tree.execute address node previous) := by
  have carried : IgnoresLog (tree.carryOut address node previous) := by
    rw [carryOut, require_of_losses_eq_nil blind.complete, blind.unheard]
    refine (Execution.IgnoresLog.pure ()).bind fun _ => ?_
    refine (Execution.IgnoresLog.pure ()).bind fun _ => ?_
    exact (Execution.IgnoresLog.ofAction (step _ previous)).bind fun result =>
      (Execution.IgnoresLog.pure ()).bind fun _ => .pure result
  exact carried.attempt.bind fun outcome => (Execution.IgnoresLog.happened _).bind fun _ =>
    Effect.Echoes.ofOutcome (.of_eq rfl)

theorem IsBlind.ignoresLog_executeAlong (blind : tree.IsBlind)
    (trail : List (Address × ActionNode)) (steps : ∀ entry ∈ trail, entry.2.IsBlind)
    (previous : Value) : IgnoresLog (tree.executeAlong trail previous) := by
  induction trail generalizing previous with
  | nil => exact .pure previous
  | cons entry rest ih =>
      rw [List.forall_mem_cons] at steps
      exact (blind.ignoresLog_execute entry.1 steps.1 previous).bind fun result =>
        ih steps.2 result

/-- Executing the way from the root to a node ignores the log. -/
theorem IsBlind.ignoresLog_rerun (blind : tree.IsBlind) {address : Address}
    (there : (tree.root.nodeAt? address).isSome) : IgnoresLog (tree.rerun address) := by
  refine blind.ignoresLog_executeAlong _ (fun entry onWay => ?_) .null
  rw [trail_of_losses_eq_nil blind.complete] at onWay
  exact blind.steps _ _ (ActionTree.nodeAt?_of_mem_trail there onWay)

end SpecTree

namespace RetryEngine

variable {engine : RetryEngine} {tree other : SpecTree} {address place : Address}

theorem ignoresLog_ask (error : ErrorRef) : Action.IgnoresLog (FailureKind.ask error) :=
  .read fun _ _ => rfl

theorem ignoresLog_keepCause (error cause : ErrorRef) :
    Action.IgnoresLog (keepCause error cause) := by
  refine (Action.IgnoresLog.read fun _ _ => rfl).bind fun cell => ?_
  cases cell.cause with
  | some _ => exact .pure ()
  | none => exact .modify fun _ _ => rfl

theorem ignoresLog_mayRetry (complete : tree.losses = []) (error : ErrorRef) :
    Action.IgnoresLog (engine.mayRetry tree address error) := by
  refine (ignoresLog_ask error).bind fun kind => ?_
  cases kind with
  | other => exact .pure false
  | assertion =>
      rw [askEventual, SpecTree.require_of_losses_eq_nil complete]
      exact (Action.IgnoresLog.pure ()).bind fun _ => .pure _

/-- Retries are asked for by whether they are wanted where a step is. -/
theorem mayRetry_congr (complete : tree.losses = []) (still : other.losses = [])
    (eventual : engine.isEventual other place = engine.isEventual tree address)
    (error : ErrorRef) :
    engine.mayRetry other place error = engine.mayRetry tree address error := by
  have asked : engine.askEventual other place = engine.askEventual tree address := by
    rw [askEventual, askEventual, SpecTree.require_of_losses_eq_nil complete,
      SpecTree.require_of_losses_eq_nil still, eventual]
  rw [mayRetry, mayRetry]
  simp only [asked]

section Echoes

variable {states : Bench → Bench → Prop} (concord : Bench.Concord states)
  {values : Value → Value → Prop} (delay : engine.delay.IsBlind)
  (retraced : Effect.Echoes states values (tree.rerun address) (other.rerun place))
include concord

theorem echoes_finish {outcome conclusion : Outcome Value}
    (pairs : outcome.Pairs values conclusion) :
    Effect.Echoes states values (finish outcome) (finish conclusion) := by
  cases pairs with
  | returned alike => exact .pure alike
  | raised error =>
      exact (concord.echoes_ofAction (SpecError.ignoresLog_reformatted error).echoes).bind_eq
        fun final => .raise final

theorem echoes_logInfo (message twin : String) :
    Effect.Echoes states Eq (logInfo message) (logInfo twin) :=
  concord.echoes_ofAction (echoes_log _ _ _ _)

include delay retraced

theorem echoes_attemptRetry :
    Effect.Echoes states values (engine.attemptRetry tree address)
      (engine.attemptRetry other place) := by
  refine concord.echoes_delayed.bind_eq fun _ => ?_
  refine (Delay.echoes_perform concord retraced _ delay .none).bind fun latest => ?_
  cases latest with
  | none => exact concord.echoes_ofAction (echoes_fail .noCallbackRun)
  | some alike => exact .pure alike

theorem echoes_retryFrom (node : ActionNode) :
    ∀ (remaining number : Nat) {latest last : Outcome Value}, latest.Pairs values last →
      Effect.Echoes states (Outcome.Pairs values)
        (engine.retryFrom tree address node remaining number latest)
        (engine.retryFrom other place node remaining number last)
  | 0, _, _, _, pairs => .pure pairs
  | remaining + 1, number, _, _, _ => by
      refine (echoes_logInfo concord _ _).bind_eq fun _ => ?_
      refine (concord.echoes_capture (echoes_attemptRetry concord delay retraced)).bind
        fun outcomes => ?_
      cases outcomes with
      | returned alike =>
          exact (concord.echoes_ofAction node.ignoresLog_labelText.echoes).bind_eq fun _ =>
            (echoes_logInfo concord _ _).bind_eq fun _ => .pure (.returned alike)
      | raised error =>
          refine (concord.echoes_ofAction (ignoresLog_ask error).echoes).bind_eq fun kind => ?_
          cases kind with
          | other => exact (echoes_logInfo concord _ _).bind_eq fun _ => .pure (.raised error)
          | assertion => exact echoes_retryFrom node remaining (number + 1) (.raised error)

/-- Steps that are executed alike are executed and retried alike, if the ways to them are and
retries are wanted for both or for neither. -/
theorem echoes_run (complete : tree.losses = []) (still : other.losses = [])
    (eventual : engine.isEventual other place = engine.isEventual tree address)
    {node : ActionNode} {previous given : Value}
    (executed : Effect.Echoes states values (tree.execute address node previous)
      (other.execute place node given)) :
    Effect.Echoes states values (engine.run tree address node previous)
      (engine.run other place node given) := by
  refine (concord.echoes_capture executed).bind fun outcomes => ?_
  cases outcomes with
  | returned alike => exact .pure alike
  | raised first =>
      dsimp only
      rw [mayRetry_congr complete still eventual]
      refine (concord.echoes_ofAction (ignoresLog_mayRetry complete first).echoes).bind_eq
        fun retries => ?_
      cases retries with
      | false => exact echoes_finish concord (.raised first)
      | true =>
          refine (echoes_retryFrom concord delay retraced node _ _ (.raised first)).bind
            fun last => ?_
          cases last with
          | returned alike => exact .pure alike
          | raised error =>
              refine (concord.echoes_ofAction (ignoresLog_ask error).echoes).bind_eq
                fun kind => ?_
              cases kind with
              | assertion => exact echoes_finish concord (.raised error)
              | other =>
                  exact (concord.echoes_ofAction (ignoresLog_keepCause error first).echoes).bind_eq
                    fun _ => .raise error

end Echoes

/-- To execute a step of a blind tree, and to retry it with a blind delay, ignores the log. -/
theorem ignoresLog_run (blind : tree.IsBlind) (delay : engine.delay.IsBlind) {node : ActionNode}
    (known : tree.root.nodeAt? address = some node) (previous : Value) :
    IgnoresLog (engine.run tree address node previous) := by
  have there : (tree.root.nodeAt? address).isSome := Option.isSome_of_eq_some known
  exact echoes_run Bench.concord_sameButLog delay (blind.ignoresLog_rerun there) blind.complete
    blind.complete rfl (blind.ignoresLog_execute address (blind.steps address node known) previous)

end RetryEngine

/-- Neither opening a chain nor looking a member up depends on the log. -/
structure AssertionEngine.IsBlind (engine : AssertionEngine) : Prop where
  expect : ∀ subject, Action.IgnoresLog (engine.expect subject)
  lookUp : ∀ context name kind, Action.IgnoresLog (engine.lookUp context name kind)

/-- The engine that an operation names a member with is blind. -/
def HandleOperation.IsBlind : HandleOperation → Prop
  | .member engine _ _ => engine.IsBlind
  | .call _ _ => True

section Objects

variable [ObjectModel] [ObjectModel.IsBlind]

omit [ObjectModel] [ObjectModel.IsBlind] in
theorem SpecError.ignoresLog_missingMember (owner member kind reason : Value) :
    Action.IgnoresLog (missingMember owner member kind reason) :=
  ((CaseForm.ignoresLog_apply .capitalized kind).bind fun kind =>
    (ignoresLog_plain kind).bind fun _ => (ignoresLog_plain member).bind fun _ =>
      (ignoresLog_plain reason).bind fun _ => (ignoresLog_typeName owner).bind fun _ =>
        (ignoresLog_render owner).bind fun _ => .pure _).bind
    fun message => ignoresLog_make _ (.text message)

theorem AssertionEngine.ignoresLog_checkedMember (owner name : Value) (kind : MemberKind) :
    Action.IgnoresLog (checkedMember owner name kind) := by
  have named : Action.IgnoresLog (owner.memberNamed name) := by
    unfold Value.memberNamed
    split
    · exact owner.ignoresLog_member _
    · exact (ignoresLog_typeName _).bind fun kind => ignoresLog_fail _
  refine named.attempt.bind fun outcome => ?_
  cases outcome with
  | returned member =>
      dsimp only
      cases kindFault? kind member with
      | none => exact .pure member
      | some reason =>
          exact (SpecError.ignoresLog_missingMember _ _ _ _).bind fun error => .raise error
  | raised cause =>
      refine (Action.IgnoresLog.read fun _ _ => rfl).bind fun cell => ?_
      split
      · exact .raise cause
      · refine .ite ?_ (.raise cause)
        exact (SpecError.ignoresLog_missingMember _ _ _ _).bind fun error =>
          (Action.IgnoresLog.modify fun _ _ => rfl).bind fun _ => .raise error

/-- The standard engine is blind. -/
theorem AssertionEngine.isBlind_standard : standard.IsBlind where
  expect _ := ignoresLog_newIdentity.bind fun _ => .pure _
  lookUp := ignoresLog_checkedMember

theorem AssertionEngine.IsBlind.ignoresLog_invoke {engine : AssertionEngine}
    (blind : engine.IsBlind) (context name : Value) (arguments : Option (List Value)) :
    Action.IgnoresLog (engine.invoke context name arguments) := by
  cases arguments with
  | none => exact blind.lookUp context name .property
  | some arguments =>
      refine (Link.ignoresLog_invocationMessage context name arguments).bind fun message => ?_
      exact (ignoresLog_log _ _ _).bind fun _ => (blind.lookUp context name .function).bind
        fun function => function.ignoresLog_call arguments

namespace SpecTree

variable {tree : SpecTree}

/-- What naming a member adds is as blind as the engine. -/
theorem isBlind_memberNode {engine : AssertionEngine} (blind : engine.IsBlind) (parent : Address)
    (name : Value) : (tree.memberNode engine parent name).IsBlind := by
  intro arguments previous
  cases entry : isEntry name with
  | true =>
      rw [memberNode_of_isEntry tree engine parent entry]
      exact blind.expect previous
  | false =>
      rw [memberNode_of_not_isEntry tree engine parent entry]
      exact blind.ignoresLog_invoke previous name arguments

omit [ObjectModel.IsBlind] in
/-- What holds of all nodes, of the one that is named and still of a node that is called holds
of all nodes after an operation. -/
theorem forall_nodeAt?_next {holds : ActionNode → Prop}
    (all : ∀ address node, tree.root.nodeAt? address = some node → holds node)
    {operation : HandleOperation}
    (named : ∀ engine parent name, operation = .member engine parent name →
      holds (tree.memberNode engine parent (.text name)))
    (called : ∀ node arguments, holds node → holds { node with arguments := some arguments }) :
    ∀ address node, (tree.next operation).root.nodeAt? address = some node → holds node := by
  intro other node known
  cases operation with
  | member engine parent name =>
      rw [SpecTree.next] at known
      cases located : tree.root.subtree? parent with
      | none =>
          rw [ActionTree.attach, ActionTree.modifyAt_of_absent located] at known
          exact all other node known
      | some found =>
          have there : (tree.root.nodeAt? parent).isSome :=
            Option.isSome_of_eq_some (ActionTree.nodeAt?_of_subtree? located)
          rw [ActionTree.nodeAt?_attach there] at known
          split at known
          · cases known
            exact named engine parent name rfl
          · exact all other node known
  | call address arguments =>
      rw [SpecTree.next] at known
      cases located : tree.root.subtree? address with
      | none =>
          rw [located] at known
          exact all other node known
      | some found =>
          rw [located] at known
          have here := ActionTree.nodeAt?_of_subtree? located
          dsimp only at known
          split at known
          · exact all other node known
          · rw [ActionTree.nodeAt?_setNode (Option.isSome_of_eq_some here)] at known
            split at known
            · cases known
              exact called found.here arguments (all address found.here here)
            · exact all other node known

omit [ObjectModel.IsBlind] in
/-- Operations subscribe no listeners. -/
theorem next_listeners (operation : HandleOperation) :
    (tree.next operation).listeners = tree.listeners := by
  cases operation with
  | member => rfl
  | call =>
      rw [SpecTree.next]
      split
      · rfl
      · split <;> rfl

/-- Operations keep a tree blind if their engines are. -/
theorem IsBlind.next (blind : tree.IsBlind) {operation : HandleOperation}
    (engine : operation.IsBlind) : (tree.next operation).IsBlind where
  complete := (next_losses operation).trans blind.complete
  unheard := (next_listeners operation).trans blind.unheard
  steps := by
    refine forall_nodeAt?_next blind.steps (fun engine' parent name member => ?_) ?_
    · subst member
      exact isBlind_memberNode engine parent (.text name)
    · exact fun node _ step arguments previous => step arguments previous

omit [ObjectModel] [ObjectModel.IsBlind] in
/-- A subject is as blind as what makes it. -/
theorem isBlind_subject (description : String) {factory : Action Value}
    (blind : Action.IgnoresLog factory) :
    ({ subject description factory with listeners := {} } : SpecTree).IsBlind := by
  refine ⟨rfl, rfl, fun address node known => ?_⟩
  cases address with
  | nil =>
      cases known
      exact fun _ _ => blind
  | cons index rest => cases known

theorem isBlind_foldl_next (blind : tree.IsBlind) {operations : List HandleOperation}
    (engines : ∀ operation ∈ operations, operation.IsBlind) :
    (operations.foldl SpecTree.next tree).IsBlind := by
  induction operations generalizing tree with
  | nil => exact blind
  | cons operation rest ih =>
      rw [List.forall_mem_cons] at engines
      exact ih (blind.next engines.1) engines.2

end SpecTree

end Objects

end DeferredSpec
