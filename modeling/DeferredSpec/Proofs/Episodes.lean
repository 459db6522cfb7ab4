/-
# The executions of a run

Whatever is done with trees, their nodes are executed one after the other: an execution has
ended before the next one begins, also where a step is retried, and between two executions no
stopwatch is touched. So what is done to a bench unfolds into episodes, each of them one
execution that begins on the bench it finds. All that follows here is what this means, and that
it holds of whatever is done with realized trees, for any steps, delays and bodies.
-/

import DeferredSpec.Proofs.Composition
import DeferredSpec.Proofs.Histories
import DeferredSpec.Proofs.Ledger
import DeferredSpec.Proofs.Plans

namespace DeferredSpec

/-- An execution of a node of one of the trees against a previous result, with the bench on
which it begins. -/
structure Episode where
  place : Nat
  whole : SpecTree
  address : Address
  node : ActionNode
  previous : Value
  start : Bench

namespace Episode

/-- How the execution ends. -/
def outcome (episode : Episode) : Outcome Value :=
  (episode.whole.execute episode.address episode.node episode.previous episode.start).1

/-- The bench that the execution leaves. -/
def finish (episode : Episode) : Bench :=
  (episode.whole.execute episode.address episode.node episode.previous episode.start).2

/-- What goes down in the history. -/
def happening (episode : Episode) : Happening :=
  .executed episode.address episode.previous episode.outcome

end Episode

/-- Whether a node was executed. -/
def Happening.isExecution : Happening → Bool
  | .executed .. => true
  | .delayed => false

namespace Bench

/-- The executions in the history. -/
def executions (bench : Bench) : List Happening :=
  bench.history.toList.filter Happening.isExecution

/-- From one bench to the other nothing was executed and no stopwatch was touched, whatever was
done to the world. -/
structure Rests (before after : Bench) : Prop where
  watches : after.watches = before.watches
  executions : after.executions = before.executions

protected theorem Rests.refl (bench : Bench) : bench.Rests bench := ⟨rfl, rfl⟩

protected theorem Rests.trans {first second third : Bench} (early : first.Rests second)
    (late : second.Rests third) : first.Rests third :=
  ⟨late.watches.trans early.watches, late.executions.trans early.executions⟩

theorem executions_happened (bench : Bench) (happening : Happening) :
    (bench.happened happening).executions =
      bench.executions ++ [happening].filter Happening.isExecution := by
  simp [executions, happened]

/-- From one bench to the other just these executions were made, in this order. -/
inductive Unfolds (forest : Array SpecTree) : Bench → List Episode → Bench → Prop
  | rest {before after : Bench} (rests : before.Rests after) : Unfolds forest before [] after
  | next {before after : Bench} {episode : Episode} {further : List Episode}
      (rests : before.Rests episode.start)
      (planted : forest[episode.place]? = some episode.whole)
      (onward : Unfolds forest episode.finish further after) :
      Unfolds forest before (episode :: further) after

namespace Unfolds

variable {forest : Array SpecTree} {first second third : Bench} {early late : List Episode}

theorem after_rest (rests : first.Rests second) (unfolds : Unfolds forest second late third) :
    Unfolds forest first late third := by
  cases unfolds with
  | rest further => exact .rest (rests.trans further)
  | next further planted onward => exact .next (rests.trans further) planted onward

protected theorem append (begun : Unfolds forest first early second)
    (onward : Unfolds forest second late third) : Unfolds forest first (early ++ late) third := by
  induction begun with
  | rest rests => exact onward.after_rest rests
  | next rests planted _ ih => exact .next rests planted (ih onward)

/-- The executions that a bench unfolds into are those that went down in the history. -/
theorem executions_eq (unfolds : Unfolds forest first early second) :
    second.executions = first.executions ++ early.map Episode.happening := by
  induction unfolds with
  | rest rests => rw [rests.executions, List.map_nil, List.append_nil]
  | @next before after episode further rests planted onward ih =>
      have here : episode.finish.executions = episode.start.executions ++ [episode.happening] := by
        rw [Episode.finish, executions, SpecTree.execute_history]
        simp [executions, Episode.happening, Episode.outcome, Happening.isExecution]
      rw [ih, here, rests.executions, List.map_cons, List.append_assoc]
      rfl

end Unfolds

end Bench

/-- A state that holds a bench. -/
class OnBench (σ : Type) where
  bench : σ → Bench

instance : OnBench Bench := ⟨id⟩

instance {ρ : Type} : OnBench (Rig ρ) := ⟨Rig.bench⟩

/-- However an effect ends, what it does to the bench unfolds into executions of nodes of the
trees. -/
def Effect.Unfolds {σ α : Type} [OnBench σ] (forest : Array SpecTree) (effect : Effect σ α) :
    Prop :=
  ∀ state, ∃ episodes,
    Bench.Unfolds forest (OnBench.bench state) episodes (OnBench.bench (effect state).2)

namespace Effect.Unfolds

variable {σ α β : Type} [OnBench σ] {forest : Array SpecTree}

theorem of_rests {effect : Effect σ α}
    (rests : ∀ state, (OnBench.bench state).Rests (OnBench.bench (effect state).2)) :
    effect.Unfolds forest := fun state => ⟨[], .rest (rests state)⟩

/-- What leaves the bench as it is executes nothing. -/
theorem of_bench_eq {effect : Effect σ α}
    (same : ∀ state, OnBench.bench (effect state).2 = OnBench.bench state) :
    effect.Unfolds forest :=
  of_rests fun state => by rw [same]; exact .refl _

protected theorem pure (value : α) : (pure value : Effect σ α).Unfolds forest :=
  of_bench_eq fun _ => rfl

protected theorem raise (error : ErrorRef) : (Effect.raise error : Effect σ α).Unfolds forest :=
  of_bench_eq fun _ => rfl

protected theorem bind {first : Effect σ α} {next : α → Effect σ β} (unfolds : first.Unfolds forest)
    (further : ∀ value, (next value).Unfolds forest) : (first >>= next).Unfolds forest := by
  intro state
  obtain ⟨early, begun⟩ := unfolds state
  rw [Effect.bind_apply]
  rcases ended : first state with ⟨outcome, middle⟩
  rw [ended] at begun
  cases outcome with
  | raised error => exact ⟨early, begun⟩
  | returned value =>
      obtain ⟨late, onward⟩ := further value middle
      exact ⟨early ++ late, begun.append onward⟩

protected theorem attempt {effect : Effect σ α} (unfolds : effect.Unfolds forest) :
    effect.attempt.Unfolds forest := unfolds

protected theorem forEach {action : α → Effect σ Unit}
    (unfolds : ∀ item, (action item).Unfolds forest) :
    ∀ items : List α, (Effect.forEach action items).Unfolds forest
  | [] => .pure ()
  | item :: items => (unfolds item).bind fun _ => Unfolds.forEach unfolds items

protected theorem collect {action : α → Effect σ β}
    (unfolds : ∀ item, (action item).Unfolds forest) :
    ∀ items : List α, (Effect.collect action items).Unfolds forest
  | [] => .pure []
  | item :: items =>
      (unfolds item).bind fun first =>
        (Unfolds.collect unfolds items).bind fun rest => .pure (first :: rest)

end Effect.Unfolds

/-! ### Executions and retries -/

variable {α : Type} {forest : Array SpecTree}

namespace Execution

theorem unfolds_ofAction (action : Action α) : (ofAction action).Unfolds forest :=
  .of_rests fun _ => ⟨rfl, rfl⟩

theorem unfolds_capture {execution : Execution α} (unfolds : execution.Unfolds forest) :
    execution.capture.Unfolds forest := by
  refine .bind (.attempt unfolds) fun outcome => ?_
  cases outcome with
  | returned value => exact .pure _
  | raised error =>
      refine .bind (.of_bench_eq fun _ => rfl) fun isCaught => ?_
      cases isCaught with
      | true => exact .pure _
      | false => exact .raise error

end Execution

open Execution

/-- A delay executes nothing but the retry it is handed. -/
theorem Delay.unfolds_perform {retry : Execution α} (unfolds : retry.Unfolds forest)
    (delay : Delay) (latest : Option α) : (delay.perform retry latest).Unfolds forest := by
  induction delay generalizing latest with
  | finish => exact .pure latest
  | act action next ih => exact .bind (unfolds_ofAction action) fun _ => ih latest
  | look next ih => exact fun bench => ih bench.world latest bench
  | callback next ih =>
      rw [perform]
      refine .bind (.attempt unfolds) fun outcome => ?_
      cases outcome with
      | returned value => exact ih none (some value)
      | raised error => exact ih (some error) latest

namespace SpecTree

variable {place : Nat} {whole : SpecTree}

theorem unfolds_execute (planted : forest[place]? = some whole) (address : Address)
    (node : ActionNode) (previous : Value) :
    (whole.execute address node previous).Unfolds forest :=
  fun bench => ⟨[⟨place, whole, address, node, previous, bench⟩],
    .next (.refl bench) planted (.rest (.refl _))⟩

theorem unfolds_executeAlong (planted : forest[place]? = some whole) :
    ∀ (way : List (Address × ActionNode)) (previous : Value),
      (whole.executeAlong way previous).Unfolds forest
  | [], previous => .pure previous
  | (address, node) :: way, previous =>
      .bind (unfolds_execute planted address node previous) fun result =>
        unfolds_executeAlong planted way result

end SpecTree

namespace RetryEngine

variable {place : Nat} {whole : SpecTree} (engine : RetryEngine)

theorem unfolds_attemptRetry (planted : forest[place]? = some whole) (address : Address) :
    (engine.attemptRetry whole address).Unfolds forest := by
  refine .bind (.of_rests fun bench => ⟨rfl, ?_⟩) fun _ => ?_
  · exact (Bench.executions_happened bench .delayed).trans (List.append_nil _)
  · refine .bind (engine.delay.unfolds_perform
      (SpecTree.unfolds_executeAlong planted _ .null) none) fun latest => ?_
    cases latest with
    | some value => exact .pure value
    | none => exact unfolds_ofAction _

theorem unfolds_retryFrom (planted : forest[place]? = some whole) (address : Address)
    (node : ActionNode) (remaining number : Nat) (latest : Outcome Value) :
    (engine.retryFrom whole address node remaining number latest).Unfolds forest := by
  induction remaining generalizing number latest with
  | zero => exact .pure latest
  | succ remaining ih =>
      refine .bind (unfolds_ofAction _) fun _ => ?_
      refine .bind (unfolds_capture (engine.unfolds_attemptRetry planted address)) fun outcome => ?_
      cases outcome with
      | returned value =>
          exact .bind (unfolds_ofAction _) fun _ => .bind (unfolds_ofAction _) fun _ => .pure _
      | raised error =>
          refine .bind (unfolds_ofAction _) fun kind => ?_
          cases kind with
          | other => exact .bind (unfolds_ofAction _) fun _ => .pure _
          | assertion => exact ih (number + 1) (.raised error)

theorem unfolds_finish (outcome : Outcome Value) : (finish outcome).Unfolds forest := by
  cases outcome with
  | returned value => exact .pure value
  | raised error => exact .bind (unfolds_ofAction _) fun final => .raise final

/-- A chain step is executed, and so is whatever its retries execute. -/
theorem unfolds_run (planted : forest[place]? = some whole) (address : Address)
    (node : ActionNode) (previous : Value) :
    (engine.run whole address node previous).Unfolds forest := by
  refine .bind (unfolds_capture (SpecTree.unfolds_execute planted address node previous))
    fun outcome => ?_
  cases outcome with
  | returned value => exact .pure value
  | raised first =>
      refine .bind (unfolds_ofAction _) fun retries => ?_
      cases retries with
      | false => exact unfolds_finish (.raised first)
      | true =>
          refine .bind (engine.unfolds_retryFrom planted address node _ 1 _) fun last => ?_
          cases last with
          | returned value => exact .pure value
          | raised error =>
              refine .bind (unfolds_ofAction _) fun kind => ?_
              cases kind with
              | assertion => exact unfolds_finish _
              | other => exact .bind (unfolds_ofAction _) fun _ => .raise error

end RetryEngine

/-! ### Bodies and suites -/

namespace Rig

variable {place : Nat} {whole : SpecTree}

theorem unfolds_execute {execution : Execution α} (unfolds : execution.Unfolds forest) :
    (execute execution : Effect (Rig Runner) α).Unfolds forest := fun rig => unfolds rig.bench

theorem unfolds_act (action : Action α) : (act action : Effect (Rig Runner) α).Unfolds forest :=
  unfolds_execute (unfolds_ofAction action)

theorem unfolds_of_isIdle {effect : Effect (Rig Runner) α} (idle : IsIdle effect) :
    effect.Unfolds forest :=
  .of_rests fun rig => ⟨(idle rig).2, by
    show (effect rig).2.bench.executions = rig.bench.executions
    rw [Bench.executions, (idle rig).1, Bench.executions]⟩

theorem unfolds_changeRunner (runner : RunnerRef) (change : Runner → World → Runner × World) :
    (changeRunner runner change).Unfolds forest :=
  unfolds_of_isIdle (.changeRunner change)

theorem unfolds_group (runner : RunnerRef) (name : String) {content : Effect (Rig Runner) Unit}
    (unfolds : content.Unfolds forest) : (group runner name content).Unfolds forest :=
  .bind (unfolds_changeRunner runner _) fun _ => .bind (.attempt unfolds) fun _ =>
    .bind (unfolds_changeRunner runner _) fun _ => .of_bench_eq fun _ => rfl

theorem unfolds_cellValue (cell : CellRef) :
    (cellValue cell : Effect (Rig Runner) Value).Unfolds forest := by
  refine .bind (.of_bench_eq fun _ => rfl) fun value => ?_
  cases value with
  | none => exact unfolds_act _
  | some value => exact .pure value

/-- Whatever is composed as bodies are, it executes one node of the trees after the other. -/
theorem closed_unfolds (forest : Array SpecTree) :
    Closed (fun whole => ∃ place : Nat, forest[place]? = some whole)
      (fun effect : Effect (Rig Runner) _ => effect.Unfolds forest) where
  pure := .pure
  raise := .raise
  bind := .bind
  attempt := .attempt
  act := unfolds_act
  execute address node previous := fun ⟨_, planted⟩ =>
    unfolds_execute (SpecTree.unfolds_execute planted address node previous)
  run engine address node previous := fun ⟨_, planted⟩ =>
    unfolds_execute (engine.unfolds_run planted address node previous)
  group := unfolds_group
  before runner _ := unfolds_changeRunner runner _
  case runner _ _ := unfolds_changeRunner runner _
  current := .of_bench_eq fun _ => rfl
  newCell := unfolds_of_isIdle .newCell
  setCell _ _ := .of_bench_eq fun _ => rfl
  cellValue := unfolds_cellValue

theorem unfolds_capture {effect : Effect (Rig Runner) α} (unfolds : effect.Unfolds forest) :
    (capture effect).Unfolds forest := by
  refine .bind (.attempt unfolds) fun outcome => ?_
  cases outcome with
  | returned value => exact .pure _
  | raised error =>
      refine .bind (unfolds_act _) fun isCaught => ?_
      cases isCaught with
      | true => exact .pure _
      | false => exact .raise error

end Rig

/-- Whatever a body does, it executes one node after the other. -/
theorem Body.unfolds_run (body : Body) :
    (body.run forest : Effect (Rig Runner) Value).Unfolds forest :=
  (Rig.closed_unfolds forest).runBody (fun place _ planted => ⟨place, planted⟩) body

namespace Rig

variable (runner : RunnerRef)

theorem unfolds_runHook (path : GroupPath) (name : String) (hook : Body) :
    (runHook forest runner path name hook).Unfolds forest := by
  refine .bind (unfolds_capture hook.unfolds_run) fun outcome => ?_
  cases outcome with
  | returned value => exact .pure ()
  | raised error =>
      exact .bind (unfolds_act _) fun _ => .bind (unfolds_changeRunner runner _) fun _ =>
        .raise error

theorem unfolds_runFurtherHooks (path : GroupPath) (done : Nat) :
    (runFurtherHooks forest runner path done).Unfolds forest :=
  .bind (.of_bench_eq fun _ => rfl) fun found =>
    .bind (.forEach (unfolds_runHook runner path found.1) _) fun _ => .pure _

theorem unfolds_runHooks (path : GroupPath) (generations done : Nat) :
    (runHooks forest runner path generations done).Unfolds forest := by
  induction generations generalizing done with
  | zero => exact .bind (unfolds_runFurtherHooks runner path done) fun _ => .pure ()
  | succ generations ih =>
      refine .bind (unfolds_runFurtherHooks runner path done) fun count => ?_
      split
      · exact .pure ()
      · exact ih (done + count)

theorem unfolds_prepare (path : GroupPath) : (prepare forest runner path).Unfolds forest := by
  refine .bind (.of_bench_eq fun _ => rfl) fun suite => ?_
  cases suite.progress path with
  | done => exact .pure ()
  | failed error => exact .raise error
  | pending =>
      exact .bind (unfolds_changeRunner runner _) fun _ => unfolds_runHooks runner path _ 0

theorem unfolds_runPick (pick : Pick) : (runPick forest runner pick).Unfolds forest :=
  .bind (.forEach (unfolds_prepare runner) _) fun _ => .bind pick.body.unfolds_run fun _ => .pure ()

theorem unfolds_reportPick (pick : Pick) : (reportPick forest runner pick).Unfolds forest := by
  refine .bind (unfolds_capture (unfolds_runPick runner pick)) fun outcome => ?_
  cases outcome with
  | returned _ => exact .pure _
  | raised error => exact .bind (unfolds_act _) fun _ => .pure _

theorem unfolds_runFurther (done : Nat) : (runFurther forest runner done).Unfolds forest :=
  .bind (.of_bench_eq fun _ => rfl) fun _ =>
    .bind (.collect (unfolds_reportPick runner) _) fun _ => .pure _

theorem unfolds_runFrom (generations done : Nat) :
    (runFrom forest runner generations done).Unfolds forest := by
  induction generations generalizing done with
  | zero => exact .bind (unfolds_runFurther runner done) fun _ => .pure _
  | succ generations ih =>
      refine .bind (unfolds_runFurther runner done) fun found => ?_
      dsimp only
      split
      · exact .pure _
      · exact .bind (ih found.1) fun _ => .pure _

theorem unfolds_runSuite : (runSuite forest runner).Unfolds forest :=
  .bind (unfolds_changeRunner runner _) fun _ => .bind (.of_bench_eq fun _ => rfl) fun _ =>
    unfolds_runFrom runner _ 0

end Rig

/-! ### Errands -/

/-- Something that is done with trees: a node is executed, everything from the root down to it is,
or it is run as a chain step; a tree is realized, or a node and what is below it over a previous
result; anything else is registered; all cases of a suite are run, they are handed out, one that
was handed out is invoked, or a body that was registered is run. -/
inductive Errand
  | execute (node : NodeRef) (previous : Value)
  | rerun (node : NodeRef)
  | runNode (engine : RetryEngine) (node : NodeRef) (previous : Value)
  | realize (realizer : Realizer) (node : NodeRef)
  | realizeAt (realizer : Realizer) (node : NodeRef) (source : Source)
  | declare (runner : RunnerRef) (entries : List Declaration)
  | run (runner : RunnerRef)
  | handOut (runner : RunnerRef)
  | invoke (runner : RunnerRef) (pick : Pick)
  | runBody (body : Body)

namespace Errand

/-- Do something with the node at a place, if there is one. -/
def atNode (forest : Array SpecTree) (node : NodeRef)
    (errand : SpecTree → ActionTree → Effect (Rig Runner) α) : Effect (Rig Runner) Unit :=
  match forest[node.tree]? with
  | none => pure ()
  | some whole =>
      match whole.root.subtree? node.address with
      | none => pure ()
      | some found => do
          let _ ← (errand whole found).attempt
          pure ()

/-- Do an errand, however it ends. -/
def perform (forest : Array SpecTree) : Errand → Effect (Rig Runner) Unit
  | .execute node previous =>
      atNode forest node fun whole found =>
        Rig.execute (whole.execute node.address found.here previous)
  | .rerun node => atNode forest node fun whole _ => Rig.execute (whole.rerun node.address)
  | .runNode engine node previous =>
      atNode forest node fun whole found =>
        Rig.execute (engine.run whole node.address found.here previous)
  | .realize realizer node =>
      atNode forest node fun whole _ => realizer.realizeFrom whole node.tree node.address
  | .realizeAt realizer node source =>
      atNode forest node fun whole found =>
        realizer.realize whole node.tree node.address source found
  | .declare runner entries => do
      let _ ← (Declaration.performAll runner entries).attempt
      pure ()
  | .run runner => do
      let _ ← (Rig.runSuite forest runner).attempt
      pure ()
  | .handOut runner => do
      let _ ← Rig.takePicks runner
      pure ()
  | .invoke runner pick => Rig.invoke forest runner pick
  | .runBody body => do
      let _ ← (body.run forest).attempt
      pure ()

/-- Do errands one after another. -/
def performAll (forest : Array SpecTree) : List Errand → Effect (Rig Runner) Unit :=
  Effect.forEach (perform forest)

theorem unfolds_atNode {node : NodeRef} {errand : SpecTree → ActionTree → Effect (Rig Runner) α}
    (unfolds : ∀ whole found, forest[node.tree]? = some whole → (errand whole found).Unfolds forest) :
    (atNode forest node errand).Unfolds forest := by
  rw [atNode]
  cases planted : forest[node.tree]? with
  | none => exact .pure ()
  | some whole =>
      dsimp only
      cases whole.root.subtree? node.address with
      | none => exact .pure ()
      | some found => exact .bind (.attempt (unfolds whole found planted)) fun _ => .pure ()

theorem unfolds_perform : ∀ errand : Errand, (errand.perform forest).Unfolds forest
  | .execute node previous =>
      unfolds_atNode fun _ found planted =>
        Rig.unfolds_execute (SpecTree.unfolds_execute planted node.address found.here previous)
  | .rerun _ =>
      unfolds_atNode fun _ _ planted =>
        Rig.unfolds_execute (SpecTree.unfolds_executeAlong planted _ .null)
  | .runNode engine node previous =>
      unfolds_atNode fun _ found planted =>
        Rig.unfolds_execute (engine.unfolds_run planted node.address found.here previous)
  | .realize realizer node =>
      unfolds_atNode fun _ _ planted =>
        (Rig.closed_unfolds forest).realizeFrom ⟨_, planted⟩ realizer node.tree node.address
  | .realizeAt realizer node source =>
      unfolds_atNode fun _ found planted =>
        (Rig.closed_unfolds forest).realize ⟨_, planted⟩ realizer node.tree node.address source found
  | .declare runner entries =>
      .bind (.attempt ((Rig.closed_unfolds forest).performAll runner entries)) fun _ => .pure ()
  | .run runner => .bind (.attempt (Rig.unfolds_runSuite runner)) fun _ => .pure ()
  | .handOut runner =>
      .bind (.bind (Rig.unfolds_changeRunner runner _) fun _ => .of_bench_eq fun _ => rfl) fun _ =>
        .pure ()
  | .invoke runner pick => .bind (.attempt (Rig.unfolds_runPick runner pick)) fun _ => .pure ()
  | .runBody body => .bind (.attempt body.unfolds_run) fun _ => .pure ()

/-- Whatever is done with trees, one node is executed after the other. -/
theorem unfolds_performAll (errands : List Errand) : (performAll forest errands).Unfolds forest :=
  .forEach unfolds_perform errands

end Errand

end DeferredSpec
