/-
# Stopwatches

Logging the executions of a tree subscribes a stopwatch: it is started for a node before the step
and stopped for the node behind it. The start times are kept by node, and one that was never asked
for stays, so a stopwatch may hold anything when an execution begins. Here is what each call does
to the stopwatches and to the log: it touches just the stopwatch it has, one that was started shows
the time since then whatever it held before, and what is logged can be read off the bench on which
the call is made.
-/

import DeferredSpec.Proofs.CallTraces
import DeferredSpec.Proofs.Titles

namespace DeferredSpec

/-! ### Stopwatches -/

namespace Stopwatch

theorem lookup_start (watch : Stopwatch) (address : Address) (now : Int) :
    (watch.start address now).started.lookup address = some now := by
  simp [start]

/-- A stopwatch that was started for a node shows the time since then, whatever it was started
for before. -/
theorem stop_start (watch : Stopwatch) (address : Address) (begun now : Int) :
    ((watch.start address begun).stop address now).1 = now - begun := by
  rw [stop, lookup_start, Option.getD_some]

end Stopwatch

namespace Bench

variable {bench : Bench} {watch other : Nat}

theorem watchAt_setWatch (kept : watch < bench.watches.size) (value : Stopwatch) :
    (bench.setWatch watch value).watchAt watch = value := by
  simp [watchAt, setWatch, kept]

theorem watchAt_setWatch_of_ne (apart : other ≠ watch) (value : Stopwatch) :
    (bench.setWatch other value).watchAt watch = bench.watchAt watch := by
  simp [watchAt, setWatch, Array.getElem?_setIfInBounds_ne apart]

@[simp] theorem size_watches_setWatch (bench : Bench) (watch : Nat) (value : Stopwatch) :
    (bench.setWatch watch value).watches.size = bench.watches.size := by
  simp [setWatch]

end Bench

namespace Action

/-- The action finds a value in the world, and leaves the world as it is. -/
def Answers {α : Type} (action : Action α) (world : World) : Prop :=
  ∃ value, action world = (.returned value, world)

/-- What is found in the world is still found after something was logged. -/
theorem Answers.record {α : Type} {action : Action α} {world : World}
    (answers : action.Answers world) (ignores : IgnoresLog action) (asks : OnlyAsks action)
    (record : LogRecord) : action.Answers (world.record record) := by
  obtain ⟨value, found⟩ := answers
  obtain ⟨written, same⟩ := ignores (world.records.push record) world
  rw [found] at same
  have kept := asks _ _ _ same
  exact ⟨value, same.trans (congrArg _ kept)⟩

end Action

/-- The stopwatch that a listener starts, if it has one. -/
def BeforeListener.watch? : BeforeListener → Option Nat
  | .code _ => none
  | .timed watch _ => some watch

/-- The stopwatch that a listener stops, if it has one. -/
def AfterListener.watch? : AfterListener → Option Nat
  | .code _ => none
  | .timed watch _ => some watch

namespace LogRecord

/-- What is logged when a node is about to be executed. -/
def executing (level : Nat) (label : String) : LogRecord :=
  ⟨level, executionLogger, "executing action: " ++ label⟩

/-- What is logged when the step of a node has returned, with the time it took. -/
def executed (level : Nat) (label shown : String) (elapsed : Int) : LogRecord :=
  ⟨level, executionLogger,
    "action executed: " ++ label ++ " -> " ++ shown ++ " (" ++ secondsText elapsed ++ "s)"⟩

end LogRecord

namespace NodeCall

/-- Whether the call starts a stopwatch. -/
def starts (watch : Nat) : NodeCall → Bool
  | .told _ _ listener => listener.watch? == some watch
  | _ => false

/-- Whether the call stops a stopwatch. -/
def stops (watch : Nat) : NodeCall → Bool
  | .shown _ _ _ listener => listener.watch? == some watch
  | _ => false

/-- Whether the call touches a stopwatch. -/
def touches (watch : Nat) (call : NodeCall) : Bool := call.starts watch || call.stops watch

variable {call : NodeCall} {calls : List NodeCall} {watch level : Nat} {address : Address}
  {node : ActionNode} {bench later : Bench} {result : Option Value}

@[simp] theorem touches_told (listener : BeforeListener) :
    (told address node listener).touches watch = (listener.watch? == some watch) := by
  simp [touches, starts, stops]

@[simp] theorem touches_shown (value : Value) (listener : AfterListener) :
    (shown address node value listener).touches watch = (listener.watch? == some watch) := by
  simp [touches, starts, stops]

theorem touches_of_stops (stopped : call.stops watch) : call.touches watch := by
  rw [touches, stopped, Bool.or_true]

/-- The calls that stop a stopwatch are found among those that touch it. -/
theorem filter_stops (calls : List NodeCall) :
    calls.filter (stops watch) = (calls.filter (touches watch)).filter (stops watch) := by
  rw [List.filter_filter]
  refine List.filter_congr fun call _ => ?_
  cases stopped : call.stops watch with
  | true => rw [touches_of_stops stopped, Bool.true_and]
  | false => rfl

/-- Whatever is done with the result, an action leaves the stopwatches as they are. -/
theorem watches_ofAction_bind {α β : Type} (action : Action α) (value : α → β) (bench : Bench) :
    ((Execution.ofAction action >>= fun found => pure (value found)) bench).2.watches =
      bench.watches := by
  rw [Effect.bind_apply, Execution.ofAction_apply]
  cases (action bench.world).1 <;> rfl

/-- A call leaves all stopwatches as they are but the one that it touches. -/
theorem watches_make (call : NodeCall) (bench : Bench) :
    (call.make bench).2.watches = bench.watches ∨
      ∃ own value, call.touches own = true ∧
        (call.make bench).2.watches = (bench.setWatch own value).watches := by
  cases call with
  | stepped address node previous => exact .inl (watches_ofAction_bind _ some bench)
  | told address node listener =>
      cases listener with
      | code run => exact .inl (watches_ofAction_bind (run node) (fun _ => none) bench)
      | timed own level =>
          refine .inr ⟨own, (bench.watchAt own).start address bench.world.clock, ?_, ?_⟩
          · simp [touches, starts, BeforeListener.watch?]
          · exact watches_ofAction_bind _ (fun _ => none) (bench.setWatch own _)
  | shown address node result listener =>
      cases listener with
      | code run => exact .inl (watches_ofAction_bind (run node result) (fun _ => none) bench)
      | timed own level =>
          refine .inr ⟨own, ((bench.watchAt own).stop address bench.world.clock).2, ?_, ?_⟩
          · simp [touches, stops, AfterListener.watch?]
          · exact watches_ofAction_bind _ (fun _ => none) (bench.setWatch own _)

theorem size_watches_make (call : NodeCall) (bench : Bench) :
    (call.make bench).2.watches.size = bench.watches.size := by
  rcases watches_make call bench with same | ⟨own, value, _, same⟩
  · rw [same]
  · rw [same, Bench.size_watches_setWatch]

/-- A call that does not touch a stopwatch leaves it as it is. -/
theorem watchAt_make (apart : call.touches watch = false) (bench : Bench) :
    (call.make bench).2.watchAt watch = bench.watchAt watch := by
  rcases watches_make call bench with same | ⟨own, value, touched, same⟩
  · rw [Bench.watchAt, same, Bench.watchAt]
  · have other : own ≠ watch := by
      rintro rfl
      rw [apart] at touched
      cases touched
    rw [Bench.watchAt, same, ← Bench.watchAt, Bench.watchAt_setWatch_of_ne other]

theorem size_watches_makeAll (calls : List NodeCall) (bench : Bench) :
    (makeAll calls bench).2.watches.size = bench.watches.size := by
  induction calls generalizing bench with
  | nil => rfl
  | cons call calls ih =>
      have here := size_watches_make call bench
      rw [makeAll, Effect.bind_apply]
      rcases made : call.make bench with ⟨outcome, later⟩
      rw [made] at here
      cases outcome with
      | raised error => exact here
      | returned result =>
          have onward := (ih later).trans here
          dsimp only
          rw [Effect.bind_apply]
          rcases others : makeAll calls later with ⟨outcome, last⟩
          rw [others] at onward
          cases outcome <;> exact onward

theorem watchAt_makeAll {results : List Value} (apart : calls.filter (touches watch) = [])
    (made : makeAll calls bench = (.returned results, later)) :
    later.watchAt watch = bench.watchAt watch := by
  induction calls generalizing bench results with
  | nil =>
      cases made
      rfl
  | cons call calls ih =>
      obtain ⟨result, middle, first, onward⟩ := Effect.bind_eq_returned_iff.mp made
      obtain ⟨further, last, others, finished⟩ := Effect.bind_eq_returned_iff.mp onward
      cases finished
      rw [List.filter_eq_nil_iff, List.forall_mem_cons] at apart
      have here := watchAt_make (Bool.eq_false_iff.mpr apart.1) bench
      rw [first] at here
      exact (ih (List.filter_eq_nil_iff.mpr apart.2) others).trans here

/-- A subscription that is told of a node starts its stopwatch and logs the label of the node. It
raises an error just if the label has no words. -/
theorem make_told_timed
    (made : (NodeCall.told address node (.timed watch level)).make bench =
      (.returned result, later)) :
    ∃ label, node.labelText bench.world = (.returned label, bench.world) ∧ result = none ∧
      later = { bench.setWatch watch ((bench.watchAt watch).start address bench.world.clock) with
        world := bench.world.record (.executing level label) } := by
  obtain ⟨_, _, notified, finished⟩ := Effect.bind_eq_returned_iff.mp made
  cases finished
  obtain ⟨_, _, started, logged⟩ := Effect.bind_eq_returned_iff.mp notified
  cases started
  rw [Execution.ofAction_apply] at logged
  obtain ⟨returned, rfl⟩ := Prod.mk.inj logged
  obtain ⟨label, world, told, written⟩ :=
    Effect.bind_eq_returned_iff.mp (Effect.apply_of_outcome returned)
  obtain rfl := node.onlyAsks_labelText _ _ _ told
  rw [← (Prod.mk.inj written).2]
  exact ⟨label, told, rfl, rfl⟩

/-- A subscription that was told of a node and has its stopwatch for itself finds on it the time
that has passed since then. -/
theorem stop_of_told {results : List Value} {calm : Bench} (kept : watch < bench.watches.size)
    (begun : (NodeCall.told address node (.timed watch level)).make bench =
      (.returned result, later))
    (quiet : calls.filter (touches watch) = [])
    (onward : makeAll calls later = (.returned results, calm)) (now : Int) :
    ((calm.watchAt watch).stop address now).1 = now - bench.world.clock := by
  obtain ⟨label, _, _, rfl⟩ := make_told_timed begun
  have running : calm.watchAt watch =
      (bench.watchAt watch).start address bench.world.clock :=
    (watchAt_makeAll quiet onward).trans (Bench.watchAt_setWatch kept _)
  rw [running, Stopwatch.stop_start]

/-- A subscription that is shown the result of a node stops its stopwatch and logs the result with
the time that has passed on it. -/
theorem make_shown_timed {value : Value}
    (made : (NodeCall.shown address node value (.timed watch level)).make bench =
      (.returned result, later)) :
    ∃ label shown, node.labelText bench.world = (.returned label, bench.world) ∧
      Action.describe value bench.world = (.returned shown, bench.world) ∧ result = none ∧
      later = { bench.setWatch watch ((bench.watchAt watch).stop address bench.world.clock).2 with
        world := bench.world.record (.executed level label shown
          ((bench.watchAt watch).stop address bench.world.clock).1) } := by
  obtain ⟨_, _, notified, finished⟩ := Effect.bind_eq_returned_iff.mp made
  cases finished
  obtain ⟨_, _, stopped, logged⟩ := Effect.bind_eq_returned_iff.mp notified
  cases stopped
  rw [Execution.ofAction_apply] at logged
  obtain ⟨returned, rfl⟩ := Prod.mk.inj logged
  obtain ⟨label, world, told, onward⟩ :=
    Effect.bind_eq_returned_iff.mp (Effect.apply_of_outcome returned)
  obtain rfl := node.onlyAsks_labelText _ _ _ told
  obtain ⟨shown, world, described, written⟩ := Effect.bind_eq_returned_iff.mp onward
  obtain rfl := Action.onlyAsks_describe value _ _ _ described
  rw [← (Prod.mk.inj written).2]
  exact ⟨label, shown, told, described, rfl, rfl⟩

/-- A subscription that finds words for a node and its result logs them. It returns, and the words
are still there for the next subscription. -/
theorem exists_make_shown_timed {value : Value} (labelled : node.labelText.Answers bench.world)
    (described : (Action.describe value).Answers bench.world) (address : Address)
    (watch level : Nat) :
    ∃ later, (NodeCall.shown address node value (.timed watch level)).make bench =
      (.returned none, later) ∧ node.labelText.Answers later.world ∧
        (Action.describe value).Answers later.world := by
  obtain ⟨label, told⟩ := id labelled
  obtain ⟨shown, written⟩ := id described
  let stopped := (bench.watchAt watch).stop address bench.world.clock
  let record := LogRecord.executed level label shown stopped.1
  refine ⟨{ bench.setWatch watch stopped.2 with world := bench.world.record record }, ?_,
    labelled.record node.ignoresLog_labelText node.onlyAsks_labelText record,
    described.record (Action.ignoresLog_describe value) (Action.onlyAsks_describe value) record⟩
  refine Effect.bind_eq_returned_iff.mpr ⟨(), _, ?_, rfl⟩
  refine Effect.bind_eq_returned_iff.mpr ⟨stopped.1, bench.setWatch watch stopped.2, rfl, ?_⟩
  have here : (bench.setWatch watch stopped.2).world = bench.world := rfl
  simp only [Execution.ofAction_apply, Effect.bind_apply, here, told, written]
  rfl

/-- Subscriptions that find words for a node and its result all return. -/
theorem exists_makeAll_shown_timed {value : Value} {listeners : List AfterListener}
    (timed : ∀ listener ∈ listeners, listener.watch?.isSome)
    (labelled : node.labelText.Answers bench.world)
    (described : (Action.describe value).Answers bench.world) (address : Address) :
    ∃ later, makeAll (listeners.map (shown address node value)) bench = (.returned [], later) := by
  induction listeners generalizing bench with
  | nil => exact ⟨bench, rfl⟩
  | cons listener listeners ih =>
      obtain ⟨here, others⟩ := List.forall_mem_cons.mp timed
      cases listener with
      | code run => cases here
      | timed watch level =>
          obtain ⟨middle, first, relabelled, redescribed⟩ :=
            exists_make_shown_timed labelled described address watch level
          obtain ⟨later, further⟩ := ih others relabelled redescribed
          refine ⟨later, Effect.bind_eq_returned_iff.mpr ⟨none, middle, first, ?_⟩⟩
          exact Effect.bind_eq_returned_iff.mpr ⟨[], later, further, rfl⟩

end NodeCall

/-! ### Subscriptions -/

namespace SpecTree

/-- The executions of a tree are logged at a level with a stopwatch that nothing else uses: one of
the listeners before starts it, and one of the listeners after stops it. -/
structure Logs (tree : SpecTree) (watch level : Nat) : Prop where
  before : (tree.listeners.before.filter fun listener => listener.watch? == some watch) =
    [.timed watch level]
  after : (tree.listeners.after.filter fun listener => listener.watch? == some watch) =
    [.timed watch level]

/-- No listener of a tree has the stopwatch. -/
structure Unwatched (tree : SpecTree) (watch : Nat) : Prop where
  before : ∀ listener ∈ tree.listeners.before, listener.watch? ≠ some watch
  after : ∀ listener ∈ tree.listeners.after, listener.watch? ≠ some watch

variable {tree : SpecTree} {watch level : Nat}

theorem Unwatched.not_logs (unwatched : tree.Unwatched watch) : ¬ tree.Logs watch level := by
  intro logs
  have used : BeforeListener.timed watch level ∈ tree.listeners.before.filter fun listener =>
      listener.watch? == some watch := by
    rw [logs.before]
    exact List.mem_singleton_self _
  exact unwatched.before _ (List.mem_of_mem_filter used) rfl

/-- A subscription is there however many others follow. -/
theorem Logs.subscribe (logs : tree.Logs watch level) {before : List BeforeListener}
    {after : List AfterListener} (unstarted : ∀ listener ∈ before, listener.watch? ≠ some watch)
    (unstopped : ∀ listener ∈ after, listener.watch? ≠ some watch) :
    (tree.subscribe before after).Logs watch level where
  before := by
    rw [SpecTree.subscribe, List.filter_append, logs.before, List.filter_eq_nil_iff.mpr (by simpa)]
    rfl
  after := by
    rw [SpecTree.subscribe, List.filter_append, logs.after, List.filter_eq_nil_iff.mpr (by simpa)]
    rfl

/-- Logging with a stopwatch that no listener has yet. -/
theorem Unwatched.logs_logExecution (unwatched : tree.Unwatched watch) (level : Nat) :
    (tree.logExecution watch level).Logs watch level where
  before := by
    rw [logExecution, SpecTree.subscribe, List.filter_append,
      List.filter_eq_nil_iff.mpr (by simpa using unwatched.before)]
    simp [BeforeListener.watch?]
  after := by
    rw [logExecution, SpecTree.subscribe, List.filter_append,
      List.filter_eq_nil_iff.mpr (by simpa using unwatched.after)]
    simp [AfterListener.watch?]

/-- Logging once more, with another stopwatch. -/
theorem Logs.logExecution (logs : tree.Logs watch level) {other : Nat} (apart : other ≠ watch)
    (further : Nat) : (tree.logExecution other further).Logs watch level :=
  logs.subscribe (by simpa [BeforeListener.watch?]) (by simpa [AfterListener.watch?])

theorem Unwatched.logExecution (unwatched : tree.Unwatched watch) {other : Nat}
    (apart : other ≠ watch) (level : Nat) : (tree.logExecution other level).Unwatched watch where
  before := by
    simp only [SpecTree.logExecution, SpecTree.subscribe, List.forall_mem_append,
      List.forall_mem_singleton]
    exact ⟨unwatched.before, by simpa [BeforeListener.watch?]⟩
  after := by
    simp only [SpecTree.logExecution, SpecTree.subscribe, List.forall_mem_append,
      List.forall_mem_singleton]
    exact ⟨unwatched.after, by simpa [AfterListener.watch?]⟩

end SpecTree

/-- Where no tree has a stopwatch that is not there yet, a session logs the executions of a tree
with a new one. The tree keeps the subscriptions that it has, and again it has no stopwatch that is
not there. -/
theorem Session.logExecution_logs {session later : Session} {found : FoundNode} {level : Nat}
    {answer : Answer}
    (unwatched : ∀ watch, session.rig.bench.watches.size ≤ watch → found.tree.Unwatched watch)
    (planted : session.forest[found.index]? = some found.tree)
    (done : Session.logExecution found level session = (.returned answer, later)) :
    ∃ tree, later.forest[found.index]? = some tree ∧
      tree.Logs session.rig.bench.watches.size level ∧
      later.rig.bench.watches.size = session.rig.bench.watches.size + 1 ∧
      (∀ watch, later.rig.bench.watches.size ≤ watch → tree.Unwatched watch) ∧
      ∀ watch further, found.tree.Logs watch further → tree.Logs watch further := by
  obtain ⟨_, _, required, onward⟩ := Effect.bind_eq_returned_iff.mp done
  rw [Session.requireListeners, Session.act_apply] at required
  cases (Prod.mk.inj required).2
  cases onward
  refine ⟨_, Session.forest_withTree planted _, (unwatched _ le_rfl).logs_logExecution level, ?_, ?_,
    ?_⟩
  · exact Array.size_push _
  · intro watch beyond
    have further : session.rig.bench.watches.size < watch :=
      Nat.lt_of_lt_of_le (Nat.lt_succ_self _) ((Array.size_push _).symm.trans_le beyond)
    exact (unwatched watch further.le).logExecution further.ne level
  · intro watch further logs
    refine logs.logExecution (fun same => ?_) level
    exact (same ▸ unwatched _ le_rfl).not_logs logs

end DeferredSpec
