/-
# Reruns from the root

A rerun executes the nodes on the way from a root down to a node, each of them once. Executing
a node is a sequence of calls: the listeners before, the step, and the listeners after with what
the step returned. So the calls of a rerun are known from the results of its steps. They are
made in order until one of them raises an error, and the rerun ends with that error, or with the
result of the last step.
-/

import DeferredSpec.Proofs.Handles
import DeferredSpec.Proofs.Histories
import DeferredSpec.Proofs.Passing
import DeferredSpec.Session.Command

namespace DeferredSpec

/-! ### The history goes unnoticed -/

/-- The bench with another history. -/
def Bench.withHistory (history : Array Happening) (bench : Bench) : Bench := { bench with history }

namespace Execution

variable {α β : Type}

/-- Another history changes nothing but the history, to which nothing is added. -/
def IgnoresHistory (execution : Execution α) : Prop :=
  ∀ history bench,
    execution (bench.withHistory history) =
      ((execution bench).1, (execution bench).2.withHistory history)

namespace IgnoresHistory

protected theorem pure (value : α) : IgnoresHistory (pure value) := fun _ _ => rfl

protected theorem ofAction (action : Action α) : IgnoresHistory (ofAction action) :=
  fun _ _ => rfl

protected theorem bind {first : Execution α} {next : α → Execution β}
    (ignores : IgnoresHistory first) (further : ∀ value, IgnoresHistory (next value)) :
    IgnoresHistory (first >>= next) := by
  intro history bench
  rw [Effect.bind_apply, Effect.bind_apply, ignores]
  rcases first bench with ⟨outcome, later⟩
  cases outcome with
  | returned value => exact further value history later
  | raised error => rfl

/-- How an execution ended tells how it would have ended with another history. -/
theorem apply_of_withHistory {execution : Execution α} (ignores : IgnoresHistory execution)
    {history : Array Happening} {bench later : Bench} {outcome : Outcome α}
    (ended : execution (bench.withHistory history) = (outcome, later)) :
    execution bench = (outcome, later.withHistory bench.history) := by
  have back := ignores bench.history (bench.withHistory history)
  rw [ended] at back
  exact back

end IgnoresHistory

end Execution

open Execution

theorem BeforeListener.ignoresHistory_notify (address : Address) (node : ActionNode) :
    ∀ listener, IgnoresHistory (BeforeListener.notify address node listener)
  | .code run => .ofAction (run node)
  | .timed _ _ => .bind (fun _ _ => rfl) fun _ => .ofAction _

theorem AfterListener.ignoresHistory_notify (address : Address) (node : ActionNode)
    (result : Value) :
    ∀ listener, IgnoresHistory (AfterListener.notify address node result listener)
  | .code run => .ofAction (run node result)
  | .timed _ _ => .bind (fun _ _ => rfl) fun _ => .ofAction _

/-! ### The calls of an execution -/

/-- A call that is made when a node is executed: of a listener that is told of the node, of the
step with the previous result, or of a listener that is shown the result. -/
inductive NodeCall
  | told (address : Address) (node : ActionNode) (listener : BeforeListener)
  | stepped (address : Address) (node : ActionNode) (previous : Value)
  | shown (address : Address) (node : ActionNode) (result : Value) (listener : AfterListener)

namespace NodeCall

/-- Make a call. That of a step has a result. -/
def make : NodeCall → Execution (Option Value)
  | .told address node listener => do
      listener.notify address node
      pure none
  | .stepped _ node previous => do
      let result ← ofAction (node.step node.arguments previous)
      pure (some result)
  | .shown address node result listener => do
      listener.notify address node result
      pure none

/-- Make calls one after another; returns the results of the steps among them. -/
def makeAll : List NodeCall → Execution (List Value)
  | [] => pure []
  | call :: calls => do
      let result ← call.make
      let results ← makeAll calls
      pure (result.toList ++ results)

theorem ignoresHistory_make : ∀ call : NodeCall, IgnoresHistory call.make
  | .told address node listener =>
      (listener.ignoresHistory_notify address node).bind fun _ => .pure none
  | .stepped _ _ _ => (IgnoresHistory.ofAction _).bind fun result => .pure (some result)
  | .shown address node result listener =>
      (listener.ignoresHistory_notify address node result).bind fun _ => .pure none

theorem ignoresHistory_makeAll (calls : List NodeCall) : IgnoresHistory (makeAll calls) := by
  induction calls with
  | nil => exact .pure []
  | cons call calls ih =>
      exact (ignoresHistory_make call).bind fun result => ih.bind fun results => .pure _

theorem makeAll_append (first second : List NodeCall) :
    makeAll (first ++ second) =
      makeAll first >>= fun results =>
        makeAll second >>= fun further => pure (results ++ further) := by
  induction first with
  | nil => simp [makeAll]
  | cons call calls ih =>
      simp only [List.cons_append, makeAll, ih, bind_assoc, pure_bind, List.append_assoc]

theorem makeAll_told (address : Address) (node : ActionNode) (listeners : List BeforeListener) :
    makeAll (listeners.map (told address node)) =
      Effect.forEach (BeforeListener.notify address node) listeners >>= fun _ => pure [] := by
  induction listeners with
  | nil => rfl
  | cons listener listeners ih => simp [makeAll, make, ih]

theorem makeAll_shown (address : Address) (node : ActionNode) (result : Value)
    (listeners : List AfterListener) :
    makeAll (listeners.map (shown address node result)) =
      Effect.forEach (AfterListener.notify address node result) listeners >>=
        fun _ => pure [] := by
  induction listeners with
  | nil => rfl
  | cons listener listeners ih => simp [makeAll, make, ih]

/-- The node whose step is called and the previous result that the step is given, if a step is
called. -/
def step? : NodeCall → Option ((Address × ActionNode) × Value)
  | .stepped address node previous => some ((address, node), previous)
  | _ => none

/-- Calls of listeners have no results. -/
theorem eq_nil_of_makeAll {calls : List NodeCall} {bench later : Bench} {results : List Value}
    (silent : ∀ call ∈ calls, call.step? = none)
    (made : makeAll calls bench = (.returned results, later)) : results = [] := by
  induction calls generalizing bench later results with
  | nil =>
      cases made
      rfl
  | cons call calls ih =>
      obtain ⟨result, middle, first, onward⟩ := Effect.bind_eq_returned_iff.mp made
      obtain ⟨further, last, others, finished⟩ := Effect.bind_eq_returned_iff.mp onward
      obtain rfl := ih (fun other member => silent other (List.mem_cons_of_mem call member)) others
      have quiet := silent call List.mem_cons_self
      have nothing : result = none := by
        cases call with
        | stepped => cases quiet
        | told | shown =>
            obtain ⟨_, _, _, ended⟩ := Effect.bind_eq_returned_iff.mp first
            cases ended
            rfl
      rw [nothing] at finished
      cases finished
      rfl

/-- Where several calls raise an error, one of them raised it, all calls before it returned, and
no call behind it was made. -/
theorem exists_of_makeAll_raised {calls : List NodeCall} {bench later : Bench} {error : ErrorRef}
    (raised : makeAll calls bench = (.raised error, later)) :
    ∃ front call rest results middle, calls = front ++ call :: rest ∧
      makeAll front bench = (.returned results, middle) ∧
        call.make middle = (.raised error, later) := by
  induction calls generalizing bench with
  | nil => cases raised
  | cons call calls ih =>
      rw [makeAll, Effect.bind_apply] at raised
      rcases made : call.make bench with ⟨outcome, between⟩
      rw [made] at raised
      cases outcome with
      | raised met =>
          cases raised
          exact ⟨[], call, calls, [], bench, rfl, rfl, made⟩
      | returned result =>
          have onward : makeAll calls between = (.raised error, later) := by
            rcases further : makeAll calls between with ⟨outcome, last⟩
            simp only [Effect.bind_apply, further] at raised
            cases outcome with
            | raised met => exact raised
            | returned results => cases raised
          obtain ⟨front, stopped, rest, results, middle, rfl, before, stops⟩ := ih onward
          refine ⟨call :: front, stopped, rest, result.toList ++ results, middle, rfl, ?_, stops⟩
          simp only [makeAll, Effect.bind_apply, made, before]
          rfl

/-- Where one of several listeners raises an error, the calls before it have no results. -/
theorem exists_of_silent_raised {calls : List NodeCall} {bench later : Bench} {error : ErrorRef}
    (silent : ∀ call ∈ calls, call.step? = none)
    (raised : makeAll calls bench = (.raised error, later)) :
    ∃ front call rest middle, calls = front ++ call :: rest ∧
      makeAll front bench = (.returned [], middle) ∧ call.make middle = (.raised error, later) := by
  obtain ⟨front, call, rest, results, middle, rfl, before, stops⟩ :=
    exists_of_makeAll_raised raised
  obtain rfl :=
    eq_nil_of_makeAll (fun other member => silent other (List.mem_append_left _ member)) before
  exact ⟨front, call, rest, middle, rfl, before, stops⟩

end NodeCall

namespace SpecTree

open NodeCall

/-- The calls of the listeners that are told of a node. -/
def callsBefore (tree : SpecTree) (address : Address) (node : ActionNode) : List NodeCall :=
  tree.listeners.before.map (told address node)

/-- The calls of the listeners that are shown the result of a node. -/
def callsAfter (tree : SpecTree) (address : Address) (node : ActionNode) (result : Value) :
    List NodeCall :=
  tree.listeners.after.map (shown address node result)

/-- The calls that are made when a node is executed and its step returns. -/
def callsOf (tree : SpecTree) (address : Address) (node : ActionNode) (previous result : Value) :
    List NodeCall :=
  tree.callsBefore address node ++
    .stepped address node previous :: tree.callsAfter address node result

/-- The calls that are made when nodes are executed one after another, as far as they are known
from the results of the steps so far. The step behind the last known result is the last call. -/
def callsAlong (tree : SpecTree) :
    List (Address × ActionNode) → Value → List Value → List NodeCall
  | [], _, _ => []
  | (address, node) :: way, previous, results =>
      tree.callsBefore address node ++ .stepped address node previous ::
        match results with
        | [] => []
        | result :: results =>
            tree.callsAfter address node result ++ tree.callsAlong way result results

/-- All executions come to an end: all calls return, and the results of the steps are these, the
last of them the given one. -/
def Completes (tree : SpecTree) (way : List (Address × ActionNode)) (previous : Value)
    (bench : Bench) (value : Value) (later : Bench) : Prop :=
  ∃ results, results.length = way.length ∧ (previous :: results).getLast? = some value ∧
    makeAll (tree.callsAlong way previous results) bench = (.returned results, later)

/-- The calls are made as far as one that raises the given error. -/
def StopsWith (tree : SpecTree) (way : List (Address × ActionNode)) (previous : Value)
    (bench : Bench) (error : ErrorRef) (later : Bench) : Prop :=
  ∃ results front call middle, front ++ [call] <+: tree.callsAlong way previous results ∧
    makeAll front bench = (.returned results, middle) ∧
      call.make middle = (.raised error, later)

section Execution

variable {tree : SpecTree} {address : Address} {node : ActionNode} {previous : Value}
  {bench later : Bench}

theorem step?_of_mem_callsBefore {call : NodeCall} (member : call ∈ tree.callsBefore address node) :
    call.step? = none := by
  obtain ⟨listener, _, rfl⟩ := List.mem_map.mp member
  rfl

theorem step?_of_mem_callsAfter {call : NodeCall} {result : Value}
    (member : call ∈ tree.callsAfter address node result) : call.step? = none := by
  obtain ⟨listener, _, rfl⟩ := List.mem_map.mp member
  rfl

/-- A node that has its listeners is carried out by its calls. -/
theorem carryOut_eq_makeAll (hooked : tree.lacks address .hooks = false) (node : ActionNode)
    (previous : Value) :
    tree.carryOut address node previous =
      makeAll (tree.callsBefore address node) >>= fun _ =>
        ofAction (node.step node.arguments previous) >>= fun result =>
          makeAll (tree.callsAfter address node result) >>= fun _ => pure result := by
  rw [carryOut, require, hooked, callsBefore, makeAll_told]
  simp only [callsAfter, makeAll_shown, bind_assoc, pure_bind]
  rfl

/-- Carrying out a node either makes all of its calls and returns the result of the step, or it
makes them as far as one that raises an error, and raises this error. -/
theorem carryOut_cases (hooked : tree.lacks address .hooks = false) (node : ActionNode)
    (previous : Value) (bench : Bench) :
    (∃ result later, tree.carryOut address node previous bench = (.returned result, later) ∧
        makeAll (tree.callsOf address node previous result) bench = (.returned [result], later)) ∨
      ∃ error later, tree.carryOut address node previous bench = (.raised error, later) ∧
        ∀ way, tree.StopsWith ((address, node) :: way) previous bench error later := by
  rw [carryOut_eq_makeAll hooked, Effect.bind_apply]
  rcases begun : makeAll (tree.callsBefore address node) bench with ⟨outcome, told⟩
  cases outcome with
  | raised error =>
      obtain ⟨front, call, rest, middle, split, before, stops⟩ :=
        exists_of_silent_raised (fun _ => step?_of_mem_callsBefore) begun
      refine .inr ⟨error, told, rfl, fun way => ⟨[], front, call, middle, ?_, before, stops⟩⟩
      rw [callsAlong, split]
      exact ⟨rest ++ [.stepped address node previous], by simp⟩
  | returned nothing =>
      obtain rfl := eq_nil_of_makeAll (fun _ => step?_of_mem_callsBefore) begun
      rcases ran : ofAction (node.step node.arguments previous) told with ⟨outcome, stepped⟩
      have made : (NodeCall.stepped address node previous).make told =
          (outcome.map some, stepped) := by
        rw [make, Effect.bind_apply, ran]
        cases outcome <;> rfl
      simp only [Effect.bind_apply, ran]
      cases outcome with
      | raised error =>
          exact .inr ⟨error, stepped, rfl, fun way =>
            ⟨[], _, _, told, List.prefix_rfl, begun, made⟩⟩
      | returned result =>
          have through : makeAll (tree.callsBefore address node ++
              [.stepped address node previous]) bench = (.returned [result], stepped) := by
            rw [makeAll_append, Effect.bind_apply, begun]
            simp only [makeAll, Effect.bind_apply, made]
            rfl
          rcases ended : makeAll (tree.callsAfter address node result) stepped with
            ⟨outcome, later⟩
          cases outcome with
          | raised error =>
              obtain ⟨front, call, rest, middle, split, before, stops⟩ :=
                exists_of_silent_raised (fun _ => step?_of_mem_callsAfter) ended
              have reached : makeAll (tree.callsBefore address node ++
                  [.stepped address node previous] ++ front) bench =
                    (.returned [result], middle) := by
                rw [makeAll_append, Effect.bind_apply, through]
                simp only [Effect.bind_apply, before]
                rfl
              refine .inr ⟨error, later, by simp only [ended], fun way =>
                ⟨[result], _, call, middle, ?_, reached, stops⟩⟩
              rw [callsAlong, split]
              exact ⟨rest ++ tree.callsAlong way result [], by simp⟩
          | returned others =>
              obtain rfl := eq_nil_of_makeAll (fun _ => step?_of_mem_callsAfter) ended
              refine .inl ⟨result, later, by simp only [ended, Effect.pure_apply], ?_⟩
              rw [callsOf, ← List.singleton_append, ← List.append_assoc, makeAll_append,
                Effect.bind_apply, through]
              simp only [Effect.bind_apply, ended]
              rfl

variable {way : List (Address × ActionNode)} {result value : Value} {error : ErrorRef}
  {middle : Bench}

/-- The steps among the calls are those of the nodes on the way, one for each node, and each step
after the first one is given the result of the step before. -/
theorem filterMap_callsAlong (tree : SpecTree) (way : List (Address × ActionNode))
    (previous : Value) (results : List Value) :
    (tree.callsAlong way previous results).filterMap NodeCall.step? =
      way.zip (previous :: results) := by
  induction way generalizing previous results with
  | nil => rfl
  | cons entry way ih =>
      obtain ⟨address, node⟩ := entry
      have before : (tree.callsBefore address node).filterMap NodeCall.step? = [] :=
        List.filterMap_eq_nil_iff.mpr fun _ => step?_of_mem_callsBefore
      cases results with
      | nil => simp [callsAlong, before, NodeCall.step?]
      | cons result results =>
          have after : (tree.callsAfter address node result).filterMap NodeCall.step? = [] :=
            List.filterMap_eq_nil_iff.mpr fun _ => step?_of_mem_callsAfter
          simp [callsAlong, before, after, NodeCall.step?, ih]

theorem callsAlong_cons (tree : SpecTree) (address : Address) (node : ActionNode)
    (way : List (Address × ActionNode)) (previous result : Value) (results : List Value) :
    tree.callsAlong ((address, node) :: way) previous (result :: results) =
      tree.callsOf address node previous result ++ tree.callsAlong way result results := by
  simp [callsAlong, callsOf]

theorem Completes.cons
    (made : makeAll (tree.callsOf address node previous result) bench =
      (.returned [result], middle))
    (completes : tree.Completes way result middle value later) :
    tree.Completes ((address, node) :: way) previous bench value later := by
  obtain ⟨results, counted, last, further⟩ := completes
  refine ⟨result :: results, congrArg (· + 1) counted, last, ?_⟩
  rw [callsAlong_cons, makeAll_append, Effect.bind_apply, made]
  simp only [Effect.bind_apply, further]
  rfl

theorem StopsWith.cons
    (made : makeAll (tree.callsOf address node previous result) bench =
      (.returned [result], middle))
    (stops : tree.StopsWith way result middle error later) :
    tree.StopsWith ((address, node) :: way) previous bench error later := by
  obtain ⟨results, front, call, between, within, before, raised⟩ := stops
  refine ⟨result :: results, tree.callsOf address node previous result ++ front, call, between,
    ?_, ?_, raised⟩
  · rw [callsAlong_cons, List.append_assoc, List.prefix_append_right_inj]
    exact within
  · rw [makeAll_append, Effect.bind_apply, made]
    simp only [Effect.bind_apply, before]
    rfl

theorem Completes.of_withHistory {history : Array Happening}
    (completes :
      tree.Completes way previous (bench.withHistory history) value (later.withHistory history)) :
    tree.Completes way previous bench value (later.withHistory bench.history) := by
  obtain ⟨results, counted, last, made⟩ := completes
  have same := (ignoresHistory_makeAll _).apply_of_withHistory made
  exact ⟨results, counted, last, same⟩

theorem StopsWith.of_withHistory {history : Array Happening}
    (stops :
      tree.StopsWith way previous (bench.withHistory history) error (later.withHistory history)) :
    tree.StopsWith way previous bench error (later.withHistory bench.history) := by
  obtain ⟨results, front, call, middle, within, made, raised⟩ := stops
  refine ⟨results, front, call, _, within,
    (ignoresHistory_makeAll front).apply_of_withHistory made, ?_⟩
  rw [ignoresHistory_make, raised]
  rfl

/-- Executing nodes one after another makes their calls, either all of them or as far as one that
raises an error. -/
theorem executeAlong_cases (hooked : ∀ entry ∈ way, tree.lacks entry.1 .hooks = false)
    (previous : Value) (bench : Bench) :
    (∃ value later, tree.executeAlong way previous bench = (.returned value, later) ∧
        tree.Completes way previous bench value (later.withHistory bench.history)) ∨
      ∃ error later, tree.executeAlong way previous bench = (.raised error, later) ∧
        tree.StopsWith way previous bench error (later.withHistory bench.history) := by
  induction way generalizing previous bench with
  | nil => exact .inl ⟨previous, bench, rfl, [], rfl, rfl, rfl⟩
  | cons entry way ih =>
      obtain ⟨address, node⟩ := entry
      have unrecorded := tree.isUnrecorded_carryOut address node previous bench
      rw [executeAlong, Effect.bind_apply, execute_apply]
      rcases carryOut_cases (hooked _ List.mem_cons_self) node previous bench with
        ⟨result, middle, ended, made⟩ | ⟨error, later, ended, stops⟩
      · rw [ended] at unrecorded ⊢
        -- what goes down in the history here is there when the further nodes are executed
        rcases ih (fun other member => hooked other (List.mem_cons_of_mem _ member)) result
            (middle.happened (.executed address previous (.returned result))) with
          ⟨value, later, onward, completes⟩ | ⟨error, later, onward, stops⟩
        · refine .inl ⟨value, later, onward, .cons made ?_⟩
          rw [← unrecorded]
          exact completes.of_withHistory
        · refine .inr ⟨error, later, onward, .cons made ?_⟩
          rw [← unrecorded]
          exact stops.of_withHistory
      · rw [ended] at unrecorded ⊢
        refine .inr ⟨error, _, rfl, ?_⟩
        have same : (later.happened (.executed address previous (.raised error))).withHistory
            bench.history = later := by
          rw [← unrecorded]
          rfl
        rw [same]
        exact stops way

end Execution

/-! ### The way from the root -/

/-- A way from a root down to a node: the first node has no parent, every other one has the node
before it as its parent, and no node is met twice. -/
structure IsWay (tree : SpecTree) (place : Nat) (address : Address) (node : ActionNode)
    (way : List (Address × ActionNode)) : Prop where
  orphan : ∃ top, way.head? = some top ∧ Session.parentOf tree ⟨place, top.1⟩ = .value .null
  linked : (way.map Prod.fst).IsChain fun above below =>
    Session.parentOf tree ⟨place, below⟩ = .node ⟨place, above⟩
  last : way.getLast? = some (address, node)
  nodup : (way.map Prod.fst).Nodup
  found : ∀ entry ∈ way, tree.root.nodeAt? entry.1 = some entry.2

section Ways

variable {tree : SpecTree} {address : Address} {node : ActionNode}

theorem fromLast_suffix {α : Type} (test : α → Bool) (entries : List α) :
    fromLast test entries <:+ entries := by
  induction entries with
  | nil => exact List.suffix_rfl
  | cons entry entries ih =>
      rw [fromLast]
      split
      · exact ih.trans (List.suffix_cons entry entries)
      · exact List.suffix_rfl

/-- The way to a child that has lost its parent begins with the child. Any other one is the way
to the parent, and the child. -/
theorem trail_concat {parent : Address} {index : Nat}
    (known : tree.root.nodeAt? (parent ++ [index]) = some node) :
    tree.trail (parent ++ [index]) =
      if tree.lacks (parent ++ [index]) .parent then [(parent ++ [index], node)]
      else tree.trail parent ++ [(parent ++ [index], node)] := by
  obtain ⟨found, located, rfl⟩ := ActionTree.exists_subtree? known
  obtain ⟨around, above, listed⟩ := ActionTree.exists_parent located
  rw [trail, ActionTree.trail_concat above listed, fromLast_concat]
  rfl

theorem mem_trail_of_mem {entry : Address × ActionNode} (member : entry ∈ tree.trail address) :
    entry ∈ tree.root.trail address :=
  (fromLast_suffix _ _).subset member

/-- The root above a node lies on the way to it. -/
theorem top_prefix (tree : SpecTree) (address : Address) : tree.top address <+: address := by
  rw [top]
  cases begun : (tree.trail address).head? with
  | none => exact List.nil_prefix
  | some entry =>
      have member := mem_trail_of_mem (List.mem_of_mem_head? begun)
      exact ActionTree.prefix_of_mem_trailFrom [] member

/-- A node that has lost its parent has none, and neither has the root of the tree. -/
theorem parentOf_of_lacks (place : Nat) {parent : Address} {index : Nat}
    (known : tree.root.nodeAt? (parent ++ [index]) = some node)
    (lost : tree.lacks (parent ++ [index]) .parent = true) :
    Session.parentOf tree ⟨place, parent ++ [index]⟩ = .value .null := by
  have begins : tree.top (parent ++ [index]) = parent ++ [index] := by
    rw [top, trail_concat known, if_pos lost]
    rfl
  rw [Session.parentOf, if_pos begins]

theorem parentOf_of_not_lacks (place : Nat) {parent : Address} {index : Nat}
    (known : tree.root.nodeAt? (parent ++ [index]) = some node)
    (kept : tree.lacks (parent ++ [index]) .parent = false) :
    Session.parentOf tree ⟨place, parent ++ [index]⟩ = .node ⟨place, parent⟩ := by
  obtain ⟨above, there⟩ := Option.isSome_iff_exists.mp
    (ActionTree.isSome_nodeAt?_of_concat (Option.isSome_of_eq_some known))
  obtain ⟨front, way⟩ := exists_trail_concat there
  have begins : tree.top (parent ++ [index]) = tree.top parent := by
    rw [top, top, trail_concat known, kept, if_neg Bool.false_ne_true, way]
    cases front <;> rfl
  have other : tree.top (parent ++ [index]) ≠ parent ++ [index] := by
    intro same
    rw [begins] at same
    have shorter := (tree.top_prefix parent).length_le
    rw [same, List.length_append, List.length_singleton] at shorter
    exact Nat.not_succ_le_self _ shorter
  rw [Session.parentOf, if_neg other, List.dropLast_concat]

/-- The way to a node begins with a node that has no parent, and leads from parents to their
children. -/
theorem trail_links (known : tree.root.nodeAt? address = some node) (place : Nat) :
    (∃ top, (tree.trail address).head? = some top ∧
        Session.parentOf tree ⟨place, top.1⟩ = .value .null) ∧
      ((tree.trail address).map Prod.fst).IsChain fun above below =>
        Session.parentOf tree ⟨place, below⟩ = .node ⟨place, above⟩ := by
  induction address using List.reverseRecOn generalizing node with
  | nil =>
      have way : tree.trail [] = [([], tree.root.here)] := by
        simp [trail, ActionTree.trail, ActionTree.trailFrom, fromLast]
      rw [way]
      refine ⟨⟨_, rfl, ?_⟩, List.isChain_singleton _⟩
      rw [Session.parentOf, top, way]
      rfl
  | append_singleton parent index ih =>
      obtain ⟨above, there⟩ := Option.isSome_iff_exists.mp
        (ActionTree.isSome_nodeAt?_of_concat (Option.isSome_of_eq_some known))
      rw [trail_concat known]
      cases lost : tree.lacks (parent ++ [index]) .parent with
      | true =>
          exact ⟨⟨_, rfl, parentOf_of_lacks place known lost⟩, List.isChain_singleton _⟩
      | false =>
          obtain ⟨⟨top, begins, orphan⟩, linked⟩ := ih there
          obtain ⟨front, way⟩ := exists_trail_concat there
          refine ⟨⟨top, ?_, orphan⟩, ?_⟩
          · rw [if_neg Bool.false_ne_true, List.head?_append, begins]
            rfl
          · rw [way, List.map_append] at linked
            rw [if_neg Bool.false_ne_true, way, List.map_append, List.map_append]
            refine List.isChain_append.mpr ⟨linked, List.isChain_singleton _, ?_⟩
            intro last ends next begins
            simp at ends begins
            subst ends begins
            exact parentOf_of_not_lacks place known lost

/-- What is executed in a rerun is the way from a root down to the node. -/
theorem isWay_trail (known : tree.root.nodeAt? address = some node) (place : Nat) :
    tree.IsWay place address node (tree.trail address) where
  orphan := (trail_links known place).1
  linked := (trail_links known place).2
  last := by
    obtain ⟨above, same⟩ := exists_trail_concat known
    rw [same, List.getLast?_concat]
  nodup := by
    refine List.Nodup.sublist ?_ (ActionTree.nodup_trailFrom tree.root [] address)
    exact (fromLast_suffix _ _).sublist.map Prod.fst
  found entry member :=
    ActionTree.nodeAt?_of_mem_trail (Option.isSome_of_eq_some known) (mem_trail_of_mem member)

end Ways

end SpecTree

namespace Session

variable [ObjectModel] {place : Nat}

theorem spares_find (number : Int) : Spares place (find number) := by
  refine .bind (fun _ => rfl) fun nodes => .bind ?_ fun known => ?_
  · unfold orOutOfRange
    split
    · exact .pure _
    · exact .act _
  · exact .bind (.treeAt _) fun found => .pure _

/-- A rerun leaves all trees as they are, whatever the steps and the listeners do. -/
theorem forest_perform_rerun (number : Int) (session : Session) :
    (perform (.rerun number) session).2.forest = session.forest := by
  have spares (place : Nat) : Spares place (perform (.rerun number)) :=
    .bind (spares_find number) fun found =>
      .bind (fun _ => rfl) fun result => .bind (.act _) fun shown => .pure _
  exact Array.ext_getElem? fun place => spares place session

end Session

namespace SpecTree

/-- **Reruns.** Take a node of a tree, on the way to which all nodes have their listeners. The way
leads from a root down to the node, from parents to their children. A rerun makes the calls of
the nodes on this way in order: for each node the listeners before, in order of subscription,
then the step with what the step of the node before returned, which is nothing for the root,
and then the listeners after with what the step returned. Where all calls return, so does the
rerun, with the result of the last step. Otherwise it ends with the first call that raises an
error, and with this error. No tree of the session is changed. -/
theorem rerun_makesCalls [ObjectModel] {tree : SpecTree} {address : Address} {node : ActionNode}
    (known : tree.root.nodeAt? address = some node)
    (hooked : ∀ entry ∈ tree.trail address, tree.lacks entry.1 .hooks = false)
    (place : Nat) (bench : Bench) :
    let way := tree.trail address
    tree.IsWay place address node way ∧
      (∀ results, (tree.callsAlong way .null results).filterMap NodeCall.step? =
        way.zip (.null :: results)) ∧
      ((∃ value later, tree.rerun address bench = (.returned value, later) ∧
          tree.Completes way .null bench value (later.withHistory bench.history)) ∨
        ∃ error later, tree.rerun address bench = (.raised error, later) ∧
          tree.StopsWith way .null bench error (later.withHistory bench.history)) ∧
      ∀ session number,
        (Session.perform (.rerun number) session).2.forest = session.forest := by
  intro way
  refine ⟨isWay_trail known place, tree.filterMap_callsAlong way .null, ?_, ?_⟩
  · exact executeAlong_cases hooked .null bench
  · intro session number
    exact Session.forest_perform_rerun number session

/-- A node that tells how often the clock was moved, itself included. -/
def countingNode (word : String) : ActionNode where
  description := .text word
  step := fun _ _ => do
    Effect.modify (World.tick 1)
    let now ← Effect.read World.clock
    pure (.integer now)
  variant := .group

/-- Three nodes one below the other, with a listener that refuses the result two. -/
def refusedTree : SpecTree where
  root :=
    .node (countingNode "first") [.node (countingNode "second") [.single (countingNode "third")]]
  listeners :=
    { before := [.code fun _ => pure (), .timed 0 debugLevel]
      after :=
        [.code fun _ result =>
          match result with
          | .integer 2 => Action.raiseNew (.host "ValueError") []
          | _ => pure ()] }

/-- A rerun of the third node stops behind the step of the second one. -/
theorem rerun_makesCalls_of_refused_result :
    let way := refusedTree.trail [0, 0]
    refusedTree.root.nodeAt? [0, 0] = some (countingNode "third") ∧
      (∀ entry ∈ way, refusedTree.lacks entry.1 .hooks = false) ∧
      refusedTree.IsWay 0 [0, 0] (countingNode "third") way ∧
        ∃ error later, refusedTree.rerun [0, 0] {} = (.raised error, later) ∧
          refusedTree.StopsWith way .null {} error (later.withHistory #[]) := by
  intro way
  have known : refusedTree.root.nodeAt? [0, 0] = some (countingNode "third") := rfl
  have hooked : ∀ entry ∈ way, refusedTree.lacks entry.1 .hooks = false := fun _ _ => rfl
  have refused : (refusedTree.rerun [0, 0] {}).1.isReturned = false := by decide +kernel
  obtain ⟨isWay, -, ended, -⟩ := rerun_makesCalls known hooked 0 {}
  refine ⟨known, hooked, isWay, ?_⟩
  rcases ended with ⟨value, later, returned, -⟩ | stopped
  · rw [returned] at refused
    cases refused
  · exact stopped

end SpecTree

end DeferredSpec
