/-
# The calls of an execution as they are made

The calls that an execution makes are known from the result of its step, and they are made as far
as the first one that raises an error. Here each of them is kept together with the bench on which
it is made, so that one can ask for the clock, the log and the stopwatches at that moment.
-/

import DeferredSpec.Proofs.Episodes
import DeferredSpec.Proofs.Reruns

namespace DeferredSpec

/-- A member of two lists in a row is a member of the first, or of the second behind the first. -/
theorem split_append_cases {α : Type} {first second front rest : List α} {item : α}
    (split : first ++ second = front ++ item :: rest) :
    (∃ own, first = front ++ item :: own) ∨
      ∃ further, front = first ++ further ∧ second = further ++ item :: rest := by
  rcases List.append_eq_append_iff.mp split with ⟨further, same, onward⟩ | ⟨own, same, onward⟩
  · exact .inr ⟨further, same, onward⟩
  · rcases List.cons_eq_append_iff.mp onward with ⟨rfl, behind⟩ | ⟨later, rfl, _⟩
    · exact .inr ⟨[], by rw [same, List.append_nil, List.append_nil], behind⟩
    · exact .inl ⟨later, same⟩

namespace NodeCall

/-- The calls among several that are made when they are made one after another, each with the
bench on which it is made. The first that raises an error is the last. -/
def trace : List NodeCall → Bench → List (NodeCall × Bench)
  | [], _ => []
  | call :: calls, bench =>
      (call, bench) ::
        match call.make bench with
        | (.returned _, later) => trace calls later
        | (.raised _, _) => []

variable {calls front rest : List NodeCall} {call : NodeCall} {bench later : Bench}
  {results : List Value}

theorem trace_append (made : makeAll front bench = (.returned results, later))
    (rest : List NodeCall) : trace (front ++ rest) bench = trace front bench ++ trace rest later := by
  induction front generalizing bench results with
  | nil =>
      cases made
      rfl
  | cons call front ih =>
      obtain ⟨result, middle, first, onward⟩ := Effect.bind_eq_returned_iff.mp made
      obtain ⟨further, last, others, finished⟩ := Effect.bind_eq_returned_iff.mp onward
      cases finished
      simp only [List.cons_append, trace, first, ih others]

/-- The calls that are made are the first ones. -/
theorem map_fst_trace (calls : List NodeCall) (bench : Bench) :
    (trace calls bench).map Prod.fst <+: calls := by
  induction calls generalizing bench with
  | nil => exact List.prefix_rfl
  | cons call calls ih =>
      rw [trace, List.map_cons, List.prefix_cons_inj]
      rcases call.make bench with ⟨outcome, later⟩
      cases outcome with
      | returned result => exact ih later
      | raised error => exact List.nil_prefix

/-- A call is made on the bench that the calls before it leave, all of which have returned. -/
theorem exists_of_trace {past future : List (NodeCall × Bench)}
    (split : trace calls bench = past ++ (call, later) :: future) :
    ∃ front rest results, calls = front ++ call :: rest ∧
      makeAll front bench = (.returned results, later) ∧ past = trace front bench := by
  induction past generalizing calls bench with
  | nil =>
      cases calls with
      | nil => cases split
      | cons head calls =>
          cases (List.cons.inj split).1
          exact ⟨[], calls, [], rfl, rfl, rfl⟩
  | cons entry past ih =>
      cases calls with
      | nil => cases split
      | cons head calls =>
          obtain ⟨rfl, onward⟩ := List.cons.inj split
          rcases made : head.make bench with ⟨outcome, middle⟩
          rw [made] at onward
          cases outcome with
          | raised error => exact absurd onward.symm (List.append_ne_nil_of_right_ne_nil _ (by simp))
          | returned result =>
              obtain ⟨front, rest, results, rfl, before, same⟩ := ih onward
              refine ⟨head :: front, rest, result.toList ++ results, rfl, ?_, ?_⟩
              · simp only [makeAll, Effect.bind_apply, made, before]
                rfl
              · simp only [trace, made, ← same]

/-- All calls return just if those before one of them return, it returns, and so do those behind
it. -/
theorem exists_makeAll_returned_iff :
    (∃ results, makeAll (front ++ call :: rest) bench = (.returned results, later)) ↔
      ∃ before middle result after others, makeAll front bench = (.returned before, middle) ∧
        call.make middle = (.returned result, after) ∧
          makeAll rest after = (.returned others, later) := by
  rw [makeAll_append]
  constructor
  · rintro ⟨results, made⟩
    obtain ⟨before, middle, first, onward⟩ := Effect.bind_eq_returned_iff.mp made
    obtain ⟨further, last, second, finished⟩ := Effect.bind_eq_returned_iff.mp onward
    cases finished
    obtain ⟨result, after, here, behind⟩ := Effect.bind_eq_returned_iff.mp second
    obtain ⟨others, final, third, finished⟩ := Effect.bind_eq_returned_iff.mp behind
    cases finished
    exact ⟨before, middle, result, after, others, first, here, third⟩
  · rintro ⟨before, middle, result, after, others, first, here, third⟩
    refine ⟨before ++ (result.toList ++ others), Effect.bind_eq_returned_iff.mpr
      ⟨before, middle, first, Effect.bind_eq_returned_iff.mpr
        ⟨result.toList ++ others, later, ?_, rfl⟩⟩⟩
    exact Effect.bind_eq_returned_iff.mpr ⟨result, after, here,
      Effect.bind_eq_returned_iff.mpr ⟨others, later, third, rfl⟩⟩

end NodeCall

namespace Episode

open NodeCall

/-- The calls up to the step. -/
def opening (episode : Episode) : List NodeCall :=
  episode.whole.callsBefore episode.address episode.node ++
    [.stepped episode.address episode.node episode.previous]

/-- The calls behind the step, of which the result is known. -/
def closing (episode : Episode) (result : Value) : List NodeCall :=
  episode.whole.callsAfter episode.address episode.node result

/-- What the step has returned, if it was called and returned. -/
def result? (episode : Episode) : Option Value :=
  if episode.whole.lacks episode.address .hooks then none
  else
    match makeAll episode.opening episode.start with
    | (.returned results, _) => results.head?
    | (.raised _, _) => none

/-- The calls of the execution, as far as they are known: those behind the step are known once
the step has returned. A node that has lost its listeners makes no calls. -/
def calls (episode : Episode) : List NodeCall :=
  if episode.whole.lacks episode.address .hooks then []
  else
    match episode.result? with
    | none => episode.opening
    | some result => episode.opening ++ episode.closing result

/-- The calls that are made, each with the bench on which it is made. -/
def trace (episode : Episode) : List (NodeCall × Bench) :=
  NodeCall.trace episode.calls episode.start

variable {episode : Episode} {result : Value}

theorem calls_of_raised (hooked : episode.whole.lacks episode.address .hooks = false)
    {error : ErrorRef} {later : Bench}
    (raised : makeAll episode.opening episode.start = (.raised error, later)) :
    episode.calls = episode.opening := by
  simp [calls, result?, hooked, raised]

theorem result?_of_returned (hooked : episode.whole.lacks episode.address .hooks = false)
    {later : Bench} (returned : makeAll episode.opening episode.start = (.returned [result], later)) :
    episode.result? = some result := by
  simp [result?, hooked, returned]

theorem hooked_of_result? (known : episode.result? = some result) :
    episode.whole.lacks episode.address .hooks = false := by
  by_contra lost
  rw [Bool.not_eq_false] at lost
  rw [result?, if_pos lost] at known
  cases known

/-- A node that has lost its listeners is not executed. -/
theorem hooked_of_returned (returned : episode.outcome = .returned result) :
    episode.whole.lacks episode.address .hooks = false := by
  by_contra lost
  rw [Bool.not_eq_false] at lost
  have carried : (episode.whole.carryOut episode.address episode.node episode.previous
      episode.start).1 = .returned result := returned
  rw [SpecTree.carryOut, SpecTree.require, if_pos lost] at carried
  cases carried

theorem calls_of_result? (known : episode.result? = some result) :
    episode.calls = episode.opening ++ episode.closing result := by
  simp [calls, hooked_of_result? known, known]

/-- Up to the step, an execution ends with the first of its calls that raises an error. If none
does, it goes on behind the step. -/
theorem carryOut_cases (hooked : episode.whole.lacks episode.address .hooks = false) :
    (∃ error later, makeAll episode.opening episode.start = (.raised error, later) ∧
        episode.outcome = .raised error) ∨
      ∃ result later, makeAll episode.opening episode.start = (.returned [result], later) ∧
        episode.outcome =
          ((makeAll (episode.closing result) >>= fun _ => pure result) later).1 := by
  have carried : episode.outcome = (episode.whole.carryOut episode.address episode.node
      episode.previous episode.start).1 := rfl
  rw [SpecTree.carryOut_eq_makeAll hooked, Effect.bind_apply] at carried
  rw [opening, makeAll_append, Effect.bind_apply]
  rcases begun : makeAll (episode.whole.callsBefore episode.address episode.node) episode.start
    with ⟨outcome, told⟩
  rw [begun] at carried
  cases outcome with
  | raised error => exact .inl ⟨error, told, rfl, carried⟩
  | returned nothing =>
      obtain rfl := eq_nil_of_makeAll (fun _ => SpecTree.step?_of_mem_callsBefore) begun
      have stepped : makeAll [.stepped episode.address episode.node episode.previous] told =
          (Execution.ofAction (episode.node.step episode.node.arguments episode.previous) >>=
            fun result => pure [result]) told := by
        simp only [makeAll, make, bind_assoc, pure_bind, List.append_nil]
        rfl
      dsimp only at carried ⊢
      rw [Effect.bind_apply] at carried stepped
      rw [Effect.bind_apply, stepped]
      rcases ran : Execution.ofAction
        (episode.node.step episode.node.arguments episode.previous) told with ⟨outcome, later⟩
      rw [ran] at carried
      cases outcome with
      | raised error => exact .inl ⟨error, later, rfl, carried⟩
      | returned result => exact .inr ⟨result, later, rfl, carried⟩

/-- An execution makes its calls in order. If all of them return, it returns what its step has
returned, and otherwise it raises the error of the last one that is made. -/
theorem makeAll_calls (hooked : episode.whole.lacks episode.address .hooks = false) :
    (∃ result later, episode.result? = some result ∧
        makeAll episode.calls episode.start = (.returned [result], later) ∧
        episode.outcome = .returned result) ∨
      ∃ error later, makeAll episode.calls episode.start = (.raised error, later) ∧
        episode.outcome = .raised error := by
  rcases carryOut_cases hooked with ⟨error, later, opened, raised⟩ | ⟨result, stepped, opened, same⟩
  · rw [calls_of_raised hooked opened]
    exact .inr ⟨error, later, opened, raised⟩
  · have known := result?_of_returned hooked opened
    rw [calls_of_result? known, makeAll_append, Effect.bind_apply, opened]
    dsimp only
    rw [Effect.bind_apply] at same ⊢
    rcases closed : makeAll (episode.closing result) stepped with ⟨outcome, later⟩
    rw [closed] at same
    cases outcome with
    | raised error => exact .inr ⟨error, later, rfl, same⟩
    | returned others =>
        obtain rfl := eq_nil_of_makeAll (fun _ => SpecTree.step?_of_mem_callsAfter) closed
        exact .inl ⟨result, later, known, rfl, same⟩

end Episode

end DeferredSpec
