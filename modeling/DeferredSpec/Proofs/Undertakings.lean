/-
# What effects undertake

An effect on a bench, or on a rig with a bench, only ever adds to the history. What it adds
is told here by two things: which nodes it executes at all, and which of them it has executed
with success once it returns. Both add up along a sequence of effects, so what a retried
step undertakes follows from what an execution undertakes, for any delay whatsoever.
-/

import DeferredSpec.Proofs.Histories
import DeferredSpec.Proofs.Nodes
import DeferredSpec.Retry.Engine
import DeferredSpec.Suite.Rig

namespace DeferredSpec

/-- A state that holds a history. -/
class Chronicle (σ : Type) where
  history : σ → Array Happening

instance : Chronicle Bench := ⟨Bench.history⟩

instance {ρ : Type} : Chronicle (Rig ρ) := ⟨fun rig => rig.bench.history⟩

/-- The node at an address was executed in a part of a history. -/
def Touches (segment : Array Happening) (address : Address) : Prop :=
  ∃ previous outcome, .executed address previous outcome ∈ segment

/-- The node at an address was executed with success in a part of a history. -/
def Completes (segment : Array Happening) (address : Address) : Prop :=
  ∃ previous value, .executed address previous (.returned value) ∈ segment

theorem Touches.of_completes {segment : Array Happening} {address : Address}
    (completes : Completes segment address) : Touches segment address := by
  obtain ⟨previous, value, member⟩ := completes
  exact ⟨previous, .returned value, member⟩

theorem touches_append {first second : Array Happening} {address : Address} :
    Touches (first ++ second) address ↔ Touches first address ∨ Touches second address := by
  constructor
  · rintro ⟨previous, outcome, member⟩
    rcases Array.mem_append.mp member with early | late
    · exact .inl ⟨previous, outcome, early⟩
    · exact .inr ⟨previous, outcome, late⟩
  · rintro (⟨previous, outcome, member⟩ | ⟨previous, outcome, member⟩)
    · exact ⟨previous, outcome, Array.mem_append_left second member⟩
    · exact ⟨previous, outcome, Array.mem_append_right first member⟩

theorem completes_append {first second : Array Happening} {address : Address} :
    Completes (first ++ second) address ↔ Completes first address ∨ Completes second address := by
  constructor
  · rintro ⟨previous, value, member⟩
    rcases Array.mem_append.mp member with early | late
    · exact .inl ⟨previous, value, early⟩
    · exact .inr ⟨previous, value, late⟩
  · rintro (⟨previous, value, member⟩ | ⟨previous, value, member⟩)
    · exact ⟨previous, value, Array.mem_append_left second member⟩
    · exact ⟨previous, value, Array.mem_append_right first member⟩

/-- Whether what happened is no execution of a node. -/
def Happening.isApart (address : Address) : Happening → Bool
  | .executed other _ _ => other != address
  | .delayed => true

/-- A node of which there is no execution in a part of a history has no success there. -/
theorem not_completes_of_all {segment : Array Happening} {address : Address}
    (skipped : segment.all (Happening.isApart address)) : ¬ Completes segment address := by
  rintro ⟨previous, value, member⟩
  rw [Array.all_eq_true_iff_forall_mem] at skipped
  have apart := skipped _ member
  simp [Happening.isApart] at apart

namespace Effect

variable {σ α β : Type} [Chronicle σ] {allowed : Address → Prop}

/-- An effect adds to the history executions of allowed nodes alone and, if it returns,
successful executions of all its goals, which may depend on what it returns. -/
def Undertakes (allowed : Address → Prop) (goals : α → Address → Prop) (effect : Effect σ α) :
    Prop :=
  ∀ state, ∃ segment : Array Happening,
    Chronicle.history (effect state).2 = Chronicle.history state ++ segment ∧
    (∀ address, Touches segment address → allowed address) ∧
    ∀ value, (effect state).1 = .returned value →
      ∀ address, goals value address → Completes segment address

namespace Undertakes

/-- What leaves the history as it is undertakes nothing. -/
theorem of_quiet {effect : Effect σ α}
    (quiet : ∀ state, Chronicle.history (effect state).2 = Chronicle.history state) :
    effect.Undertakes allowed fun _ _ => False := by
  intro state
  refine ⟨#[], ?_, ?_, fun _ _ _ => False.elim⟩
  · rw [quiet, Array.append_empty]
  · rintro address ⟨previous, outcome, member⟩
    cases member.val

/-- What always raises may have any goals. -/
theorem of_raised {goals : α → Address → Prop} {effect : Effect σ α}
    (undertakes : effect.Undertakes allowed fun _ _ => False)
    (raises : ∀ state, ∃ error, (effect state).1 = .raised error) :
    effect.Undertakes allowed goals := by
  intro state
  obtain ⟨segment, grows, within, _⟩ := undertakes state
  refine ⟨segment, grows, within, fun value returned => ?_⟩
  obtain ⟨error, raised⟩ := raises state
  rw [raised] at returned
  cases returned

protected theorem raise {goals : α → Address → Prop} (error : ErrorRef) :
    (raise error : Effect σ α).Undertakes allowed goals :=
  of_raised (of_quiet fun _ => rfl) fun _ => ⟨error, rfl⟩

protected theorem pure {goals : α → Address → Prop} (value : α)
    (none : ∀ address, ¬ goals value address) :
    (pure value : Effect σ α).Undertakes allowed goals := by
  intro state
  refine ⟨#[], (Array.append_empty).symm, ?_, ?_⟩
  · rintro address ⟨previous, outcome, member⟩
    cases member.val
  · intro returned ended address goal
    cases ended
    exact absurd goal (none address)

/-- Goals may be dropped. -/
theorem imp {goals fewer : α → Address → Prop} {effect : Effect σ α}
    (undertakes : effect.Undertakes allowed goals)
    (dropped : ∀ value address, fewer value address → goals value address) :
    effect.Undertakes allowed fewer := by
  intro state
  obtain ⟨segment, grows, within, complete⟩ := undertakes state
  exact ⟨segment, grows, within,
    fun value ended address goal => complete value ended address (dropped value address goal)⟩

/-- More nodes may be allowed. -/
theorem allow {wider : Address → Prop} {goals : α → Address → Prop} {effect : Effect σ α}
    (undertakes : effect.Undertakes allowed goals) (wide : ∀ address, allowed address → wider address) :
    effect.Undertakes wider goals := by
  intro state
  obtain ⟨segment, grows, within, complete⟩ := undertakes state
  exact ⟨segment, grows, fun address touched => wide address (within address touched), complete⟩

/-- A sequence has the goals of both of its parts. -/
protected theorem bind {early : α → Address → Prop} (late : α → β → Address → Prop)
    {goals : β → Address → Prop} {first : Effect σ α} {next : α → Effect σ β}
    (start : first.Undertakes allowed early)
    (further : ∀ found, (next found).Undertakes allowed (late found))
    (shared : ∀ found value address, goals value address →
      early found address ∨ late found value address) :
    (first >>= next).Undertakes allowed goals := by
  intro state
  obtain ⟨segment, grows, within, complete⟩ := start state
  rw [Effect.bind_apply]
  rcases ended : first state with ⟨outcome, middle⟩
  rw [ended] at grows complete
  cases outcome with
  | raised error =>
      refine ⟨segment, grows, within, ?_⟩
      intro value returned
      cases returned
  | returned found =>
      obtain ⟨rest, growsOn, withinRest, completeRest⟩ := further found middle
      refine ⟨segment ++ rest, ?_, ?_, ?_⟩
      · rw [growsOn, grows, Array.append_assoc]
      · intro address touched
        rcases touches_append.mp touched with touched | touched
        · exact within address touched
        · exact withinRest address touched
      · intro value returned address goal
        rcases shared found value address goal with goal | goal
        · exact completes_append.mpr (.inl (complete found rfl address goal))
        · exact completes_append.mpr (.inr (completeRest value returned address goal))

/-- Before an effect, anything quiet may happen. -/
theorem after {early : α → Address → Prop} {goals : β → Address → Prop} {first : Effect σ α}
    {next : α → Effect σ β} (start : first.Undertakes allowed early)
    (further : ∀ found, (next found).Undertakes allowed goals) :
    (first >>= next).Undertakes allowed goals :=
  start.bind _ further fun _ _ _ goal => .inr goal

/-- An attempt has its goals reached if what it attempts returned. -/
protected theorem attempt {goals : α → Address → Prop} {effect : Effect σ α}
    (undertakes : effect.Undertakes allowed goals) :
    effect.attempt.Undertakes allowed fun outcome address =>
      ∃ value, outcome = .returned value ∧ goals value address := by
  intro state
  obtain ⟨segment, grows, within, complete⟩ := undertakes state
  refine ⟨segment, grows, within, ?_⟩
  rintro outcome ended address ⟨value, same, goal⟩
  rw [Effect.attempt_apply] at ended
  exact complete value ((Outcome.returned.inj ended).trans same) address goal

end Undertakes

end Effect

namespace Execution

variable {α : Type} {allowed : Address → Prop}

/-- Capturing has the goals reached if what is captured returned. -/
theorem undertakes_capture {goals : α → Address → Prop} {execution : Execution α}
    (undertakes : execution.Undertakes allowed goals) :
    execution.capture.Undertakes allowed fun outcome address =>
      ∃ value, outcome = .returned value ∧ goals value address := by
  intro bench
  obtain ⟨segment, grows, within, complete⟩ := undertakes bench
  rw [capture_apply]
  rcases ended : execution bench with ⟨outcome, later⟩
  rw [ended] at grows complete
  cases outcome with
  | returned value =>
      refine ⟨segment, grows, within, ?_⟩
      rintro captured same address ⟨found, returned, goal⟩
      cases same
      exact complete found returned address goal
  | raised error =>
      -- whether the error is caught or not, nothing was returned
      cases ordinary : later.world.isOrdinary error with
      | true =>
          simp only [ordinary, if_true]
          refine ⟨segment, grows, within, ?_⟩
          rintro captured same address ⟨found, rfl, goal⟩
          cases same
      | false =>
          simp only [ordinary, Bool.false_eq_true, if_false]
          refine ⟨segment, grows, within, ?_⟩
          intro captured same
          cases same

theorem undertakes_ofAction (action : Action α) :
    (ofAction action).Undertakes allowed fun _ _ => False :=
  .of_quiet fun _ => rfl

end Execution

namespace SpecTree

variable {tree : SpecTree} {address : Address}

theorem undertakes_execute (tree : SpecTree) (address : Address) (node : ActionNode)
    (previous : Value) :
    (tree.execute address node previous).Undertakes (· = address)
      fun _ executed => executed = address := by
  intro bench
  refine ⟨#[.executed address previous (tree.execute address node previous bench).1], ?_, ?_, ?_⟩
  · exact (tree.execute_history address node previous bench).trans Array.push_eq_append
  · rintro other ⟨against, outcome, member⟩
    have same := Array.mem_singleton.mp member
    exact congrArg (fun | .executed at_ _ _ => at_ | .delayed => address) same
  · intro value returned other same
    exact ⟨previous, value, by rw [same, returned]; exact Array.mem_singleton.mpr rfl⟩

/-- Executing nodes in turn executes each of them. -/
theorem undertakes_executeAlong (tree : SpecTree) (trail : List (Address × ActionNode))
    (previous : Value) :
    (tree.executeAlong trail previous).Undertakes (· ∈ trail.map Prod.fst)
      fun _ executed => executed ∈ trail.map Prod.fst := by
  induction trail generalizing previous with
  | nil => exact .pure previous fun _ => List.not_mem_nil
  | cons entry rest ih =>
      rw [executeAlong]
      refine .bind _ ((tree.undertakes_execute entry.1 entry.2 previous).allow ?_)
        (fun result => (ih result).allow ?_) ?_
      · intro executed same
        exact same ▸ List.mem_cons_self
      · intro executed later
        exact List.mem_cons_of_mem entry.1 later
      · intro _ _ executed member
        exact List.mem_cons.mp member

/-- A rerun executes the node, and nothing but what lies on the way to it. -/
theorem undertakes_rerun (complete : tree.losses = [])
    (located : (tree.root.subtree? address).isSome) :
    (tree.rerun address).Undertakes (· <+: address) fun _ executed => executed = address := by
  rw [rerun, trail_of_losses_eq_nil complete]
  refine ((tree.undertakes_executeAlong (tree.root.trail address) .null).allow ?_).imp ?_
  · intro executed member
    obtain ⟨entry, there, rfl⟩ := List.mem_map.mp member
    exact ActionTree.prefix_of_mem_trailFrom [] there
  · rintro _ executed rfl
    obtain ⟨found, there⟩ := Option.isSome_iff_exists.mp located
    exact List.mem_map_of_mem (ActionTree.mem_trail (ActionTree.nodeAt?_of_subtree? there))

end SpecTree

section Retries

variable {α : Type} {allowed goals : Address → Prop}

/-- A delay that ends with the result of a run has run the retry to its end, whatever else
the delay did. -/
theorem Delay.undertakes_perform {retry : Execution α}
    (undertakes : retry.Undertakes allowed fun _ => goals) (delay : Delay) (latest : Option α) :
    (delay.perform retry latest).Undertakes allowed fun final address =>
      latest = none ∧ final.isSome ∧ goals address := by
  induction delay generalizing latest with
  | finish =>
      refine .pure latest ?_
      rintro address ⟨rfl, some, goal⟩
      cases some
  | act action next ih =>
      rw [perform]
      exact .after (Execution.undertakes_ofAction action) fun _ => ih latest
  | look next ih =>
      intro bench
      exact ih bench.world latest bench
  | callback next ih =>
      rw [perform]
      refine .bind (fun outcome final address =>
          outcome.isReturned = false ∧ latest = none ∧ final.isSome ∧ goals address)
        undertakes.attempt ?_ ?_
      · intro outcome
        cases outcome with
        | returned value =>
            refine (ih none (some value)).imp ?_
            rintro final address ⟨failed, _⟩
            cases failed
        | raised error =>
            refine (ih (some error) latest).imp ?_
            rintro final address ⟨_, fresh, some, goal⟩
            exact ⟨fresh, some, goal⟩
      · rintro outcome final address ⟨fresh, some, goal⟩
        cases outcome with
        | returned value => exact .inl ⟨value, rfl, goal⟩
        | raised error => exact .inr ⟨rfl, fresh, some, goal⟩

namespace RetryEngine

variable (engine : RetryEngine) {tree : SpecTree} {address : Address} (node : ActionNode)
  (previous : Value)

/-- Calling a delay goes down in the history, but executes nothing. -/
theorem undertakes_delayed :
    (Effect.modify (Bench.happened .delayed)).Undertakes allowed fun _ _ => False := by
  intro bench
  refine ⟨#[.delayed], Array.push_eq_append, ?_, fun _ _ _ => False.elim⟩
  rintro address ⟨previous, outcome, member⟩
  cases Array.mem_singleton.mp member

theorem undertakes_attemptRetry (complete : tree.losses = [])
    (located : (tree.root.subtree? address).isSome) :
    (engine.attemptRetry tree address).Undertakes (· <+: address)
      fun _ executed => executed = address := by
  rw [attemptRetry]
  refine .after undertakes_delayed fun _ => ?_
  refine .bind (fun latest _ executed => latest = none ∧ executed = address)
    (engine.delay.undertakes_perform (SpecTree.undertakes_rerun complete located) none) ?_ ?_
  · intro latest
    cases latest with
    | some value =>
        refine .pure value ?_
        rintro executed ⟨⟨⟩, _⟩
    | none => exact .of_raised (Execution.undertakes_ofAction _) fun _ => ⟨_, rfl⟩
  · rintro latest _ executed same
    cases latest with
    | some value => exact .inl ⟨rfl, rfl, same⟩
    | none => exact .inr ⟨rfl, same⟩

theorem undertakes_retryFrom (complete : tree.losses = [])
    (located : (tree.root.subtree? address).isSome) (remaining number : Nat) (error : ErrorRef) :
    (engine.retryFrom tree address node remaining number (.raised error)).Undertakes
      (· <+: address) fun outcome executed => outcome.isReturned ∧ executed = address := by
  induction remaining generalizing number error with
  | zero =>
      refine .pure (Outcome.raised error) ?_
      rintro executed ⟨⟨⟩, _⟩
  | succ remaining ih =>
      rw [retryFrom]
      refine .after (Execution.undertakes_ofAction _) fun _ => ?_
      refine .bind (fun found outcome executed =>
          found.isReturned = false ∧ outcome.isReturned ∧ executed = address)
        (Execution.undertakes_capture (engine.undertakes_attemptRetry complete located)) ?_ ?_
      · intro found
        cases found with
        | returned value =>
            refine .after (Execution.undertakes_ofAction _) fun label => ?_
            refine .after (Execution.undertakes_ofAction _) fun _ => ?_
            refine .pure _ ?_
            rintro executed ⟨⟨⟩, _⟩
        | raised latest =>
            refine .after (Execution.undertakes_ofAction _) fun kind => ?_
            cases kind with
            | other =>
                refine .after (Execution.undertakes_ofAction _) fun _ => ?_
                refine .pure _ ?_
                rintro executed ⟨_, ⟨⟩, _⟩
            | assertion =>
                refine (ih (number + 1) latest).imp ?_
                rintro outcome executed ⟨_, returned, same⟩
                exact ⟨returned, same⟩
      · rintro found outcome executed ⟨returned, same⟩
        cases found with
        | returned value => exact .inl ⟨value, rfl, same⟩
        | raised latest => exact .inr ⟨rfl, returned, same⟩

theorem undertakes_finish {goals : Value → Address → Prop} (error : ErrorRef) :
    (finish (.raised error)).Undertakes allowed goals :=
  .after (Execution.undertakes_ofAction _) fun final => .raise final

/-- A run executes nothing but the node and what lies on the way to it, and once it
returns, the node was executed with success. -/
theorem undertakes_run (complete : tree.losses = [])
    (located : (tree.root.subtree? address).isSome) :
    (engine.run tree address node previous).Undertakes (· <+: address)
      fun _ executed => executed = address := by
  have itself : ∀ executed, executed = address → executed <+: address :=
    fun _ same => same ▸ List.prefix_rfl
  rw [run]
  refine .bind (fun found _ executed => found.isReturned = false ∧ executed = address)
    (Execution.undertakes_capture
      ((tree.undertakes_execute address node previous).allow itself)) ?_ ?_
  · intro found
    cases found with
    | returned value =>
        refine .pure value ?_
        rintro executed ⟨⟨⟩, _⟩
    | raised first =>
        refine .after (Execution.undertakes_ofAction _) fun retries => ?_
        cases retries with
        | false => exact undertakes_finish first
        | true =>
            refine .bind (fun last _ executed => last.isReturned = false ∧ executed = address)
              (engine.undertakes_retryFrom node complete located engine.maxRetries 1 first) ?_ ?_
            · intro last
              cases last with
              | returned value =>
                  refine .pure value ?_
                  rintro executed ⟨⟨⟩, _⟩
              | raised error =>
                  refine .after (Execution.undertakes_ofAction _) fun kind => ?_
                  cases kind with
                  | assertion => exact undertakes_finish error
                  | other =>
                      exact .after (Execution.undertakes_ofAction _) fun _ => .raise error
            · rintro last _ executed ⟨_, same⟩
              cases last with
              | returned value => exact .inl ⟨rfl, same⟩
              | raised error => exact .inr ⟨rfl, same⟩
  · rintro found _ executed same
    cases found with
    | returned value => exact .inl ⟨value, rfl, same⟩
    | raised error => exact .inr ⟨rfl, same⟩

end RetryEngine

end Retries

end DeferredSpec
