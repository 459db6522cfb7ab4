/-
# Outcomes and effects

An effect changes a state and ends in an outcome: a returned value or a raised
error. The state survives a raise, so whatever happened before an error stays
visible. Attempting an effect turns its outcome into an ordinary result.
-/

import DeferredSpec.Value.Basic

namespace DeferredSpec

/-- How a step ends. -/
inductive Outcome (α : Type)
  | returned (value : α)
  | raised (error : ErrorRef)
  deriving DecidableEq, Repr

namespace Outcome

variable {α β : Type}

/-- Whether a value was returned. -/
def isReturned : Outcome α → Bool
  | .returned _ => true
  | .raised _ => false

/-- Apply a function to a returned value. -/
def map (f : α → β) : Outcome α → Outcome β
  | .returned value => .returned (f value)
  | .raised error => .raised error

/-- The raised error, if there is one. -/
def error? : Outcome α → Option ErrorRef
  | .returned _ => none
  | .raised error => some error

end Outcome

/-- A change of a state that ends in an outcome. -/
def Effect (σ α : Type) : Type := σ → Outcome α × σ

namespace Effect

variable {σ τ α β : Type}

/-- Return a value and leave the state alone. -/
protected def pure (value : α) : Effect σ α := fun state => (.returned value, state)

/-- Run one effect after another; an error ends the sequence. -/
protected def bind (first : Effect σ α) (next : α → Effect σ β) : Effect σ β := fun state =>
  match first state with
  | (.returned value, later) => next value later
  | (.raised error, later) => (.raised error, later)

instance : Monad (Effect σ) where
  pure := Effect.pure
  bind := Effect.bind

/-- Raise an error. -/
def raise (error : ErrorRef) : Effect σ α := fun state => (.raised error, state)

/-- Run an effect and return its outcome. -/
def attempt (effect : Effect σ α) : Effect σ (Outcome α) := fun state =>
  match effect state with
  | (outcome, later) => (.returned outcome, later)

/-- End with an outcome. -/
def ofOutcome (outcome : Outcome α) : Effect σ α := fun state => (outcome, state)

/-- The current state. -/
def get : Effect σ σ := fun state => (.returned state, state)

/-- Change the state. -/
def modify (change : σ → σ) : Effect σ Unit := fun state => (.returned (), change state)

/-- Read something off the state. -/
def read (view : σ → α) : Effect σ α := fun state => (.returned (view state), state)

/-- Compute a value together with the next state. -/
def update (change : σ → α × σ) : Effect σ α := fun state =>
  match change state with
  | (value, later) => (.returned value, later)

/-- Put a part back into a state that was left without it. -/
@[noinline]
def putBack (replace : σ → τ → τ) (rest : τ) (ended : Outcome α × σ) : Outcome α × τ :=
  (ended.1, replace ended.2 rest)

/-- Run an effect on a part of a larger state. The part is taken out meanwhile, so that
nothing but the effect holds it and it is changed in place. -/
def zoom [Inhabited σ] (part : τ → σ) (replace : σ → τ → τ) (effect : Effect σ α) :
    Effect τ α := fun state =>
  let inner := part state
  let rest := replace default state
  let ended := effect inner
  putBack replace rest ended

/-- Run an effect for each member of a list, in order. -/
def forEach (action : α → Effect σ Unit) : List α → Effect σ Unit
  | [] => Effect.pure ()
  | item :: items => Effect.bind (action item) fun _ => forEach action items

/-- Run an effect for each member of a list and collect what they return. -/
def collect (action : α → Effect σ β) : List α → Effect σ (List β)
  | [] => Effect.pure []
  | item :: items =>
      Effect.bind (action item) fun first =>
        Effect.bind (collect action items) fun rest => Effect.pure (first :: rest)

@[simp] theorem pure_apply (value : α) (state : σ) :
    (pure value : Effect σ α) state = (.returned value, state) := rfl

@[simp] theorem bind_apply (first : Effect σ α) (next : α → Effect σ β) (state : σ) :
    (first >>= next) state =
      match first state with
      | (.returned value, later) => next value later
      | (.raised error, later) => (.raised error, later) := rfl

/-- A sequence returns when both of its parts do. -/
theorem bind_eq_returned_iff {first : Effect σ α} {next : α → Effect σ β} {state later : σ}
    {value : β} :
    (first >>= next) state = (.returned value, later) ↔
      ∃ found middle, first state = (.returned found, middle) ∧
        next found middle = (.returned value, later) := by
  rw [bind_apply]
  rcases first state with ⟨outcome, middle⟩
  cases outcome with
  | returned found =>
      constructor
      · intro ended
        exact ⟨found, middle, rfl, ended⟩
      · rintro ⟨_, _, ⟨⟩, ended⟩
        exact ended
  | raised error => simp

/-- What an effect comes to, given its outcome. -/
theorem apply_of_outcome {effect : Effect σ α} {state : σ} {outcome : Outcome α}
    (ended : (effect state).1 = outcome) : effect state = (outcome, (effect state).2) := by
  rw [← ended]

@[simp] theorem raise_apply (error : ErrorRef) (state : σ) :
    (raise error : Effect σ α) state = (.raised error, state) := rfl

@[simp] theorem attempt_apply (effect : Effect σ α) (state : σ) :
    effect.attempt state = (.returned (effect state).1, (effect state).2) := rfl

@[simp] theorem ofOutcome_apply (outcome : Outcome α) (state : σ) :
    (ofOutcome outcome : Effect σ α) state = (outcome, state) := rfl

@[simp] theorem modify_apply (change : σ → σ) (state : σ) :
    modify change state = (.returned (), change state) := rfl

@[simp] theorem read_apply (view : σ → α) (state : σ) :
    read view state = (.returned (view state), state) := rfl

@[simp] theorem update_apply (change : σ → α × σ) (state : σ) :
    update change state = (.returned (change state).1, (change state).2) := rfl

@[simp] theorem forEach_nil (action : α → Effect σ Unit) : forEach action [] = pure () := rfl

@[simp] theorem forEach_cons (action : α → Effect σ Unit) (item : α) (items : List α) :
    forEach action (item :: items) = action item >>= fun _ => forEach action items := rfl

@[simp] theorem collect_nil (action : α → Effect σ β) : collect action [] = pure [] := rfl

@[simp] theorem collect_cons (action : α → Effect σ β) (item : α) (items : List α) :
    collect action (item :: items) =
      action item >>= fun first => collect action items >>= fun rest => pure (first :: rest) := rfl

instance : LawfulMonad (Effect σ) := LawfulMonad.mk' (Effect σ)
  (by
    intro α effect
    funext state
    show (match effect state with
      | (.returned value, later) => (Outcome.returned (id value), later)
      | (.raised error, later) => (.raised error, later)) = effect state
    rcases effect state with ⟨outcome, later⟩
    cases outcome <;> rfl)
  (by
    intros
    rfl)
  (by
    intro α β γ first second third
    funext state
    show Effect.bind (Effect.bind first second) third state =
      Effect.bind first (fun value => Effect.bind (second value) third) state
    unfold Effect.bind
    rcases first state with ⟨outcome, later⟩
    cases outcome <;> rfl)

theorem forEach_append (action : α → Effect σ Unit) (first second : List α) :
    forEach action (first ++ second) =
      forEach action first >>= fun _ => forEach action second := by
  induction first with
  | nil => rfl
  | cons item items ih => simp [ih]

theorem forEach_singleton (action : α → Effect σ Unit) (item : α) :
    forEach action [item] = action item := by
  rw [forEach_cons, forEach_nil]
  exact bind_pure (action item)

theorem collect_append (action : α → Effect σ β) (first second : List α) :
    collect action (first ++ second) =
      collect action first >>= fun front =>
        collect action second >>= fun back => pure (front ++ back) := by
  induction first with
  | nil => simp
  | cons item items ih => simp [ih]

end Effect

end DeferredSpec
