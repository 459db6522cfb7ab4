/-
# Effects that end alike

Two effects that begin in related states may end alike: both return, with related values, or
both raise the same error, and the states that they leave are related again. This is kept by
sequencing and by going through related lists, so that a program need be compared with another
one only where the two differ.
-/

import DeferredSpec.World.Effect
import Mathlib.Data.List.Forall2

namespace DeferredSpec

variable {α β γ δ ι κ σ τ : Type}

/-- Both outcomes are related values, or both are the same error. -/
inductive Outcome.Pairs (values : α → β → Prop) : Outcome α → Outcome β → Prop
  | returned {value : α} {other : β} (alike : values value other) :
      Pairs values (.returned value) (.returned other)
  | raised (error : ErrorRef) : Pairs values (.raised error) (.raised error)

namespace Outcome.Pairs

variable {values : α → β → Prop} {first : Outcome α} {second : Outcome β}

theorem of_eq {outcome other : Outcome α} (same : outcome = other) : Pairs Eq outcome other := by
  subst same
  cases outcome with
  | returned value => exact .returned rfl
  | raised error => exact .raised error

theorem eq {outcome other : Outcome α} (pairs : Pairs Eq outcome other) : outcome = other := by
  cases pairs with
  | returned alike => rw [alike]
  | raised error => rfl

end Outcome.Pairs

namespace Effect

/-- Begun in related states, both effects end alike and leave related states. -/
def Echoes (states : σ → τ → Prop) (values : α → β → Prop) (first : Effect σ α)
    (second : Effect τ β) : Prop :=
  ∀ state other, states state other →
    (first state).1.Pairs values (second other).1 ∧ states (first state).2 (second other).2

namespace Echoes

variable {states : σ → τ → Prop} {values : α → β → Prop} {results : γ → δ → Prop}

protected theorem pure {value : α} {other : β} (alike : values value other) :
    Echoes states values (pure value) (pure other) :=
  fun _ _ related => ⟨.returned alike, related⟩

protected theorem raise (error : ErrorRef) :
    Echoes states values (Effect.raise error) (Effect.raise error) :=
  fun _ _ related => ⟨.raised error, related⟩

protected theorem bind {first : Effect σ α} {second : Effect τ β} {next : α → Effect σ γ}
    {further : β → Effect τ δ} (echoes : Echoes states values first second)
    (after : ∀ {value other}, values value other →
      Echoes states results (next value) (further other)) :
    Echoes states results (first >>= next) (second >>= further) := by
  intro state other related
  obtain ⟨pairs, left⟩ := echoes state other related
  rw [bind_apply, bind_apply]
  generalize first state = ended, second other = finished at pairs left ⊢
  rcases ended with ⟨outcome, later⟩
  rcases finished with ⟨conclusion, rest⟩
  cases pairs with
  | returned alike => exact after alike later rest left
  | raised error => exact ⟨.raised error, left⟩

/-- What follows the same value need be compared for that value alone. -/
protected theorem bind_eq {first : Effect σ α} {second : Effect τ α} {next : α → Effect σ γ}
    {further : α → Effect τ δ} (echoes : Echoes states Eq first second)
    (after : ∀ value, Echoes states results (next value) (further value)) :
    Echoes states results (first >>= next) (second >>= further) :=
  echoes.bind fun same => by
    subst same
    exact after _

protected theorem attempt {first : Effect σ α} {second : Effect τ β}
    (echoes : Echoes states values first second) :
    Echoes states (Outcome.Pairs values) first.attempt second.attempt := by
  intro state other related
  obtain ⟨pairs, left⟩ := echoes state other related
  exact ⟨.returned pairs, left⟩

protected theorem ofOutcome {outcome : Outcome α} {other : Outcome β}
    (pairs : outcome.Pairs values other) :
    Echoes states values (Effect.ofOutcome outcome) (Effect.ofOutcome other) :=
  fun _ _ related => ⟨pairs, related⟩

protected theorem read {view : σ → α} {display : τ → β}
    (alike : ∀ {state other}, states state other → values (view state) (display other)) :
    Echoes states values (Effect.read view) (Effect.read display) :=
  fun _ _ related => ⟨.returned (alike related), related⟩

protected theorem modify {change : σ → σ} {alter : τ → τ}
    (keeps : ∀ {state other}, states state other → states (change state) (alter other)) :
    Echoes states Eq (Effect.modify change) (Effect.modify alter) :=
  fun _ _ related => ⟨.returned rfl, keeps related⟩

protected theorem mono {wider : α → β → Prop} {first : Effect σ α} {second : Effect τ β}
    (echoes : Echoes states values first second)
    (weaker : ∀ {value other}, values value other → wider value other) :
    Echoes states wider first second := by
  intro state other related
  obtain ⟨pairs, left⟩ := echoes state other related
  refine ⟨?_, left⟩
  generalize (first state).1 = outcome, (second other).1 = conclusion at pairs ⊢
  cases pairs with
  | returned alike => exact .returned (weaker alike)
  | raised error => exact .raised error

/-- What the first of the effects keeps can be relied on. -/
protected theorem keeping {holds : σ → Prop} {first : Effect σ α} {second : Effect τ β}
    (echoes : Echoes states values first second)
    (keeps : ∀ state, holds state → holds (first state).2) :
    Echoes (fun state other => states state other ∧ holds state) values first second := by
  rintro state other ⟨related, held⟩
  obtain ⟨pairs, left⟩ := echoes state other related
  exact ⟨pairs, left, keeps state held⟩

variable {items : ι → κ → Prop}

protected theorem forEach {action : ι → Effect σ Unit} {reaction : κ → Effect τ Unit}
    (each : ∀ {item other}, items item other → Echoes states Eq (action item) (reaction other))
    {list : List ι} {others : List κ} (alike : List.Forall₂ items list others) :
    Echoes states Eq (Effect.forEach action list) (Effect.forEach reaction others) := by
  induction alike with
  | nil => exact .pure rfl
  | cons head _ ih => exact (each head).bind_eq fun _ => ih

protected theorem collect {action : ι → Effect σ α} {reaction : κ → Effect τ β}
    (each : ∀ {item other}, items item other →
      Echoes states values (action item) (reaction other))
    {list : List ι} {others : List κ} (alike : List.Forall₂ items list others) :
    Echoes states (List.Forall₂ values) (Effect.collect action list)
      (Effect.collect reaction others) := by
  induction alike with
  | nil => exact .pure .nil
  | cons head _ ih =>
      exact (each head).bind fun first => ih.bind fun rest => .pure (.cons first rest)

end Echoes

end Effect

end DeferredSpec
