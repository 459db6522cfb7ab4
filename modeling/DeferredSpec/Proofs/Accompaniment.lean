/-
# Runs with a step in between

A run can do what another one does and execute one more node in between, which hands on what it
is given each time. Their histories then are the same but for the executions of that node, under
addresses that make room for it. Benches of such runs go along with each other: nothing that is
done on them alike can tell the two apart, and to execute the node in between on one of them
leaves them so.
-/

import DeferredSpec.Proofs.Checks
import DeferredSpec.Proofs.Histories
import DeferredSpec.Proofs.Interposition
import DeferredSpec.Proofs.Unlogged.Executions

namespace DeferredSpec

open Effect (Echoes)

namespace Happening

/-- The same at the address that a node has once another one was put in at a place. -/
def moved (place : Address) : Happening → Happening
  | .executed address previous outcome =>
      .executed (Address.moved place address) previous outcome
  | .delayed => .delayed

end Happening

/-- Histories that began as the same one: what is done in the first is done in the second, where
a node was put in at a place, and in between that node is executed and returns what it was
given. -/
inductive Alongside (place : Address) (before : Array Happening) :
    Array Happening → Array Happening → Prop
  | begun : Alongside place before before before
  | both {history other : Array Happening} (alongside : Alongside place before history other)
      (happening : Happening) :
      Alongside place before (history.push happening) (other.push (happening.moved place))
  | between {history other : Array Happening} (alongside : Alongside place before history other)
      (value : Value) :
      Alongside place before history (other.push (.executed place value (.returned value)))

namespace Alongside

variable {place : Address} {before history other : Array Happening}

end Alongside

/-- Benches of runs of which the second executes a node in between. -/
structure Bench.GoesAlong (place : Address) (before : Array Happening) (bench other : Bench) :
    Prop where
  world : bench.world.SameButLog other.world
  watches : other.watches = bench.watches
  history : Alongside place before bench.history other.history

namespace Bench.GoesAlong

variable {place : Address} {before : Array Happening} {bench other : Bench}

theorem happened (along : bench.GoesAlong place before other) (happening : Happening) :
    (bench.happened happening).GoesAlong place before (other.happened (happening.moved place)) :=
  { along with history := along.history.both happening }

theorem between (along : bench.GoesAlong place before other) (value : Value) :
    bench.GoesAlong place before (other.happened (.executed place value (.returned value))) :=
  { along with history := along.history.between value }

theorem concord (place : Address) (before : Array Happening) :
    Concord (GoesAlong place before) where
  world along := along.world
  withWorld along same := { along with world := same }
  delayed along := along.happened .delayed

end Bench.GoesAlong

section Rules

variable {α β : Type} {place : Address} {before : Array Happening} {values : α → β → Prop}

/-- What an effect yields is known of what another one returns that ends alike. -/
theorem Effect.Echoes.yielding {σ τ : Type} {states : σ → τ → Prop} {first : Effect σ α}
    {second : Effect τ α} {good : α → Prop} (echoes : Echoes states Eq first second)
    (yields : first.Yields good) :
    Echoes states (fun value other => other = value ∧ good value) first second := by
  intro state other related
  obtain ⟨pairs, left⟩ := echoes state other related
  rcases ended : first state with ⟨outcome, later⟩
  rw [ended] at pairs left
  refine ⟨?_, left⟩
  generalize (second other).1 = conclusion at pairs
  cases pairs with
  | returned same => exact .returned ⟨same.symm, yields state _ later ended⟩
  | raised error => exact .raised error

/-- To execute the node in between first, which hands on what it is given, changes nothing but
the history. -/
theorem echoes_between {value : Value} {between : Execution Value}
    (hands : ∀ bench, between bench =
      (.returned value, bench.happened (.executed place value (.returned value))))
    {first : Execution α} {further : Value → Execution β}
    (echoes : Echoes (Bench.GoesAlong place before) values first (further value)) :
    Echoes (Bench.GoesAlong place before) values first (between >>= further) := by
  intro bench other along
  rw [Effect.bind_apply, hands]
  exact echoes bench _ (along.between value)

namespace SpecTree

variable {tree other : SpecTree}

/-- A step that ignores the log is executed alike at its new address. -/
theorem echoes_execute (complete : tree.losses = []) (unheard : tree.listeners = {})
    (still : other.losses = []) (silent : other.listeners = {}) (address : Address)
    {node : ActionNode} (blind : node.IsBlind) (previous : Value) :
    Echoes (Bench.GoesAlong place before) Eq (tree.execute address node previous)
      (other.execute (Address.moved place address) node previous) := by
  intro bench twin along
  obtain ⟨pairs, left⟩ := (blind node.arguments previous).echoes _ _ along.world
  rw [execute_unheard complete unheard, execute_unheard still silent, ← pairs.eq]
  exact ⟨.of_eq rfl, left, along.watches, along.history.both _⟩

/-- Steps that ignore the log are executed along a way as they are along the same way with
their new addresses. -/
theorem echoes_executeAlong (complete : tree.losses = []) (unheard : tree.listeners = {})
    (still : other.losses = []) (silent : other.listeners = {})
    (trail : List (Address × ActionNode)) (blind : ∀ entry ∈ trail, entry.2.IsBlind)
    (previous : Value) :
    Echoes (Bench.GoesAlong place before) Eq (tree.executeAlong trail previous)
      (other.executeAlong (trail.map fun entry => (Address.moved place entry.1, entry.2))
        previous) := by
  induction trail generalizing previous with
  | nil => exact .pure rfl
  | cons entry rest ih =>
      rw [List.forall_mem_cons] at blind
      exact (echoes_execute complete unheard still silent entry.1 blind.1 previous).bind_eq
        fun result => ih blind.2 result

end SpecTree

end Rules

end DeferredSpec
