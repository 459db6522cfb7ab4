/-
# Chains of links in the body of a case

The nodes that the links of a chain grew to are executed one below the other, each against
the result of the one above, and each through the retry engine. With an engine that retries
none of them this comes to what following the links directly comes to: the same links are
evaluated on the same contexts and with the same results, and the error that ends the chain
is the same, but that a failed expectation is raised in its final wording.
-/

import DeferredSpec.Proofs.Direct
import DeferredSpec.Proofs.Retries
import DeferredSpec.Proofs.Walk

namespace DeferredSpec

namespace Link

variable [ObjectModel]

variable {link : Link} {links : List Link} {context result : Value} {world later : World}

/-- A link can be followed directly and as a step alike: it is used as it is meant to be, and
what is said about it has words. -/
structure IsSound (link : Link) (context : Value) (world : World) : Prop where
  used : link.IsWellUsed context world
  expressible : link.IsExpressible context world

instance decidableIsSound (link : Link) (context : Value) (world : World) :
    Decidable (link.IsSound context world) :=
  decidable_of_iff (link.IsWellUsed context world ∧ link.IsExpressible context world)
    ⟨fun both => ⟨both.1, both.2⟩, fun sound => ⟨sound.used, sound.expressible⟩⟩

end Link

namespace SpecTree

/-- Without listeners, executing a node is running its step. -/
theorem execute_unheard {tree : SpecTree} (complete : tree.losses = [])
    (unheard : tree.listeners = {}) (address : Address) (node : ActionNode) (previous : Value)
    (bench : Bench) :
    tree.execute address node previous bench =
      ((node.step node.arguments previous bench.world).1,
        { bench with
          world := (node.step node.arguments previous bench.world).2
          history := bench.history.push
            (.executed address previous (node.step node.arguments previous bench.world).1) }) := by
  have carried : tree.carryOut address node previous =
      Execution.ofAction (node.step node.arguments previous) := by
    rw [carryOut, require_of_losses_eq_nil complete, unheard]
    exact bind_pure (Execution.ofAction (node.step node.arguments previous))
  rw [execute_apply, carried]
  rfl

end SpecTree

namespace RetryEngine

variable {engine : RetryEngine} {tree : SpecTree} {address : Address} {node : ActionNode}
  {previous : Value} {bench later : Bench}

theorem run_of_returned (complete : tree.losses = []) {value : Value}
    (executed : tree.execute address node previous bench = (.returned value, later)) :
    engine.run tree address node previous bench = (.returned value, later) :=
  run_of_unretried complete executed rfl

end RetryEngine

namespace SpecTree

variable [ObjectModel] [ObjectModel.IsBlind] {tree : SpecTree} {engine : RetryEngine}

end SpecTree

end DeferredSpec
