/-
# Realizing trees

Realizing a tree walks it once and registers it: a group for every group node,
with a hook that executes the node and leaves the result for the nodes below, and
a case for every leaf node, whose body executes the node and what is below it.
Chain steps are executed where they are met, inside the body of a case.
-/

import DeferredSpec.Realization.Title
import DeferredSpec.Suite.Rig

namespace DeferredSpec

/-- The logger of realization. -/
def realizationLogger : String := "fluentspec.realization"

namespace Realizer

variable {ρ : Type} [SpecRunner ρ]

mutual

/-- Realize a node and everything below it. `whole` is the tree it belongs to,
`index` the place of that tree, `address` the place of the node in it. -/
def realize (realizer : Realizer) (whole : SpecTree) (index : Nat) (address : Address)
    (source : Source) : ActionTree → Effect (Rig ρ) Unit
  | .node here children => do
      Rig.act (whole.require address .variant .noVariant)
      match here.variant with
      | .group => do
          let title ← Rig.act (groupTitle here)
          Rig.act (Action.log debugLevel realizationLogger ("registering group: " ++ title))
          Rig.group realizer.runner title do
            let cell ← Rig.newCell
            Rig.before realizer.runner (.groupHook ⟨index, address⟩ source cell)
            Rig.act (whole.requireChildren address)
            realizeAll realizer whole index address 0 (.kept cell) children
      | .leafCase => do
          let title ← Rig.act (whole.caseTitle address (.node here children))
          Rig.act (Action.log debugLevel realizationLogger ("registering case: " ++ title))
          Rig.case realizer.runner title (.realizedCase realizer ⟨index, address⟩ source)
      | .chainStep => do
          let previous ← Rig.read source
          let result ← Rig.execute (realizer.engine.run whole address here previous)
          Rig.act (whole.requireChildren address)
          realizeAll realizer whole index address 0 (.ready result) children

/-- Realize the children of a node from position `next` on. -/
def realizeAll (realizer : Realizer) (whole : SpecTree) (index : Nat) (parent : Address)
    (next : Nat) (source : Source) : List ActionTree → Effect (Rig ρ) Unit
  | [] => pure ()
  | child :: children => do
      realize realizer whole index (parent ++ [next]) source child
      realizeAll realizer whole index parent (next + 1) source children

end

/-- Realize a tree from its root. -/
def realizeRoot (realizer : Realizer) (whole : SpecTree) (index : Nat) : Effect (Rig ρ) Unit :=
  realizer.realize whole index [] .nothing whole.root

/-- Realize what a node belongs to, from the root above the node. -/
def realizeFrom (realizer : Realizer) (whole : SpecTree) (index : Nat) (address : Address) :
    Effect (Rig ρ) Unit :=
  let top := whole.top address
  match whole.root.subtree? top with
  | none => pure ()
  | some found => realizer.realize whole index top .nothing found

/-- What runs in the case of a node: the node, then everything below it. -/
def runCase (realizer : Realizer) (whole : SpecTree) (node : NodeRef) (source : Source)
    (found : ActionTree) : Effect (Rig ρ) Unit := do
  let previous ← Rig.read source
  let result ← Rig.execute (whole.execute node.address found.here previous)
  Rig.act (whole.requireChildren node.address)
  realizer.realizeAll whole node.tree node.address 0 (.ready result) found.children

end Realizer

end DeferredSpec
