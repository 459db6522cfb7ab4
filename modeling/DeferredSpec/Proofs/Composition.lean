/-
# What bodies are composed of

Registrations, the realization of a tree and bodies are put together from a few effects: those on
the world, executions of nodes, registrations with a runner, and the cells in which groups leave
their results. So a property of effects that these have, and that putting effects together keeps,
is one of every body. The recursion over declarations, trees and bodies is made here once, for any
such property.
-/

import DeferredSpec.Suite.Run

namespace DeferredSpec

variable {ρ : Type} [SpecRunner ρ]

/-- A property of effects that is kept by everything that bodies are composed of. The nodes that
are executed are those of trees that are planted. -/
structure Rig.Closed (planted : SpecTree → Prop)
    (holds : ∀ {α : Type}, Effect (Rig ρ) α → Prop) : Prop where
  pure {α : Type} (value : α) : holds (pure value)
  raise {α : Type} (error : ErrorRef) : holds (Effect.raise error : Effect (Rig ρ) α)
  bind {α β : Type} {first : Effect (Rig ρ) α} {next : α → Effect (Rig ρ) β} :
    holds first → (∀ value, holds (next value)) → holds (first >>= next)
  attempt {α : Type} {effect : Effect (Rig ρ) α} : holds effect → holds effect.attempt
  act {α : Type} (action : Action α) : holds (Rig.act action)
  execute {whole : SpecTree} (address : Address) (node : ActionNode) (previous : Value) :
    planted whole → holds (Rig.execute (whole.execute address node previous))
  run {whole : SpecTree} (engine : RetryEngine) (address : Address) (node : ActionNode)
    (previous : Value) :
    planted whole → holds (Rig.execute (engine.run whole address node previous))
  group (runner : RunnerRef) (name : String) {content : Effect (Rig ρ) Unit} :
    holds content → holds (Rig.group runner name content)
  before (runner : RunnerRef) (hook : Body) : holds (Rig.before runner hook)
  case (runner : RunnerRef) (name : String) (body : Body) : holds (Rig.case runner name body)
  current : holds (Effect.read fun rig : Rig ρ => rig.current)
  newCell : holds Rig.newCell
  setCell (cell : CellRef) (value : Value) : holds (Rig.setCell cell value)
  cellValue (cell : CellRef) : holds (Rig.cellValue cell)

namespace Rig.Closed

variable {planted : SpecTree → Prop} {holds : ∀ {α : Type}, Effect (Rig ρ) α → Prop}
  {whole : SpecTree} {forest : Array SpecTree}

theorem read (closed : Closed planted holds) : ∀ source : Source, holds (Rig.read source)
  | .produced make => closed.act make
  | .kept cell => closed.cellValue cell

mutual

theorem perform (closed : Closed planted holds) (runner : RunnerRef) :
    ∀ declaration : Declaration, holds (declaration.perform runner)
  | .group name entries => by
      rw [Declaration.perform]
      exact closed.group runner name (performAll closed runner entries)
  | .before code entries => by
      rw [Declaration.perform]
      exact closed.bind (closed.act code) fun _ => closed.before runner _
  | .case name code entries => by
      rw [Declaration.perform]
      exact closed.bind (closed.act code) fun _ => closed.case runner name _
  | .fail error => by
      rw [Declaration.perform]
      exact closed.bind (closed.act error) closed.raise
  | .attempt entries => by
      rw [Declaration.perform]
      exact closed.bind (closed.attempt (performAll closed runner entries)) fun _ => closed.pure ()

theorem performAll (closed : Closed planted holds) (runner : RunnerRef) :
    ∀ entries : List Declaration, holds (Declaration.performAll runner entries)
  | [] => closed.pure ()
  | entry :: entries => by
      rw [Declaration.performAll]
      exact closed.bind (perform closed runner entry) fun _ => performAll closed runner entries

end

mutual

theorem realize (closed : Closed planted holds) (grown : planted whole) (realizer : Realizer)
    (index : Nat) (address : Address) (source : Source) :
    ∀ found : ActionTree, holds (realizer.realize whole index address source found)
  | .node here children => by
      rw [Realizer.realize]
      refine closed.bind (closed.act _) fun _ => ?_
      cases here.variant with
      | group =>
          refine closed.bind (closed.act _) fun title => closed.bind (closed.act _) fun _ => ?_
          refine closed.group _ title (closed.bind closed.newCell fun cell => ?_)
          exact closed.bind (closed.before _ _) fun _ => closed.bind (closed.act _) fun _ =>
            realizeAll closed grown realizer index address 0 (.kept cell) children
      | leafCase =>
          exact closed.bind (closed.act _) fun title => closed.bind (closed.act _) fun _ =>
            closed.case _ title _
      | chainStep =>
          refine closed.bind (closed.read source) fun previous => ?_
          refine closed.bind (closed.run realizer.engine address here previous grown) fun result => ?_
          exact closed.bind (closed.act _) fun _ =>
            realizeAll closed grown realizer index address 0 (.ready result) children

theorem realizeAll (closed : Closed planted holds) (grown : planted whole) (realizer : Realizer)
    (index : Nat) (parent : Address) (next : Nat) (source : Source) :
    ∀ children : List ActionTree,
      holds (realizer.realizeAll whole index parent next source children)
  | [] => closed.pure ()
  | child :: children => by
      rw [Realizer.realizeAll]
      exact closed.bind (realize closed grown realizer index (parent ++ [next]) source child)
        fun _ => realizeAll closed grown realizer index parent (next + 1) source children

end

theorem realizeFrom (closed : Closed planted holds) (grown : planted whole) (realizer : Realizer)
    (index : Nat) (address : Address) : holds (realizer.realizeFrom whole index address) := by
  rw [Realizer.realizeFrom]
  cases whole.root.subtree? (whole.top address) with
  | none => exact closed.pure ()
  | some found => exact closed.realize grown realizer index _ .nothing found

/-- A property that is kept by everything that bodies are composed of is one of every body. -/
theorem runBody (closed : Closed planted holds)
    (grown : ∀ (place : Nat) whole, forest[place]? = some whole → planted whole) :
    ∀ body : Body, holds (body.run forest)
  | .routine code entries => by
      rw [Body.run]
      refine closed.bind (closed.act _) fun _ => closed.bind closed.current fun runner => ?_
      exact closed.bind (closed.performAll runner entries) fun _ => closed.act _
  | .groupHook node source cell => by
      rw [Body.run]
      cases there : forest[node.tree]? with
      | none => exact closed.pure _
      | some whole =>
          dsimp only
          cases whole.root.subtree? node.address with
          | none => exact closed.pure _
          | some found =>
              refine closed.bind (closed.read source) fun previous => ?_
              refine closed.bind (closed.execute _ _ previous (grown _ whole there)) fun result => ?_
              exact closed.bind (closed.setCell cell result) fun _ => closed.pure _
  | .realizedCase realizer node source => by
      rw [Body.run]
      cases there : forest[node.tree]? with
      | none => exact closed.pure _
      | some whole =>
          have here := grown _ whole there
          dsimp only
          cases whole.root.subtree? node.address with
          | none => exact closed.pure _
          | some found =>
              refine closed.bind (closed.bind (closed.read source) fun previous => ?_) fun _ =>
                closed.pure _
              refine closed.bind (closed.execute _ _ previous here) fun result => ?_
              exact closed.bind (closed.act _) fun _ =>
                closed.realizeAll here realizer node.tree node.address 0 _ found.children

end Rig.Closed

end DeferredSpec
