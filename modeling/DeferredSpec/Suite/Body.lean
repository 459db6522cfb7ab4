/-
# Bodies and declarations

What runs when a hook or a case runs: code that may register more on its way, or
the deferred work of a realized tree. Declarations are the programs of nested
registration calls; code in them is made when it is registered, so whatever it
holds is made once per registration.
-/

import DeferredSpec.Retry.Engine

namespace DeferredSpec

/-- A node of one of the trees. -/
structure NodeRef where
  tree : Nat
  address : Address
  deriving DecidableEq, Repr, Inhabited

/-- The result that a realized group leaves for its children. -/
structure CellRef where
  index : Nat
  deriving DecidableEq, Repr, Inhabited

/-- A spec runner that things are registered with. -/
structure RunnerRef where
  index : Nat
  deriving DecidableEq, Repr, Inhabited

/-- Where the result of the node above comes from: it is produced on demand, or
kept by the group above once its hook has run. -/
inductive Source
  | produced (make : Action Value)
  | kept (cell : CellRef)

namespace Source

/-- There is nothing above. -/
def nothing : Source := .produced (pure .null)

/-- The result is at hand. -/
def ready (value : Value) : Source := .produced (pure value)

end Source

/-- Code in two parts; what a body registers is registered between them. -/
structure Routine where
  opening : Action Unit := pure ()
  closing : Action Value := pure .null

/-- A program of registration calls. -/
inductive Declaration
  | group (name : String) (entries : List Declaration)
  | before (code : Action Routine) (entries : List Declaration)
  | case (name : String) (code : Action Routine) (entries : List Declaration)
  | fail (error : Action ErrorRef)
  | attempt (entries : List Declaration)

/-- What realizes trees: the runner it registers with and the engine that executes
chain steps. -/
structure Realizer where
  runner : RunnerRef
  engine : RetryEngine

/-- What runs when a hook or a case runs. -/
inductive Body
  | routine (code : Routine) (entries : List Declaration)
  | groupHook (node : NodeRef) (source : Source) (cell : CellRef)
  | realizedCase (realizer : Realizer) (node : NodeRef) (source : Source)

/-- A registered group or case. -/
inductive Entry
  | group (name : String) (hooks : List Body) (entries : List Entry)
  | case (name : String) (body : Body)

end DeferredSpec
