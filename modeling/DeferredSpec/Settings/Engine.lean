/-
# Engines from settings

The settings decide the delay of an engine: the given one, if there is one; none
at all where the interval is zero; and otherwise waiting for the interval.
-/

import DeferredSpec.Retry.Engine
import DeferredSpec.Settings.Loading

namespace DeferredSpec

/-- Which delay settings come to. -/
inductive DelayChoice
  | immediate
  | sleeping (seconds : Binary64)
  | custom (given : Setting)

namespace Settings

/-- The delay that settings come to. -/
def delayChoice (settings : Settings) : DelayChoice :=
  match settings.delay with
  | some given => .custom given
  | none =>
      if settings.retryInterval.isZero then .immediate else .sleeping settings.retryInterval

end Settings

namespace DelayChoice

/-- The word for a choice. -/
def word : DelayChoice → String
  | .immediate => "immediate"
  | .sleeping _ => "sleep"
  | .custom _ => "custom"

variable [ObjectModel]

/-- The course of a delay. A value in the place of a delay is called with the
retry, which is code to it. -/
def course : DelayChoice → Delay
  | .immediate => .immediate
  | .sleeping seconds => .sleep seconds
  | .custom (.course delay) => delay
  | .custom (.value function) =>
      .act
        (do
          let _ ← function.call [.code]
          pure ())
        .finish

end DelayChoice

namespace RetryEngine

variable [ObjectModel]

/-- The engine that settings come to. -/
def ofSettings (settings : Settings) : Action RetryEngine :=
  make settings.maxRetries settings.delayChoice.course settings.shouldMeansEventually

end RetryEngine

end DeferredSpec
