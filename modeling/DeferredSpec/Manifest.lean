/-
# The manifest

What the library goes by: its version, the names it offers, and the variables of
its settings.
-/

import DeferredSpec.Settings.Field

namespace DeferredSpec

namespace Manifest

/-- The version. -/
def version : String := "0.1.0"

/-- The names that are offered. -/
def names : List String :=
  ["__version__", "subject", "realize", "expect", "ActionHandle", "ActionHooks", "ActionNode",
    "ActionVariant", "Realizer", "RetryEngine", "Settings", "SuiteRunner", "log_execution",
    "FluentSpecError", "ExpectationFailedError", "MissingMemberError", "ConfigurationError"]

/-- The variables by which the settings are reported. -/
def variableNames : List String := SettingField.all.map SettingField.variableName

end Manifest

end DeferredSpec
