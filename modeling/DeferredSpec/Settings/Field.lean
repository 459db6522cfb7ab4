/-
# Fields of the settings

Four settings steer retries. Each has a name, a value that holds where none is
given, and the names under which a variable of the environment or a keyword gives
it one. Variables are found in any case of letters; a keyword must be spelled
exactly, except for the one setting that goes by two names.
-/

import DeferredSpec.Retry.Delay
import DeferredSpec.Text.LetterCase

namespace DeferredSpec

/-- The settings. -/
inductive SettingField
  | maxRetries
  | shouldMeansEventually
  | retryInterval
  | delay
  deriving DecidableEq, Repr

/-- What a setting is given as: a value, or code that takes the course of a delay. -/
inductive Setting
  | value (value : Value)
  | course (delay : Delay)

namespace Setting

/-- The value a setting is given as; code shows nothing of itself. -/
def asValue : Setting → Value
  | .value given => given
  | .course _ => .code

end Setting

namespace SettingField

/-- All settings, in the order in which they are examined. -/
def all : List SettingField := [.maxRetries, .shouldMeansEventually, .retryInterval, .delay]

/-- The name of a setting. -/
def name : SettingField → String
  | .maxRetries => "max_retries"
  | .shouldMeansEventually => "should_means_should_eventually"
  | .retryInterval => "retry_interval"
  | .delay => "delay"

/-- What the variables of the settings begin with. -/
def variableStem : String := "FLUENTSPEC_"

/-- The name of the variable by which a setting is reported. -/
def variableName : SettingField → String
  | .maxRetries => variableStem ++ "MAX_RETRIES"
  | .shouldMeansEventually => variableStem ++ "SHOULD_MEANS_EVENTUALLY"
  | .retryInterval => variableStem ++ "RETRY_INTERVAL"
  | .delay => variableStem ++ "DELAY"

/-- The names a setting goes by, beside its own. -/
def aliases : SettingField → List String
  | .shouldMeansEventually => [variableName .shouldMeansEventually]
  | _ => []

/-- The variables that give a setting its value, in small letters; the first one
that is set wins. -/
def variableNames : SettingField → List String
  | .shouldMeansEventually =>
      [name .shouldMeansEventually, LetterCase.smalls (variableName .shouldMeansEventually)]
  | field => [LetterCase.smalls field.variableName]

/-- The value of a setting that nothing gives one. -/
def default : SettingField → Value
  | .maxRetries => .integer 5
  | .shouldMeansEventually => .boolean false
  | .retryInterval => .float (Binary64.ofQuotient false 1 10)
  | .delay => .null

/-- Whether a location, in any case of letters, belongs to a setting: its name,
the name with the prefix of variables, or another name it goes by. -/
def isLocatedAt (field : SettingField) (location : String) : Bool :=
  let location := LetterCase.smalls location
  location == field.name || location == LetterCase.smalls (variableStem ++ field.name)
    || field.aliases.any fun other => location == LetterCase.smalls other

/-- The setting that a location belongs to. -/
def ofLocation? (location : String) : Option SettingField :=
  all.find? fun field => field.isLocatedAt location

end SettingField

end DeferredSpec
