/-
# Loading settings

Settings come from keywords and from the environment, keywords first; what neither
gives has its default. All faults are reported together, in the order of the
settings. Recovery keeps the default in the place of each variable that is not
accepted and reports the variable; a fault that an explicitly named setting has
is not recovered from.
-/

import DeferredSpec.Settings.Coercion

namespace DeferredSpec

/-- Where settings come from. -/
structure SettingSources where
  environment : List (String × String) := []
  keywords : List (String × Setting) := []

/-- A value that a source gives, and the name under which it was found. -/
structure GivenSetting where
  location : String
  setting : Setting

/-- A value that is not accepted: where it was found, what it is, and why. -/
structure SettingProblem where
  location : String
  input : Value
  fault : SettingFault

namespace SettingSources

/-- The keywords as a table: a keyword that is given again keeps its place and takes the
value. -/
def distinct (given : List (String × Setting)) : List (String × Setting) :=
  given.foldl
    (fun keywords entry =>
      if keywords.any fun other => other.1 == entry.1 then
        keywords.map fun other => if other.1 == entry.1 then entry else other
      else keywords ++ [entry])
    []

/-- The sources with each keyword given once. -/
def withKeywords (environment : List (String × String)) (given : List (String × Setting)) :
    SettingSources := ⟨environment, distinct given⟩

/-- The setting under a keyword, exactly spelled. -/
def keyword? (sources : SettingSources) (name : String) : Option Setting :=
  sources.keywords.lookup name

/-- Whether there is a keyword, exactly spelled. -/
def hasKeyword (sources : SettingSources) (name : String) : Bool := (sources.keyword? name).isSome

/-- The setting under the first keyword that spells a name in some case of letters. -/
def anyCaseKeyword? (sources : SettingSources) (name : String) : Option Setting :=
  (sources.keywords.find? fun given => LetterCase.smalls given.1 == LetterCase.smalls name).map
    Prod.snd

/-- Where a setting from a keyword is located: under the first of its names that is a
keyword exactly spelled, and under its own name if none is. -/
def keywordLocation (sources : SettingSources) (field : SettingField) : String :=
  ((field.name :: field.aliases).find? sources.hasKeyword).getD field.name

/-- What the keywords give for a setting. Only a setting with other names is found
under keywords that are not spelled exactly. -/
def fromKeywords? (sources : SettingSources) (field : SettingField) : Option GivenSetting :=
  if field.aliases.isEmpty then (sources.keyword? field.name).map (GivenSetting.mk field.name)
  else
    ((field.name :: field.aliases).findSome? sources.anyCaseKeyword?).map
      (GivenSetting.mk (sources.keywordLocation field))

/-- The last variable of a name in small letters that is set and not empty. -/
def variableText? (sources : SettingSources) (name : String) : Option String :=
  ((sources.environment.filter fun entry => !entry.2.isEmpty).reverse.find? fun entry =>
    LetterCase.smalls entry.1 == name).map Prod.snd

/-- What the environment gives for a setting. -/
def fromEnvironment? (sources : SettingSources) (field : SettingField) : Option GivenSetting :=
  (field.variableNames.findSome? sources.variableText?).map fun text =>
    ⟨field.name, .value (.text text)⟩

/-- What is given for a setting; any keyword beats the environment. -/
def given? (sources : SettingSources) (field : SettingField) : Option GivenSetting :=
  (sources.fromKeywords? field).or (sources.fromEnvironment? field)

/-- The value of a setting: what is given, if it is accepted, or else the default. -/
def read {α : Type} (sources : SettingSources) (field : SettingField) (default : α)
    (accept : Setting → Except SettingFault α) : Except SettingProblem α :=
  match sources.given? field with
  | none => .ok default
  | some given =>
      match accept given.setting with
      | .ok value => .ok value
      | .error fault => .error ⟨given.location, given.setting.asValue, fault⟩

/-- The sources with the defaults of some settings given by name. -/
def withDefaults (sources : SettingSources) (fields : List SettingField) : SettingSources :=
  { sources with
    keywords := sources.keywords ++ fields.map fun field => (field.name, .value field.default) }

end SettingSources

/-- The settings of retries. -/
structure Settings where
  maxRetries : Int := 5
  shouldMeansEventually : Bool := false
  retryInterval : Binary64 := Binary64.ofQuotient false 1 10
  delay : Option Setting := none

/-- The logger of settings. -/
def settingsLogger : String := "fluentspec.settings"

namespace Settings

/-- The problem of a setting that has one. -/
def problem {α : Type} : Except SettingProblem α → List SettingProblem
  | .ok _ => []
  | .error problem => [problem]

/-- Load settings, or find everything that is not accepted. -/
def load (sources : SettingSources) : Except (List SettingProblem) Settings :=
  let defaults : Settings := {}
  let retries := sources.read .maxRetries defaults.maxRetries Coercion.retryCount
  let eventually :=
    sources.read .shouldMeansEventually defaults.shouldMeansEventually Coercion.boolean
  let interval := sources.read .retryInterval defaults.retryInterval Coercion.interval
  let delay := sources.read .delay defaults.delay Coercion.callable
  match retries, eventually, interval, delay with
  | .ok retries, .ok eventually, .ok interval, .ok delay =>
      .ok ⟨retries, eventually, interval, delay⟩
  | retries, eventually, interval, delay =>
      .error (problem retries ++ problem eventually ++ problem interval ++ problem delay)

/-- The setting whose default can stand in for a value that is not accepted: none
if a keyword names the setting. -/
def replaceable? (sources : SettingSources) (problem : SettingProblem) : Option SettingField :=
  match SettingField.ofLocation? problem.location with
  | some field => if sources.hasKeyword field.name then none else some field
  | none => none

/-- The problems before the first one that cannot be recovered from. -/
def recoverable (sources : SettingSources) :
    List SettingProblem → List (SettingField × SettingProblem)
  | [] => []
  | problem :: problems =>
      match replaceable? sources problem with
      | some field => (field, problem) :: recoverable sources problems
      | none => []

/-- What a recovery comes to: the problems it reports, and what is loaded in the end. -/
structure Recovery where
  reported : List (SettingField × SettingProblem)
  result : Except (List SettingProblem) Settings

/-- Load settings, with the defaults in the place of what is not accepted. -/
def recover (sources : SettingSources) : Recovery :=
  match load sources with
  | .ok settings => ⟨[], .ok settings⟩
  | .error problems =>
      let reported := recoverable sources problems
      if reported.length < problems.length then ⟨reported, .error problems⟩
      else ⟨reported, load (sources.withDefaults (reported.map Prod.fst))⟩

/-- The report on a value that was not accepted. -/
def report (field : SettingField) (problem : SettingProblem) : Action String := do
  let shown ← Action.display problem.input
  let default ← Action.display field.default
  pure (field.variableName ++ " is not parseable: " ++ shown ++ " (" ++ problem.fault.message
    ++ "); using default " ++ default)

/-- Load settings with recovery and log what was not accepted. -/
def loadRecovering (sources : SettingSources) : Action (Except (List SettingProblem) Settings) := do
  let recovery := recover sources
  Effect.forEach
    (fun entry => do
      let message ← report entry.1 entry.2
      Action.log errorLevel settingsLogger message)
    recovery.reported
  pure recovery.result

end Settings

end DeferredSpec
