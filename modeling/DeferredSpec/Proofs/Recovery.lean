/-
# Recovering from the environment

Loading with recovery takes the default of every setting whose variable is not accepted, and
reports that variable. It does so setting by setting, whatever the other settings are given as,
and the second loading, in which the defaults stand as keywords, finds nothing to complain of.
Each setting has one variable that begins with the stem. But the setting that goes by two names
is looked up in the environment under its own name as well, and there first. So what is promised
about variables holds just if a keyword names that setting, or its own name gives nothing there,
or comes to the same.
-/

import DeferredSpec.Proofs.Log
import DeferredSpec.Settings.Loading
import Mathlib.Data.List.Forall2

namespace DeferredSpec

namespace Coercion

/-- Why something is not accepted, if it is not. -/
def faultOf? {α : Type} : Except SettingFault α → Option SettingFault
  | .ok _ => none
  | .error fault => some fault

/-- What a setting comes to: what is given, if it is accepted, and the default in any other
case. -/
def settle {α : Type} (accept : Setting → Except SettingFault α) (default : α) :
    Option Setting → α
  | none => default
  | some setting =>
      match accept setting with
      | .ok value => value
      | .error _ => default

end Coercion

namespace SettingField

/-- Why something is not accepted for a setting, if it is not. -/
def fault? (setting : Setting) : SettingField → Option SettingFault
  | .maxRetries => Coercion.faultOf? (Coercion.retryCount setting)
  | .shouldMeansEventually => Coercion.faultOf? (Coercion.boolean setting)
  | .retryInterval => Coercion.faultOf? (Coercion.interval setting)
  | .delay => Coercion.faultOf? (Coercion.callable setting)

/-- Whether something is accepted for a setting. -/
def isAccepted (field : SettingField) (setting : Setting) : Bool := (field.fault? setting).isNone

theorem mem_all (field : SettingField) : field ∈ all := by cases field <;> decide

/-- A setting is located at its own name. -/
theorem ofLocation?_name (field : SettingField) : ofLocation? field.name = some field := by
  cases field <;> decide +kernel

theorem smalls_name (field : SettingField) : LetterCase.smalls field.name = field.name := by
  cases field <;> decide +kernel

/-- No setting is named like a variable. -/
theorem name_ne_variableName (field other : SettingField) :
    field.name ≠ LetterCase.smalls other.variableName := by
  cases field <;> cases other <;> decide +kernel

theorem name_injective {field other : SettingField} (same : field.name = other.name) :
    field = other := by
  have located := ofLocation?_name field
  rw [same, ofLocation?_name other] at located
  exact (Option.some.inj located).symm

/-- The defaults pass. -/
theorem isAccepted_default (field : SettingField) : field.isAccepted (.value field.default) := by
  cases field <;> rfl

end SettingField

namespace Settings

open Coercion

/-- What settings come to that are given as they are. -/
def settled (given : SettingField → Option Setting) : Settings :=
  let defaults : Settings := {}
  { maxRetries := settle retryCount defaults.maxRetries (given .maxRetries)
    shouldMeansEventually :=
      settle boolean defaults.shouldMeansEventually (given .shouldMeansEventually)
    retryInterval := settle interval defaults.retryInterval (given .retryInterval)
    delay := settle callable defaults.delay (given .delay) }

/-- A setting comes to the same whether its default is given or nothing that is accepted. -/
theorem settled_congr {given other : SettingField → Option Setting}
    (same : ∀ field, given field = other field ∨
      other field = some (.value field.default) ∧
        ∀ setting, given field = some setting → field.isAccepted setting = false) :
    settled given = settled other := by
  have alike {α : Type} (accept : Setting → Except SettingFault α) (default : α)
      (field : SettingField) (faults : ∀ setting, field.fault? setting = faultOf? (accept setting))
      (own : accept (.value field.default) = .ok default) :
      settle accept default (given field) = settle accept default (other field) := by
    rcases same field with equal | ⟨standard, rejected⟩
    · rw [equal]
    · rw [standard, settle, own]
      cases known : given field with
      | none => rfl
      | some setting =>
          have fault := rejected setting known
          rw [SettingField.isAccepted, faults] at fault
          rw [settle]
          cases accepted : accept setting with
          | ok value => simp [accepted, faultOf?] at fault
          | error fault => rfl
  rw [settled, settled, alike retryCount _ .maxRetries (fun _ => rfl) rfl,
    alike boolean _ .shouldMeansEventually (fun _ => rfl) rfl,
    alike interval _ .retryInterval (fun _ => rfl) rfl,
    alike callable _ .delay (fun _ => rfl) rfl]

end Settings

namespace SettingSources

open Coercion

variable (sources : SettingSources)

/-- What is given for a setting, wherever it was found. -/
def setting? (field : SettingField) : Option Setting :=
  (sources.given? field).map GivenSetting.setting

/-- The problem that a setting has, if it has one. -/
def problem? (field : SettingField) : Option SettingProblem :=
  (sources.given? field).bind fun given =>
    (field.fault? given.setting).map fun fault =>
      ⟨given.location, given.setting.asValue, fault⟩

/-- A setting is read as what it comes to, unless it has a problem. -/
theorem read_eq {α : Type} (field : SettingField) (default : α)
    (accept : Setting → Except SettingFault α)
    (faults : ∀ setting, field.fault? setting = faultOf? (accept setting)) :
    sources.read field default accept =
      match sources.problem? field with
      | none => .ok (settle accept default (sources.setting? field))
      | some problem => .error problem := by
  rw [read, problem?, setting?]
  cases sources.given? field with
  | none => rfl
  | some given =>
      simp only [Option.bind_some, Option.map_some, settle, faults]
      cases accept given.setting <;> rfl

/-- Loading finds all problems, in the order of the settings. -/
theorem load_eq :
    Settings.load sources =
      match SettingField.all.filterMap sources.problem? with
      | [] => .ok (Settings.settled sources.setting?)
      | problem :: problems => .error (problem :: problems) := by
  simp only [Settings.load, Settings.settled, SettingField.all, List.filterMap_cons,
    List.filterMap_nil, sources.read_eq .maxRetries _ _ fun _ => rfl,
    sources.read_eq .shouldMeansEventually _ _ fun _ => rfl,
    sources.read_eq .retryInterval _ _ fun _ => rfl, sources.read_eq .delay _ _ fun _ => rfl]
  rcases sources.problem? .maxRetries <;> rcases sources.problem? .shouldMeansEventually <;>
    rcases sources.problem? .retryInterval <;> rcases sources.problem? .delay <;> rfl

/-- Keywords name settings, each in its own spelling. -/
def IsNamed : Prop := ∀ keyword ∈ sources.keywords, ∃ field : SettingField, keyword.1 = field.name

/-- What a keyword gives is accepted for the setting it names. -/
def IsAccepted : Prop :=
  ∀ (field : SettingField) (setting : Setting),
    sources.keyword? field.name = some setting → field.isAccepted setting

variable {sources}

/-- A keyword that names a setting is found by its spelling. -/
theorem find?_keywords (named : sources.IsNamed) (name : String) :
    (sources.keywords.find? fun given => LetterCase.smalls given.1 == name).map Prod.snd =
      sources.keyword? name := by
  rw [keyword?]
  rw [IsNamed] at named
  generalize sources.keywords = keywords at named ⊢
  induction keywords with
  | nil => rfl
  | cons first rest ih =>
      obtain ⟨field, spelled⟩ := named first List.mem_cons_self
      have further := ih fun keyword member => named keyword (List.mem_cons_of_mem first member)
      have turned : (name == field.name) = (field.name == name) := BEq.comm
      rw [List.find?_cons, List.lookup_cons, spelled, SettingField.smalls_name, turned]
      cases field.name == name with
      | true => rfl
      | false => exact further

theorem keyword?_variableName (named : sources.IsNamed) (field : SettingField) :
    sources.keyword? (LetterCase.smalls field.variableName) = none := by
  rw [keyword?, List.lookup_eq_none_iff]
  intro keyword member
  obtain ⟨other, spelled⟩ := named keyword member
  rw [spelled]
  exact bne_iff_ne.mpr (other.name_ne_variableName field).symm

/-- A setting that a keyword gives is located at its own name. -/
theorem fromKeywords?_eq (named : sources.IsNamed) (field : SettingField) :
    sources.fromKeywords? field =
      (sources.keyword? field.name).map (GivenSetting.mk field.name) := by
  have own : sources.anyCaseKeyword? field.name = sources.keyword? field.name := by
    rw [anyCaseKeyword?, SettingField.smalls_name, find?_keywords named]
  have other : sources.anyCaseKeyword? field.variableName = none := by
    rw [anyCaseKeyword?, find?_keywords named, keyword?_variableName named]
  rw [fromKeywords?]
  cases field with
  | shouldMeansEventually =>
      cases given : sources.keyword? SettingField.shouldMeansEventually.name with
      | none => simp [SettingField.aliases, own, other, given]
      | some setting =>
          simp [SettingField.aliases, own, given, keywordLocation, hasKeyword]
  | maxRetries => rfl
  | retryInterval => rfl
  | delay => rfl

/-- The text that the environment gives for a setting. -/
def text? (sources : SettingSources) (field : SettingField) : Option String :=
  field.variableNames.findSome? sources.variableText?

/-- A setting is given by the keyword that names it, and by the environment if none does. -/
theorem setting?_eq (named : sources.IsNamed) (field : SettingField) :
    sources.setting? field =
      (sources.keyword? field.name).or
        ((sources.text? field).map fun text => .value (.text text)) := by
  rw [setting?, given?, fromKeywords?_eq named, fromEnvironment?, ← text?]
  cases sources.keyword? field.name with
  | none => rw [Option.map_none, Option.none_or, Option.map_map]; rfl
  | some setting => rfl

/-- Where keywords are accepted, a problem is one of the environment, at the name of its
setting. -/
theorem problem?_eq (named : sources.IsNamed) (accepted : sources.IsAccepted)
    (field : SettingField) :
    sources.problem? field =
      if sources.hasKeyword field.name then none
      else
        (sources.text? field).bind fun text =>
          (field.fault? (.value (.text text))).map fun fault => ⟨field.name, .text text, fault⟩ := by
  rw [problem?, given?, fromKeywords?_eq named, fromEnvironment?, hasKeyword, ← text?]
  cases known : sources.keyword? field.name with
  | none => rw [Option.map_none, Option.none_or, Option.bind_map]; rfl
  | some setting =>
      have passes := accepted field setting known
      rw [SettingField.isAccepted, Option.isNone_iff_eq_none] at passes
      rw [Option.map_some, Option.some_or, Option.bind_some, passes]
      rfl

/-- The settings that have problems, in order, each with its problem. -/
def faulty (sources : SettingSources) : List (SettingField × SettingProblem) :=
  SettingField.all.filterMap fun field => (sources.problem? field).map (field, ·)

theorem mem_map_faulty (field : SettingField) :
    field ∈ sources.faulty.map Prod.fst ↔ (sources.problem? field).isSome := by
  rw [faulty, List.mem_map]
  constructor
  · rintro ⟨⟨other, problem⟩, member, rfl⟩
    obtain ⟨known, _, found⟩ := List.mem_filterMap.mp member
    obtain ⟨_, has, same⟩ := Option.map_eq_some_iff.mp found
    cases same
    rw [has]
    rfl
  · intro has
    obtain ⟨problem, has⟩ := Option.isSome_iff_exists.mp has
    refine ⟨(field, problem), List.mem_filterMap.mpr ⟨field, field.mem_all, ?_⟩, rfl⟩
    rw [has, Option.map_some]

/-- All problems of the environment can be recovered from. -/
theorem recoverable_eq (named : sources.IsNamed) (accepted : sources.IsAccepted)
    (fields : List SettingField) :
    Settings.recoverable sources (fields.filterMap sources.problem?) =
      fields.filterMap fun field => (sources.problem? field).map (field, ·) := by
  induction fields with
  | nil => rfl
  | cons field rest ih =>
      rw [List.filterMap_cons, List.filterMap_cons]
      cases has : sources.problem? field with
      | none => exact ih
      | some problem =>
          have found := problem?_eq named accepted field
          rw [has] at found
          cases keyword : sources.hasKeyword field.name with
          | true => simp [keyword] at found
          | false =>
              simp only [keyword, Bool.false_eq_true, if_false] at found
              obtain ⟨text, _, faults⟩ := Option.bind_eq_some_iff.mp found.symm
              obtain ⟨fault, _, rfl⟩ := Option.map_eq_some_iff.mp faults
              simp [Settings.recoverable, Settings.replaceable?, SettingField.ofLocation?_name,
                keyword, ih]

/-- The keywords after some defaults were put in the place of what was not given by them. -/
theorem keyword?_withDefaults (fields : List SettingField) (field : SettingField) :
    (sources.withDefaults fields).keyword? field.name =
      (sources.keyword? field.name).or
        (if field ∈ fields then some (.value field.default) else none) := by
  have standing : (fields.map fun other => (other.name, Setting.value other.default)).lookup
      field.name = if field ∈ fields then some (.value field.default) else none := by
    induction fields with
    | nil => rfl
    | cons first rest ih =>
        rw [List.map_cons, List.lookup_cons, ih]
        by_cases same : field = first
        · simp [same]
        · have other : (field.name == first.name) = false :=
            beq_false_of_ne fun equal => same (SettingField.name_injective equal)
          simp [other, same]
  rw [keyword?, withDefaults, List.lookup_append, standing]
  rfl

theorem IsNamed.withDefaults (named : sources.IsNamed) (fields : List SettingField) :
    (sources.withDefaults fields).IsNamed := by
  intro keyword member
  rcases List.mem_append.mp member with old | new
  · exact named keyword old
  · obtain ⟨field, _, rfl⟩ := List.mem_map.mp new
    exact ⟨field, rfl⟩

theorem IsAccepted.withDefaults (accepted : sources.IsAccepted) (fields : List SettingField) :
    (sources.withDefaults fields).IsAccepted := by
  intro field setting known
  rw [keyword?_withDefaults] at known
  cases before : sources.keyword? field.name with
  | some given =>
      rw [before, Option.some_or] at known
      cases known
      exact accepted field _ before
  | none =>
      rw [before, Option.none_or] at known
      split at known
      · cases known
        exact field.isAccepted_default
      · cases known

/-- With the defaults in the place of everything that is not accepted, no problem is left. -/
theorem problem?_withDefaults (named : sources.IsNamed) (accepted : sources.IsAccepted)
    (field : SettingField) :
    (sources.withDefaults (sources.faulty.map Prod.fst)).problem? field = none := by
  rw [problem?_eq (named.withDefaults _) (accepted.withDefaults _), hasKeyword,
    keyword?_withDefaults]
  have here := problem?_eq named accepted field
  rw [hasKeyword] at here
  cases has : sources.problem? field with
  | some problem =>
      have member := (mem_map_faulty field).mpr (Option.isSome_of_eq_some has)
      cases sources.keyword? field.name <;> simp [member]
  | none =>
      have free : field ∉ sources.faulty.map Prod.fst := by
        rw [mem_map_faulty, has]
        exact Bool.false_ne_true
      rw [if_neg free, Option.or_none]
      exact here.symm.trans has

/-- With these defaults every setting comes to what it came to before. -/
theorem settled_withDefaults (named : sources.IsNamed) (accepted : sources.IsAccepted) :
    Settings.settled (sources.withDefaults (sources.faulty.map Prod.fst)).setting? =
      Settings.settled sources.setting? := by
  refine (Settings.settled_congr fun field => ?_).symm
  rw [setting?_eq named, setting?_eq (named.withDefaults _), keyword?_withDefaults]
  have here := problem?_eq named accepted field
  rw [hasKeyword] at here
  cases known : sources.keyword? field.name with
  | some setting => exact .inl rfl
  | none =>
      simp only [known, Option.isSome_none, Bool.false_eq_true, if_false] at here
      cases has : sources.problem? field with
      | none =>
          have free : field ∉ sources.faulty.map Prod.fst := by
            rw [mem_map_faulty, has]
            exact Bool.false_ne_true
          rw [if_neg free]
          exact .inl rfl
      | some problem =>
          have member := (mem_map_faulty field).mpr (Option.isSome_of_eq_some has)
          rw [if_pos member]
          refine .inr ⟨rfl, fun setting given => ?_⟩
          rw [has] at here
          obtain ⟨text, found, faults⟩ := Option.bind_eq_some_iff.mp here.symm
          obtain ⟨fault, rejected, _⟩ := Option.map_eq_some_iff.mp faults
          rw [Option.none_or, found, Option.map_some, Option.some_inj] at given
          rw [SettingField.isAccepted, ← given, rejected]
          rfl

/-- Recovery reports the settings that have problems and never fails. -/
theorem recover_eq (named : sources.IsNamed) (accepted : sources.IsAccepted) :
    Settings.recover sources = ⟨sources.faulty, .ok (Settings.settled sources.setting?)⟩ := by
  have reported := recoverable_eq named accepted SettingField.all
  have again := load_eq (sources.withDefaults (sources.faulty.map Prod.fst))
  have cleared : SettingField.all.filterMap
      (sources.withDefaults (sources.faulty.map Prod.fst)).problem? = [] := by
    rw [List.filterMap_eq_nil_iff]
    exact fun field _ => problem?_withDefaults named accepted field
  rw [cleared, settled_withDefaults named accepted] at again
  rw [← faulty] at reported
  have counted : sources.faulty.length = (SettingField.all.filterMap sources.problem?).length := by
    have problems : sources.faulty.map Prod.snd = SettingField.all.filterMap sources.problem? := by
      rw [faulty, List.map_filterMap]
      congr 1
      funext field
      cases sources.problem? field <;> rfl
    rw [← problems, List.length_map]
  rw [Settings.recover, load_eq]
  cases problems : SettingField.all.filterMap sources.problem? with
  | nil =>
      rw [problems] at counted
      rw [List.eq_nil_of_length_eq_zero counted]
  | cons first rest =>
      rw [problems] at reported counted
      simp only [reported, counted, Nat.lt_irrefl, if_false, again]

end SettingSources

/-- A record is an error record on the variable of a setting. -/
def SettingField.IsReportedBy (field : SettingField) (record : LogRecord) : Prop :=
  record.level = errorLevel ∧ record.source = settingsLogger ∧
    ∃ rest, record.message = field.variableName ++ " is not parseable: " ++ rest

/-- A text that is not accepted can be reported. -/
theorem Settings.report_text (field : SettingField) (location text : String) (fault : SettingFault)
    (world : World) :
    ∃ rest, Settings.report field ⟨location, .text text, fault⟩ world =
      (.returned (field.variableName ++ " is not parseable: " ++ rest), world) := by
  obtain ⟨shown, displayed⟩ : ∃ shown, Action.display (.text text) world =
      (.returned shown, world) := ⟨_, rfl⟩
  obtain ⟨standard, told⟩ : ∃ standard, Action.display field.default world =
      (.returned standard, world) := by
    cases field <;> exact ⟨_, rfl⟩
  rw [Settings.report, Effect.bind_apply, displayed]
  simp only [Effect.bind_apply, told, Effect.pure_apply, String.append_assoc]
  exact ⟨_, rfl⟩

namespace SettingSources

variable {sources : SettingSources}

/-- Reports are logged one after another. -/
theorem forEach_report (world : World) (reported : List (SettingField × SettingProblem))
    (texts : ∀ entry ∈ reported, ∃ text, entry.2.input = .text text) :
    ∃ records : List LogRecord,
      Effect.forEach
          (fun entry : SettingField × SettingProblem => do
            let message ← Settings.report entry.1 entry.2
            Action.log errorLevel settingsLogger message)
          reported world =
        (.returned (), world.withRecords (world.records ++ records.toArray)) ∧
      List.Forall₂ SettingField.IsReportedBy (reported.map Prod.fst) records := by
  induction reported generalizing world with
  | nil => exact ⟨[], by simp [World.withRecords], .nil⟩
  | cons entry rest ih =>
      obtain ⟨field, location, input, fault⟩ := entry
      obtain ⟨text, rfl⟩ : ∃ text, input = .text text := texts _ List.mem_cons_self
      obtain ⟨said, reports⟩ := Settings.report_text field location text fault world
      let record : LogRecord :=
        ⟨errorLevel, settingsLogger, field.variableName ++ " is not parseable: " ++ said⟩
      obtain ⟨records, logged, each⟩ := ih (world.record record) fun other member =>
        texts other (List.mem_cons_of_mem _ member)
      refine ⟨record :: records, ?_, .cons ⟨rfl, rfl, said, rfl⟩ each⟩
      rw [Effect.forEach_cons, Effect.bind_apply, Effect.bind_apply, reports]
      refine logged.trans ?_
      simp [World.record, World.withRecords]

/-- Loading with recovery gives settings and reports on each problem once. -/
theorem loadRecovering_eq (named : sources.IsNamed) (accepted : sources.IsAccepted)
    (world : World) :
    ∃ records : List LogRecord,
      Settings.loadRecovering sources world =
        (.returned (.ok (Settings.settled sources.setting?)),
          world.withRecords (world.records ++ records.toArray)) ∧
      List.Forall₂ SettingField.IsReportedBy (sources.faulty.map Prod.fst) records := by
  have texts : ∀ entry ∈ sources.faulty, ∃ text, entry.2.input = .text text := by
    rintro ⟨field, problem⟩ member
    obtain ⟨other, _, found⟩ := List.mem_filterMap.mp member
    obtain ⟨known, has, same⟩ := Option.map_eq_some_iff.mp found
    cases same
    rw [problem?_eq named accepted] at has
    split at has
    · cases has
    · obtain ⟨text, _, faults⟩ := Option.bind_eq_some_iff.mp has
      obtain ⟨fault, _, rfl⟩ := Option.map_eq_some_iff.mp faults
      exact ⟨text, rfl⟩
  obtain ⟨records, logged, each⟩ := forEach_report world sources.faulty texts
  refine ⟨records, ?_, each⟩
  rw [Settings.loadRecovering, recover_eq named accepted, Effect.bind_apply, logged]
  rfl

variable (sources)

/-- What is promised for a setting: what the keyword gives that names it, and the text of its
variable if none does. -/
def promised? (field : SettingField) : Option Setting :=
  (sources.keyword? field.name).or
    ((sources.variableText? (LetterCase.smalls field.variableName)).map fun text =>
      .value (.text text))

/-- Whether no keyword names a setting and its variable is not accepted. -/
def isSpoilt (field : SettingField) : Bool :=
  !sources.hasKeyword field.name && (sources.promised? field).any fun setting =>
    !field.isAccepted setting

/-- Loading with recovery does what is promised: it returns settings, each of which is what the
keyword gives that names it, or what its variable gives if that is accepted, or the default;
and all it does to the world is to log one error record for each setting that no keyword names
and whose variable is not accepted. -/
def RecoversAsPromised (world : World) : Prop :=
  ∃ records : List LogRecord,
    Settings.loadRecovering sources world =
      (.returned (.ok (Settings.settled sources.promised?)),
        world.withRecords (world.records ++ records.toArray)) ∧
    List.Forall₂ SettingField.IsReportedBy (SettingField.all.filter sources.isSpoilt) records

/-- What a text that may be given for a truth value comes to, and whether it is rejected. -/
def reading (text : Option String) : Bool × Bool :=
  (Coercion.settle Coercion.boolean false (text.map fun text => .value (.text text)),
    text.any fun text =>
      !SettingField.shouldMeansEventually.isAccepted (.value (.text text)))

variable {sources}

theorem text?_of_ne (field : SettingField) (other : field ≠ .shouldMeansEventually) :
    sources.text? field = sources.variableText? (LetterCase.smalls field.variableName) := by
  cases field with
  | shouldMeansEventually => exact absurd rfl other
  | _ => exact List.findSome?_singleton

theorem text?_shouldMeansEventually :
    sources.text? .shouldMeansEventually =
      (sources.variableText? SettingField.shouldMeansEventually.name).or
        (sources.variableText?
          (LetterCase.smalls SettingField.shouldMeansEventually.variableName)) := by
  rw [text?, SettingField.variableNames, List.findSome?_cons]
  cases sources.variableText? SettingField.shouldMeansEventually.name with
  | none => exact List.findSome?_singleton
  | some text => rfl

/-- The settings with one name are what is promised of them. -/
theorem setting?_of_ne (named : sources.IsNamed) (field : SettingField)
    (other : field ≠ .shouldMeansEventually) :
    sources.setting? field = sources.promised? field := by
  rw [setting?_eq named, text?_of_ne field other, promised?]

/-- A setting has a problem if no keyword names it and the text it is given is rejected. -/
theorem isSome_problem? (named : sources.IsNamed) (accepted : sources.IsAccepted)
    (field : SettingField) :
    (sources.problem? field).isSome =
      (!sources.hasKeyword field.name && (sources.setting? field).any fun setting =>
        !field.isAccepted setting) := by
  rw [problem?_eq named accepted, setting?_eq named, hasKeyword]
  cases sources.keyword? field.name with
  | some setting => rfl
  | none =>
      simp only [Option.isSome_none, Bool.false_eq_true, if_false, Option.none_or]
      cases sources.text? field with
      | none => rfl
      | some text =>
          simp only [Option.bind_some, Option.isSome_map, Option.map_some, Option.any_some,
            Bool.not_false, Bool.true_and, SettingField.isAccepted, Option.not_isNone]

theorem isSome_problem?_of_ne (named : sources.IsNamed) (accepted : sources.IsAccepted)
    (field : SettingField) (other : field ≠ .shouldMeansEventually) :
    (sources.problem? field).isSome = sources.isSpoilt field := by
  rw [isSome_problem? named accepted, setting?_of_ne named field other, isSpoilt]

theorem map_faulty : sources.faulty.map Prod.fst =
    SettingField.all.filter fun field => (sources.problem? field).isSome := by
  rw [faulty, List.map_filterMap]
  induction SettingField.all with
  | nil => rfl
  | cons field rest ih =>
      rw [List.filterMap_cons, List.filter_cons, ← ih]
      cases sources.problem? field <;> rfl

/-- What is loaded is what is promised just if this is so of the setting with two names. -/
theorem settled_eq_iff (named : sources.IsNamed) :
    Settings.settled sources.setting? = Settings.settled sources.promised? ↔
      Coercion.settle Coercion.boolean false (sources.setting? .shouldMeansEventually) =
        Coercion.settle Coercion.boolean false (sources.promised? .shouldMeansEventually) := by
  rw [Settings.settled, Settings.settled, Settings.mk.injEq,
    setting?_of_ne named .maxRetries (by decide),
    setting?_of_ne named .retryInterval (by decide),
    setting?_of_ne named .delay (by decide)]
  simp

/-- The same number of settings is reported as is promised just if the setting with two names is
reported as promised. -/
theorem length_faulty_iff (named : sources.IsNamed) (accepted : sources.IsAccepted) :
    (sources.faulty.map Prod.fst).length = (SettingField.all.filter sources.isSpoilt).length ↔
      (sources.problem? .shouldMeansEventually).isSome =
        sources.isSpoilt .shouldMeansEventually := by
  rw [map_faulty, ← List.countP_eq_length_filter, ← List.countP_eq_length_filter]
  simp only [SettingField.all, List.countP_cons, List.countP_nil,
    isSome_problem?_of_ne named accepted .maxRetries (by decide),
    isSome_problem?_of_ne named accepted .retryInterval (by decide),
    isSome_problem?_of_ne named accepted .delay (by decide)]
  cases (sources.problem? .shouldMeansEventually).isSome <;>
    cases sources.isSpoilt .shouldMeansEventually <;> simp

/-- Where a keyword gives the setting with two names, or its own name gives nothing in the
environment or the same as its variable, it is what is promised of it, and only there. -/
theorem shouldMeansEventually_iff (named : sources.IsNamed) (accepted : sources.IsAccepted) :
    Coercion.settle Coercion.boolean false (sources.setting? .shouldMeansEventually) =
          Coercion.settle Coercion.boolean false (sources.promised? .shouldMeansEventually) ∧
        (sources.problem? .shouldMeansEventually).isSome =
          sources.isSpoilt .shouldMeansEventually ↔
      sources.hasKeyword SettingField.shouldMeansEventually.name ∨
        sources.variableText? SettingField.shouldMeansEventually.name = none ∨
        reading (sources.variableText? SettingField.shouldMeansEventually.name) =
          reading (sources.variableText?
            (LetterCase.smalls SettingField.shouldMeansEventually.variableName)) := by
  rw [isSome_problem? named accepted, isSpoilt, setting?_eq named, promised?,
    text?_shouldMeansEventually, hasKeyword]
  cases sources.keyword? SettingField.shouldMeansEventually.name with
  | some setting => simp
  | none =>
      cases sources.variableText? SettingField.shouldMeansEventually.name with
      | none => simp
      | some text =>
          simp only [Option.none_or, Option.some_or, Option.isSome_none, Bool.not_false,
            Bool.true_and, reading, Prod.mk.injEq, Option.any_map, reduceCtorEq, false_or,
            Bool.false_eq_true]

/-- Loading with recovery does what is promised of it, whatever the environment holds and
whatever accepted keywords name settings, just if the setting with two names is not looked up
under the wrong one: a keyword names it, or its own name gives nothing in the environment, or
what it gives there comes to the same as what its variable gives. -/
theorem recoversAsPromised_iff (named : sources.IsNamed) (accepted : sources.IsAccepted)
    (world : World) :
    sources.RecoversAsPromised world ↔
      sources.hasKeyword SettingField.shouldMeansEventually.name ∨
        sources.variableText? SettingField.shouldMeansEventually.name = none ∨
        reading (sources.variableText? SettingField.shouldMeansEventually.name) =
          reading (sources.variableText?
            (LetterCase.smalls SettingField.shouldMeansEventually.variableName)) := by
  rw [← shouldMeansEventually_iff named accepted, ← settled_eq_iff named]
  obtain ⟨records, loaded, each⟩ := loadRecovering_eq named accepted world
  constructor
  · rintro ⟨others, promised, also⟩
    rw [loaded] at promised
    have result := congrArg Prod.fst promised
    have written := congrArg (fun ended => ended.2.records.toList) promised
    have same : records = others := by
      simpa [World.withRecords] using written
    subst same
    refine ⟨by simpa using result, (length_faulty_iff named accepted).mp ?_⟩
    rw [each.length_eq, also.length_eq]
  · rintro ⟨settles, spoils⟩
    refine ⟨records, by rw [loaded, settles], ?_⟩
    have fields : sources.faulty.map Prod.fst = SettingField.all.filter sources.isSpoilt := by
      rw [map_faulty]
      refine List.filter_congr fun field _ => ?_
      by_cases two : field = .shouldMeansEventually
      · rw [two, spoils]
      · exact isSome_problem?_of_ne named accepted field two
    rw [← fields]
    exact each

/-- A budget that is no number, beside a keyword for the setting with two names: the default of
the budget is taken, and its variable is reported. -/
theorem recoversAsPromised_of_spoilt_budget :
    let sources : SettingSources :=
      ⟨[("fluentspec_max_retries", "many"), ("FLUENTSPEC_RETRY_INTERVAL", "0.25")],
        [("should_means_should_eventually", .value (.boolean true))]⟩
    sources.isSpoilt .maxRetries = true ∧ (Settings.settled sources.promised?).maxRetries = 5 ∧
      (Settings.settled sources.promised?).shouldMeansEventually = true ∧
      sources.RecoversAsPromised {} := by
  intro sources
  have named : sources.IsNamed := by
    intro keyword member
    obtain rfl := List.mem_singleton.mp member
    exact ⟨.shouldMeansEventually, rfl⟩
  have accepted : sources.IsAccepted := by
    intro field setting known
    cases field with
    | shouldMeansEventually =>
        obtain rfl := Option.some.inj known
        rfl
    | _ => cases known
  exact ⟨by decide +kernel, by decide +kernel, by decide +kernel,
    (recoversAsPromised_iff named accepted {}).mpr (.inl rfl)⟩

/-- The variable of the setting with two names is accepted and is still reported as not
parseable, and not heeded, because a variable of another name is not accepted. -/
theorem not_recoversAsPromised_of_two_names :
    let sources : SettingSources :=
      ⟨[("should_means_should_eventually", "maybe"),
        ("FLUENTSPEC_SHOULD_MEANS_EVENTUALLY", "true")], []⟩
    (Settings.settled sources.promised?).shouldMeansEventually = true ∧
      sources.isSpoilt .shouldMeansEventually = false ∧
      (Settings.loadRecovering sources {}).2.records.map LogRecord.message =
        #["FLUENTSPEC_SHOULD_MEANS_EVENTUALLY is not parseable: 'maybe' (Input should be a " ++
          "valid boolean, unable to interpret input); using default False"] ∧
      ¬ sources.RecoversAsPromised {} := by
  intro sources
  have heeded : (Settings.settled sources.promised?).shouldMeansEventually = true := by
    decide +kernel
  have loaded : (Settings.loadRecovering sources {}).1.map
      (fun result => result.toOption.map Settings.shouldMeansEventually) =
        .returned (some false) := by
    decide +kernel
  refine ⟨heeded, by decide +kernel, by decide +kernel, ?_⟩
  rintro ⟨records, promised, _⟩
  rw [promised] at loaded
  have flag := Option.some.inj (Outcome.returned.inj loaded)
  rw [heeded] at flag
  cases flag

end SettingSources

end DeferredSpec
