/-
# Overrides that are not accepted

A keyword is an explicit wish, so one that is not accepted must surface. Loading with recovery
tells the problem of a keyword from that of a variable by asking whether some keyword has the
name of the setting. So a keyword that is not accepted surfaces just if it goes by that name, in
whatever case of letters. The setting with two names can be given under the other one as well;
there its keyword passes for a variable, is reported like one, and gives way to the default.
-/

import DeferredSpec.Proofs.Recovery
import Mathlib.Data.List.TakeWhile

namespace DeferredSpec

namespace SettingSources

section Keywords

variable (sources : SettingSources)

/-- What the keywords give for a setting. -/
def override? (field : SettingField) : Option Setting :=
  (sources.fromKeywords? field).map GivenSetting.setting

/-- What a keyword gives for a setting is not accepted. -/
def RejectsKeyword (field : SettingField) : Prop :=
  ∃ setting, sources.override? field = some setting ∧ field.isAccepted setting = false

/-- What a keyword gives for a setting is not accepted, and the keyword that is heeded is spelled
like the setting, in some case of letters. -/
def RejectsOwnName (field : SettingField) : Prop :=
  sources.RejectsKeyword field ∧ (sources.anyCaseKeyword? field.name).isSome

/-- Loading with recovery says what it could not accept, and nothing is loaded. -/
def IsRefused (world : World) : Prop :=
  ∃ problems later, Settings.loadRecovering sources world = (.returned (.error problems), later)

theorem override?_of_ne (field : SettingField) (other : field ≠ .shouldMeansEventually) :
    sources.override? field = sources.keyword? field.name := by
  have direct : sources.fromKeywords? field =
      (sources.keyword? field.name).map (GivenSetting.mk field.name) := by
    cases field with
    | shouldMeansEventually => exact absurd rfl other
    | _ => rfl
  rw [override?, direct, Option.map_map]
  exact Option.map_id'

/-- The setting with two names heeds its own name first. -/
theorem override?_shouldMeansEventually :
    sources.override? .shouldMeansEventually =
      (sources.anyCaseKeyword? SettingField.shouldMeansEventually.name).or
        (sources.anyCaseKeyword? SettingField.shouldMeansEventually.variableName) := by
  have direct : sources.fromKeywords? .shouldMeansEventually =
      ([SettingField.shouldMeansEventually.name,
          SettingField.shouldMeansEventually.variableName].findSome? sources.anyCaseKeyword?).map
        (GivenSetting.mk (sources.keywordLocation .shouldMeansEventually)) := rfl
  rw [override?, direct, Option.map_map, List.findSome?_cons]
  cases sources.anyCaseKeyword? SettingField.shouldMeansEventually.name with
  | some setting => rfl
  | none =>
      rw [List.findSome?_singleton, Option.none_or]
      exact Option.map_id'

/-- A setting is given by the keywords, and by the environment if they do not give it. -/
theorem setting?_eq_or (field : SettingField) :
    sources.setting? field =
      (sources.override? field).or
        ((sources.text? field).map fun text => .value (.text text)) := by
  rw [setting?, given?, override?, fromEnvironment?, ← text?]
  cases sources.fromKeywords? field with
  | some given => rfl
  | none => rw [Option.map_none, Option.none_or, Option.none_or, Option.map_map]; rfl

/-- A setting has a problem if what is given for it is not accepted. -/
theorem isSome_problem?_eq (field : SettingField) :
    (sources.problem? field).isSome =
      (sources.setting? field).any fun setting => !field.isAccepted setting := by
  rw [problem?, setting?]
  cases sources.given? field with
  | none => rfl
  | some given =>
      rw [Option.bind_some, Option.isSome_map, Option.map_some, Option.any_some,
        SettingField.isAccepted, Option.not_isNone]

variable {sources}

/-- A keyword in the spelling of a name is one of that name in some case of letters. -/
theorem isSome_anyCaseKeyword?_of_hasKeyword {name : String} (named : sources.hasKeyword name) :
    (sources.anyCaseKeyword? name).isSome := by
  rw [hasKeyword, keyword?, List.lookup_isSome_iff] at named
  obtain ⟨keyword, member, spelled⟩ := named
  rw [anyCaseKeyword?, Option.isSome_map, List.find?_isSome]
  refine ⟨keyword, member, ?_⟩
  rw [← eq_of_beq spelled]
  exact beq_self_eq_true _

/-- A problem that a setting has although a keyword names it is one of that keyword. -/
theorem rejectsOwnName_of_hasKeyword {field : SettingField}
    (has : (sources.problem? field).isSome) (named : sources.hasKeyword field.name) :
    sources.RejectsOwnName field := by
  have spelled := isSome_anyCaseKeyword?_of_hasKeyword named
  have overridden : (sources.override? field).isSome := by
    by_cases two : field = .shouldMeansEventually
    · rw [two] at spelled ⊢
      rw [override?_shouldMeansEventually, Option.isSome_or, spelled, Bool.true_or]
    · rw [override?_of_ne sources field two]
      exact named
  obtain ⟨setting, known⟩ := Option.isSome_iff_exists.mp overridden
  rw [isSome_problem?_eq, setting?_eq_or, known, Option.some_or, Option.any_some,
    Bool.not_eq_true'] at has
  exact ⟨⟨setting, known, has⟩, spelled⟩

/-- Where every keyword that goes by the name of its setting is accepted, no keyword names a
setting with a problem. -/
theorem hasKeyword_eq_false_of_accepts (accepts : ∀ field, ¬ sources.RejectsOwnName field)
    (field : SettingField) (has : (sources.problem? field).isSome) :
    sources.hasKeyword field.name = false :=
  Bool.eq_false_iff.mpr fun named => accepts field (rejectsOwnName_of_hasKeyword has named)

/-- Some setting with a problem is named by a keyword, or none is. -/
theorem named_or_free (sources : SettingSources) :
    (∃ field, (sources.problem? field).isSome ∧ sources.hasKeyword field.name) ∨
      ∀ field, (sources.problem? field).isSome → sources.hasKeyword field.name = false := by
  by_cases held : ∃ field, (sources.problem? field).isSome ∧ sources.hasKeyword field.name
  · exact .inl held
  · exact .inr fun field has => Bool.eq_false_iff.mpr fun named => held ⟨field, has, named⟩

end Keywords

section Locations

variable {sources : SettingSources}

/-- What a keyword gives is located at its setting, under one name or the other. -/
theorem ofLocation?_keywordLocation (field : SettingField) :
    SettingField.ofLocation? (sources.keywordLocation field) = some field := by
  have named : ∀ name ∈ field.name :: field.aliases,
      SettingField.ofLocation? name = some field := by
    cases field <;> decide +kernel
  rw [keywordLocation]
  cases found : (field.name :: field.aliases).find? sources.hasKeyword with
  | none => exact named field.name List.mem_cons_self
  | some name => exact named name (List.mem_of_find?_eq_some found)

theorem ofLocation?_given {field : SettingField} {given : GivenSetting}
    (found : sources.given? field = some given) :
    SettingField.ofLocation? given.location = some field := by
  rw [given?, Option.or_eq_some_iff] at found
  rcases found with keyword | ⟨-, variable_⟩
  · rw [fromKeywords?] at keyword
    split at keyword
    · obtain ⟨setting, -, rfl⟩ := Option.map_eq_some_iff.mp keyword
      exact field.ofLocation?_name
    · obtain ⟨setting, -, rfl⟩ := Option.map_eq_some_iff.mp keyword
      exact ofLocation?_keywordLocation field
  · obtain ⟨text, -, rfl⟩ := Option.map_eq_some_iff.mp variable_
    exact field.ofLocation?_name

/-- The problem of a setting is located at it. -/
theorem ofLocation?_problem {field : SettingField} {problem : SettingProblem}
    (has : sources.problem? field = some problem) :
    SettingField.ofLocation? problem.location = some field := by
  obtain ⟨given, found, faults⟩ := Option.bind_eq_some_iff.mp has
  obtain ⟨fault, -, rfl⟩ := Option.map_eq_some_iff.mp faults
  exact ofLocation?_given found

/-- Problems are recovered from up to the first of a setting that a keyword names. -/
theorem recoverable_eq_takeWhile (sources : SettingSources) (fields : List SettingField) :
    Settings.recoverable sources (fields.filterMap sources.problem?) =
      (fields.filterMap fun field => (sources.problem? field).map (field, ·)).takeWhile
        fun entry => !sources.hasKeyword entry.1.name := by
  induction fields with
  | nil => rfl
  | cons field rest ih =>
      rw [List.filterMap_cons, List.filterMap_cons]
      cases has : sources.problem? field with
      | none => exact ih
      | some problem =>
          have replaces : Settings.replaceable? sources problem =
              if sources.hasKeyword field.name then none else some field := by
            rw [Settings.replaceable?, ofLocation?_problem has]
          rw [Option.map_some, List.takeWhile_cons, Settings.recoverable, replaces]
          cases sources.hasKeyword field.name with
          | true => rfl
          | false => exact congrArg ((field, problem) :: ·) ih

/-- Each setting with a problem is counted once. -/
theorem length_faulty (sources : SettingSources) :
    sources.faulty.length = (SettingField.all.filterMap sources.problem?).length := by
  have problems : sources.faulty.map Prod.snd = SettingField.all.filterMap sources.problem? := by
    rw [faulty, List.map_filterMap]
    congr 1
    funext field
    cases sources.problem? field <;> rfl
  rw [← problems, List.length_map]

/-- Where a keyword names a setting with a problem, loading with recovery gives up. -/
theorem recover_of_hasKeyword {field : SettingField} (has : (sources.problem? field).isSome)
    (named : sources.hasKeyword field.name) :
    Settings.recover sources =
      ⟨Settings.recoverable sources (SettingField.all.filterMap sources.problem?),
        .error (SettingField.all.filterMap sources.problem?)⟩ := by
  have front := recoverable_eq_takeWhile sources SettingField.all
  rw [← faulty] at front
  have member : field ∈ sources.faulty.map Prod.fst := (mem_map_faulty field).mpr has
  obtain ⟨entry, listed, same⟩ := List.mem_map.mp member
  have shorter : (Settings.recoverable sources
      (SettingField.all.filterMap sources.problem?)).length <
        (SettingField.all.filterMap sources.problem?).length := by
    rw [front, ← length_faulty]
    apply lt_of_le_of_ne (List.takeWhile_prefix _).length_le
    intro full
    have whole := (List.takeWhile_prefix _).eq_of_length full
    have unnamed := List.takeWhile_eq_self_iff.mp whole entry listed
    rw [same, named] at unnamed
    cases unnamed
  rw [Settings.recover, load_eq]
  cases problems : SettingField.all.filterMap sources.problem? with
  | nil =>
      rw [problems] at shorter
      exact absurd shorter (Nat.not_lt_zero _)
  | cons first rest =>
      rw [problems] at shorter
      exact if_pos shorter

/-- Where no keyword names a setting with a problem, loading with recovery loads again, with the
defaults in the place of all that has problems. -/
theorem recover_of_free
    (free : ∀ field, (sources.problem? field).isSome → sources.hasKeyword field.name = false) :
    Settings.recover sources =
      ⟨sources.faulty, Settings.load (sources.withDefaults (sources.faulty.map Prod.fst))⟩ := by
  have all : Settings.recoverable sources (SettingField.all.filterMap sources.problem?) =
      sources.faulty := by
    rw [recoverable_eq_takeWhile, ← faulty, List.takeWhile_eq_self_iff]
    intro entry listed
    rw [free entry.1 ((mem_map_faulty entry.1).mp (List.mem_map_of_mem listed))]
    rfl
  have counted := length_faulty sources
  rw [Settings.recover]
  have first := load_eq sources
  cases problems : SettingField.all.filterMap sources.problem? with
  | nil =>
      rw [problems] at first counted
      have none := List.eq_nil_of_length_eq_zero counted
      have unchanged : sources.withDefaults [] = sources := by
        rw [withDefaults, List.map_nil, List.append_nil]
      rw [none, List.map_nil, unchanged]
      simp only [first]
  | cons problem rest =>
      rw [problems] at first counted all
      simp only [first, all, counted, Nat.lt_irrefl, if_false]

end Locations

section Defaults

variable {sources : SettingSources} (fields : List SettingField)

/-- The keywords in some case of letters after some defaults were added. -/
theorem anyCaseKeyword?_withDefaults_name (field : SettingField) :
    (sources.withDefaults fields).anyCaseKeyword? field.name =
      (sources.anyCaseKeyword? field.name).or
        (if field ∈ fields then some (.value field.default) else none) := by
  have standing : ((fields.map fun other => (other.name, Setting.value other.default)).find?
      fun given => LetterCase.smalls given.1 == LetterCase.smalls field.name).map Prod.snd =
        if field ∈ fields then some (.value field.default) else none := by
    induction fields with
    | nil => rfl
    | cons first rest ih =>
        rw [List.map_cons, List.find?_cons, SettingField.smalls_name, SettingField.smalls_name]
        rw [SettingField.smalls_name] at ih
        by_cases same : field = first
        · simp [same]
        · have other : (first.name == field.name) = false :=
            beq_false_of_ne fun equal => same (SettingField.name_injective equal.symm)
          simp only [other, ih, List.mem_cons, same, false_or]
  rw [anyCaseKeyword?, withDefaults, List.find?_append, ← standing, anyCaseKeyword?]
  cases sources.keywords.find? _ <;> rfl

/-- Defaults are not given under the names of variables. -/
theorem anyCaseKeyword?_withDefaults_variableName (field : SettingField) :
    (sources.withDefaults fields).anyCaseKeyword? field.variableName =
      sources.anyCaseKeyword? field.variableName := by
  have standing : (fields.map fun other => (other.name, Setting.value other.default)).find?
      (fun given => LetterCase.smalls given.1 == LetterCase.smalls field.variableName) = none := by
    rw [List.find?_eq_none]
    intro keyword member
    obtain ⟨other, -, rfl⟩ := List.mem_map.mp member
    rw [SettingField.smalls_name, beq_eq_false_iff_ne.mpr (other.name_ne_variableName field)]
    exact Bool.false_ne_true
  rw [anyCaseKeyword?, withDefaults, List.find?_append, standing, Option.or_none, anyCaseKeyword?]

theorem override?_withDefaults_of_ne (field : SettingField)
    (other : field ≠ .shouldMeansEventually) :
    (sources.withDefaults fields).override? field =
      (sources.override? field).or
        (if field ∈ fields then some (.value field.default) else none) := by
  rw [override?_of_ne _ field other, override?_of_ne _ field other, keyword?_withDefaults]

theorem override?_withDefaults_shouldMeansEventually :
    (sources.withDefaults fields).override? .shouldMeansEventually =
      ((sources.anyCaseKeyword? SettingField.shouldMeansEventually.name).or
          (if SettingField.shouldMeansEventually ∈ fields then
            some (.value SettingField.shouldMeansEventually.default) else none)).or
        (sources.anyCaseKeyword? SettingField.shouldMeansEventually.variableName) := by
  rw [override?_shouldMeansEventually, anyCaseKeyword?_withDefaults_name,
    anyCaseKeyword?_withDefaults_variableName]

/-- A setting whose default was not added is given as before. -/
theorem setting?_withDefaults_of_not_mem {field : SettingField} (absent : field ∉ fields) :
    (sources.withDefaults fields).setting? field = sources.setting? field := by
  have kept : (sources.withDefaults fields).override? field = sources.override? field := by
    by_cases two : field = .shouldMeansEventually
    · subst two
      rw [override?_withDefaults_shouldMeansEventually, override?_shouldMeansEventually,
        if_neg absent, Option.or_none]
    · rw [override?_withDefaults_of_ne fields field two, if_neg absent, Option.or_none]
  rw [setting?_eq_or, setting?_eq_or, kept]
  rfl

end Defaults

variable {sources : SettingSources}

/-- A default stands for a setting with a problem, unless a keyword that goes by its name is not
accepted. -/
theorem setting?_withDefaults_faulty
    (free : ∀ field, (sources.problem? field).isSome → sources.hasKeyword field.name = false)
    {field : SettingField} (has : (sources.problem? field).isSome)
    (accepts : ¬ sources.RejectsOwnName field) :
    (sources.withDefaults (sources.faulty.map Prod.fst)).setting? field =
      some (.value field.default) := by
  have listed := (mem_map_faulty field).mpr has
  rw [setting?_eq_or]
  by_cases two : field = .shouldMeansEventually
  · subst two
    have absent : sources.anyCaseKeyword? SettingField.shouldMeansEventually.name = none := by
      cases own : sources.anyCaseKeyword? SettingField.shouldMeansEventually.name with
      | none => rfl
      | some setting =>
          have known : sources.override? .shouldMeansEventually = some setting := by
            rw [override?_shouldMeansEventually, own, Option.some_or]
          rw [isSome_problem?_eq, setting?_eq_or, known, Option.some_or, Option.any_some,
            Bool.not_eq_true'] at has
          exact absurd ⟨⟨setting, known, has⟩, Option.isSome_of_eq_some own⟩ accepts
    rw [override?_withDefaults_shouldMeansEventually, absent, if_pos listed, Option.none_or,
      Option.some_or, Option.some_or]
  · have unnamed := free field has
    rw [hasKeyword, ← override?_of_ne sources field two, Option.isSome_eq_false_iff,
      Option.isNone_iff_eq_none] at unnamed
    rw [override?_withDefaults_of_ne _ field two, unnamed, if_pos listed, Option.none_or,
      Option.some_or]

/-- A keyword that goes by the name of its setting stands before the default. -/
theorem override?_withDefaults_of_own_name (fields : List SettingField) {field : SettingField}
    {setting : Setting} (known : sources.override? field = some setting)
    (spelled : (sources.anyCaseKeyword? field.name).isSome) :
    (sources.withDefaults fields).override? field = some setting := by
  by_cases two : field = .shouldMeansEventually
  · subst two
    obtain ⟨own, found⟩ := Option.isSome_iff_exists.mp spelled
    rw [override?_shouldMeansEventually, found, Option.some_or] at known
    rw [override?_withDefaults_shouldMeansEventually, found, Option.some_or, Option.some_or, known]
  · rw [override?_withDefaults_of_ne fields field two, known, Option.some_or]

/-- With the defaults in the place of all that has problems, a setting still has one just if a
keyword that goes by its name is not accepted. -/
theorem isSome_problem?_withDefaults_iff
    (free : ∀ field, (sources.problem? field).isSome → sources.hasKeyword field.name = false)
    (field : SettingField) :
    ((sources.withDefaults (sources.faulty.map Prod.fst)).problem? field).isSome ↔
      sources.RejectsOwnName field := by
  constructor
  · intro still
    by_contra accepts
    by_cases has : (sources.problem? field).isSome
    · rw [isSome_problem?_eq, setting?_withDefaults_faulty free has accepts, Option.any_some,
        field.isAccepted_default] at still
      cases still
    · have absent : field ∉ sources.faulty.map Prod.fst := mt (mem_map_faulty field).mp has
      rw [isSome_problem?_eq, setting?_withDefaults_of_not_mem _ absent, ← isSome_problem?_eq]
        at still
      exact has still
  · rintro ⟨⟨setting, known, rejected⟩, spelled⟩
    rw [isSome_problem?_eq, setting?_eq_or, override?_withDefaults_of_own_name _ known spelled,
      Option.some_or, Option.any_some, rejected]
    rfl

/-- Loading fails just if some setting has a problem. -/
theorem load_eq_error_iff :
    (∃ problems, Settings.load sources = .error problems) ↔
      ∃ field, (sources.problem? field).isSome := by
  rw [load_eq]
  constructor
  · rintro ⟨problems, failed⟩
    cases found : SettingField.all.filterMap sources.problem? with
    | nil => rw [found] at failed; cases failed
    | cons problem rest =>
        have member : problem ∈ SettingField.all.filterMap sources.problem? := by
          rw [found]
          exact List.mem_cons_self
        obtain ⟨field, -, has⟩ := List.mem_filterMap.mp member
        exact ⟨field, Option.isSome_of_eq_some has⟩
  · rintro ⟨field, has⟩
    obtain ⟨problem, has⟩ := Option.isSome_iff_exists.mp has
    have member := List.mem_filterMap.mpr ⟨field, field.mem_all, has⟩
    cases found : SettingField.all.filterMap sources.problem? with
    | nil => rw [found] at member; cases member
    | cons problem rest => exact ⟨_, rfl⟩

/-- Recovery gives up just if a keyword that goes by the name of its setting is not accepted. -/
theorem recover_eq_error_iff :
    (∃ problems, (Settings.recover sources).result = .error problems) ↔
      ∃ field, sources.RejectsOwnName field := by
  rcases sources.named_or_free with ⟨field, has, named⟩ | free
  · exact iff_of_true ⟨_, congrArg Settings.Recovery.result (recover_of_hasKeyword has named)⟩
      ⟨field, rejectsOwnName_of_hasKeyword has named⟩
  · rw [recover_of_free free, load_eq_error_iff]
    exact exists_congr fun field => isSome_problem?_withDefaults_iff free field

/-- What recovery gives is what the settings come to, each by itself. -/
theorem recover_eq_ok {settings : Settings}
    (recovers : (Settings.recover sources).result = .ok settings) :
    settings = Settings.settled sources.setting? := by
  have accepts : ∀ field, ¬ sources.RejectsOwnName field := by
    intro field rejects
    obtain ⟨problems, failed⟩ := recover_eq_error_iff.mpr ⟨field, rejects⟩
    rw [recovers] at failed
    cases failed
  have free := hasKeyword_eq_false_of_accepts accepts
  have cleared : SettingField.all.filterMap
      (sources.withDefaults (sources.faulty.map Prod.fst)).problem? = [] := by
    rw [List.filterMap_eq_nil_iff]
    intro field _
    rw [← Option.not_isSome_iff_eq_none, isSome_problem?_withDefaults_iff free]
    exact accepts field
  rw [recover_of_free free, load_eq, cleared] at recovers
  obtain rfl := Except.ok.inj recovers
  apply Eq.symm
  apply Settings.settled_congr
  intro field
  by_cases has : (sources.problem? field).isSome
  · refine .inr ⟨setting?_withDefaults_faulty free has (accepts field), ?_⟩
    intro setting given
    rw [isSome_problem?_eq, given, Option.any_some, Bool.not_eq_true'] at has
    exact has
  · have absent : field ∉ sources.faulty.map Prod.fst := mt (mem_map_faulty field).mp has
    exact .inl (setting?_withDefaults_of_not_mem _ absent).symm

/-! ### Reports -/

theorem ignoresLog_report (field : SettingField) (problem : SettingProblem) :
    Action.IgnoresLog (Settings.report field problem) :=
  (Action.ignoresLog_display problem.input).bind fun _ =>
    (Action.ignoresLog_display field.default).bind fun _ => .pure _

theorem onlyAsks_report (field : SettingField) (problem : SettingProblem) :
    Action.OnlyAsks (Settings.report field problem) :=
  (Action.onlyAsks_display problem.input).bind fun _ =>
    (Action.onlyAsks_display field.default).bind fun _ => .pure _

/-- All is reported just if every report can be put into words. -/
theorem forEach_report_isReturned_iff (reported : List (SettingField × SettingProblem))
    (world : World) :
    (Effect.forEach
        (fun entry : SettingField × SettingProblem => do
          let message ← Settings.report entry.1 entry.2
          Action.log errorLevel settingsLogger message)
        reported world).1.isReturned ↔
      ∀ entry ∈ reported, (Settings.report entry.1 entry.2 world).1.isReturned := by
  induction reported generalizing world with
  | nil => simp [Outcome.isReturned]
  | cons entry rest ih =>
      rw [Effect.forEach_cons, Effect.bind_apply, Effect.bind_apply, List.forall_mem_cons]
      rcases said : Settings.report entry.1 entry.2 world with ⟨outcome, later⟩
      cases outcome with
      | raised error => simp [Outcome.isReturned]
      | returned message =>
          obtain rfl := onlyAsks_report entry.1 entry.2 world message later said
          -- what is reported later does not depend on this record
          have logged : ∀ other : SettingField × SettingProblem,
              (Settings.report other.1 other.2
                (later.record ⟨errorLevel, settingsLogger, message⟩)).1 =
                  (Settings.report other.1 other.2 later).1 := by
            intro other
            obtain ⟨written, same⟩ := ignoresLog_report other.1 other.2
              (later.records.push ⟨errorLevel, settingsLogger, message⟩) later
            show (Settings.report other.1 other.2 (later.withRecords _)).1 = _
            rw [same]
          have onward := ih (later.record ⟨errorLevel, settingsLogger, message⟩)
          simp only [logged] at onward
          rw [and_iff_right (show (Outcome.returned message).isReturned = true from rfl)]
          exact onward

/-- Invalid overrides surface: whatever the environment holds, loading with recovery fails just if
a keyword that is not accepted goes by the name of its setting, provided that what is reported
before can be put into words. -/
theorem isRefused_iff (world : World) :
    sources.IsRefused world ↔
      (∃ field, sources.RejectsOwnName field) ∧
        ∀ entry ∈ (Settings.recover sources).reported,
          (Settings.report entry.1 entry.2 world).1.isReturned := by
  rw [← recover_eq_error_iff, ← forEach_report_isReturned_iff]
  have unfolded : Settings.loadRecovering sources world = _ := Effect.bind_apply _ _ world
  rcases told : Effect.forEach _ (Settings.recover sources).reported world with ⟨outcome, later⟩
  rw [told] at unfolded
  cases outcome with
  | raised error =>
      apply iff_of_false
      · rintro ⟨problems, after, ended⟩
        rw [unfolded] at ended
        cases ended
      · rintro ⟨-, returned⟩
        cases returned
  | returned value =>
      rw [IsRefused, unfolded, and_iff_left (show (Outcome.returned value).isReturned = true from rfl)]
      constructor
      · rintro ⟨problems, after, ended⟩
        exact ⟨problems, Outcome.returned.inj (congrArg Prod.fst ended)⟩
      · rintro ⟨problems, failed⟩
        exact ⟨problems, later, congrArg (fun result => (Outcome.returned result, later)) failed⟩

/-- A keyword under the other name of the setting with two names is not accepted. It is reported
as a variable, and the default is returned. -/
theorem not_isRefused_of_other_name :
    let sources : SettingSources :=
      ⟨[], [("FLUENTSPEC_SHOULD_MEANS_EVENTUALLY", .value (.text "maybe"))]⟩
    sources.RejectsKeyword .shouldMeansEventually ∧
      (Settings.loadRecovering sources {}).1.map
          (fun result => result.toOption.map Settings.shouldMeansEventually) =
        .returned (some false) ∧
      (Settings.loadRecovering sources {}).2.records.map LogRecord.message =
        #["FLUENTSPEC_SHOULD_MEANS_EVENTUALLY is not parseable: 'maybe' (Input should be a " ++
          "valid boolean, unable to interpret input); using default False"] ∧
      ¬ sources.IsRefused {} := by
  intro sources
  have loaded : (Settings.loadRecovering sources {}).1.map
      (fun result => result.toOption.map Settings.shouldMeansEventually) =
        .returned (some false) := by
    decide +kernel
  have given : sources.override? .shouldMeansEventually = some (.value (.text "maybe")) := by
    rw [override?_shouldMeansEventually]
    rfl
  refine ⟨⟨_, given, by decide +kernel⟩, loaded, by decide +kernel, ?_⟩
  rintro ⟨problems, later, ended⟩
  rw [ended] at loaded
  cases loaded

end SettingSources

end DeferredSpec
