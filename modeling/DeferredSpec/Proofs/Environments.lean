/-
# What the environment decides

The variables of the settings begin with a stem of their own, so nothing else in an environment
should decide what is loaded. Two environments that agree on these variables give every setting
with one name the same value, the same problem and the same report. The setting with two names is
looked up in the environment under its own name as well, which does not begin with the stem. So
loading comes to the same in both just if this setting is read alike, or if a keyword makes both
fail before it matters.
-/

import DeferredSpec.Proofs.Overrides

namespace DeferredSpec

namespace SettingSources

/-- A name begins like the variables of the settings, in whatever case of letters. -/
def isVariable (name : String) : Bool :=
  (LetterCase.smalls SettingField.variableStem).toList.isPrefixOf (LetterCase.smalls name).toList

/-- The texts that an environment has under a name, in whatever case of letters. -/
def textsOf (environment : List (String × String)) (name : String) : List String :=
  (environment.filter fun entry => LetterCase.smalls entry.1 == LetterCase.smalls name).map Prod.snd

/-- Two environments agree on the variables of the settings: a name that begins like them has the
same texts in both. Where it stands there in several spellings, the last one counts, so their
order matters as well. -/
def AgreeOnVariables (environment other : List (String × String)) : Prop :=
  ∀ name, isVariable name → textsOf environment name = textsOf other name

/-- Loading comes to the same: the same settings or the same problems, with recovery too, and then
with the same reports. -/
def LoadsAlike (first second : SettingSources) : Prop :=
  Settings.load first = Settings.load second ∧
    Settings.loadRecovering first = Settings.loadRecovering second

/-- What the setting with two names is read as. -/
def flag (sources : SettingSources) : Except SettingProblem Bool :=
  sources.read .shouldMeansEventually false Coercion.boolean

theorem isVariable_variableName (field : SettingField) : isVariable field.variableName := by
  cases field <;> decide +kernel

/-- Environments with the same variables of the settings, in the same order, agree on them. -/
theorem agreeOnVariables_of_filter_eq {environment other : List (String × String)}
    (same : environment.filter (fun entry => isVariable entry.1) =
      other.filter fun entry => isVariable entry.1) : AgreeOnVariables environment other := by
  intro name begins
  have among (entries : List (String × String)) : textsOf entries name =
      textsOf (entries.filter fun entry => isVariable entry.1) name := by
    rw [textsOf, textsOf, List.filter_filter]
    apply congrArg (List.map Prod.snd)
    apply List.filter_congr
    intro entry _
    by_cases spelled : LetterCase.smalls entry.1 = LetterCase.smalls name
    · have also : isVariable entry.1 = true := by
        rw [isVariable, spelled]
        exact begins
      rw [also, Bool.and_true]
    · rw [beq_eq_false_iff_ne.mpr spelled, Bool.false_and]
  rw [among environment, among other, same]

/-- The last text of a variable that is not empty is heeded. -/
theorem variableText?_smalls (sources : SettingSources) (name : String) :
    sources.variableText? (LetterCase.smalls name) =
      ((textsOf sources.environment name).filter fun text => !text.isEmpty).getLast? := by
  rw [variableText?, ← List.head?_filter, List.filter_reverse, List.head?_reverse,
    List.filter_filter, textsOf, List.filter_map, List.filter_filter, List.getLast?_map]
  simp only [Function.comp_def, Bool.and_comm]

/-- Two sources have the same keywords, and environments that agree on the variables of the
settings. -/
structure AgreesWith (first second : SettingSources) : Prop where
  keywords : first.keywords = second.keywords
  environment : AgreeOnVariables first.environment second.environment

section Flag

variable {sources first second : SettingSources}

theorem flag_eq :
    sources.flag =
      match sources.problem? .shouldMeansEventually with
      | none => .ok (Coercion.settle Coercion.boolean false
          (sources.setting? .shouldMeansEventually))
      | some problem => .error problem :=
  sources.read_eq .shouldMeansEventually false Coercion.boolean fun _ => rfl

/-- A truth value that is not accepted gives way to the default. -/
theorem settle_of_isSome_problem? (has : (sources.problem? .shouldMeansEventually).isSome) :
    Coercion.settle Coercion.boolean false (sources.setting? .shouldMeansEventually) = false := by
  rw [isSome_problem?_eq] at has
  cases given : sources.setting? .shouldMeansEventually with
  | none => rfl
  | some setting =>
      rw [given, Option.any_some, SettingField.isAccepted, SettingField.fault?] at has
      rw [Coercion.settle]
      cases accepted : Coercion.boolean setting with
      | ok value => rw [accepted] at has; cases has
      | error fault => rfl

/-- The setting with two names is read alike just if it has the same problem and comes to the
same. -/
theorem flag_eq_flag_iff :
    first.flag = second.flag ↔
      first.problem? .shouldMeansEventually = second.problem? .shouldMeansEventually ∧
        Coercion.settle Coercion.boolean false (first.setting? .shouldMeansEventually) =
          Coercion.settle Coercion.boolean false (second.setting? .shouldMeansEventually) := by
  rw [flag_eq, flag_eq]
  cases has : first.problem? .shouldMeansEventually with
  | none =>
      cases also : second.problem? .shouldMeansEventually with
      | none => simp
      | some problem => simp
  | some problem =>
      cases also : second.problem? .shouldMeansEventually with
      | none => simp
      | some other =>
          rw [settle_of_isSome_problem? (Option.isSome_of_eq_some has),
            settle_of_isSome_problem? (Option.isSome_of_eq_some also)]
          simp

end Flag

namespace AgreesWith

variable {first second : SettingSources}

theorem withDefaults (agree : first.AgreesWith second) (fields : List SettingField) :
    (first.withDefaults fields).AgreesWith (second.withDefaults fields) :=
  ⟨congrArg (· ++ _) agree.keywords, agree.environment⟩

theorem keyword?_eq (agree : first.AgreesWith second) (name : String) :
    first.keyword? name = second.keyword? name :=
  congrArg (List.lookup name) agree.keywords

theorem fromKeywords?_eq (agree : first.AgreesWith second) (field : SettingField) :
    first.fromKeywords? field = second.fromKeywords? field := by
  obtain ⟨environment, keywords⟩ := first
  obtain ⟨other, also⟩ := second
  obtain rfl : keywords = also := agree.keywords
  rfl

/-- A setting with one name is given alike. -/
theorem given?_eq (agree : first.AgreesWith second) {field : SettingField}
    (one : field ≠ .shouldMeansEventually) : first.given? field = second.given? field := by
  have text : first.text? field = second.text? field := by
    rw [text?_of_ne field one, text?_of_ne field one, variableText?_smalls, variableText?_smalls,
      agree.environment field.variableName (isVariable_variableName field)]
  rw [given?, given?, fromEnvironment?, fromEnvironment?, ← text?, ← text?, text,
    agree.fromKeywords?_eq]

/-- The sources come to the same just if the setting with two names does. -/
theorem settled_eq_iff (agree : first.AgreesWith second) :
    Settings.settled first.setting? = Settings.settled second.setting? ↔
      Coercion.settle Coercion.boolean false (first.setting? .shouldMeansEventually) =
        Coercion.settle Coercion.boolean false (second.setting? .shouldMeansEventually) := by
  have alike (field : SettingField) (one : field ≠ .shouldMeansEventually) :
      first.setting? field = second.setting? field := by
    rw [setting?, setting?, agree.given?_eq one]
  rw [Settings.settled, Settings.settled, Settings.mk.injEq,
    alike .maxRetries (by decide), alike .retryInterval (by decide),
    alike .delay (by decide)]
  simp

/-- A setting with one name has the same problem. -/
theorem problem?_eq_of_ne (agree : first.AgreesWith second) (field : SettingField)
    (one : field ≠ .shouldMeansEventually) : first.problem? field = second.problem? field := by
  rw [problem?, problem?, agree.given?_eq one]

/-- Where the setting with two names has the same problem, all settings have the same
problems. -/
theorem problem?_eq (agree : first.AgreesWith second)
    (two : first.problem? .shouldMeansEventually = second.problem? .shouldMeansEventually) :
    first.problem? = second.problem? := by
  funext field
  by_cases named : field = .shouldMeansEventually
  · rw [named, two]
  · exact agree.problem?_eq_of_ne field named

/-- What loading comes to shows the problem of the setting with two names. -/
theorem problem?_eq_of_load_eq (agree : first.AgreesWith second)
    (same : Settings.load first = Settings.load second) :
    first.problem? .shouldMeansEventually = second.problem? .shouldMeansEventually := by
  have lists : SettingField.all.filterMap first.problem? =
      SettingField.all.filterMap second.problem? := by
    rw [load_eq, load_eq] at same
    cases found : SettingField.all.filterMap first.problem? with
    | nil =>
        cases also : SettingField.all.filterMap second.problem? with
        | nil => rfl
        | cons problem rest => rw [found, also] at same; cases same
    | cons problem rest =>
        cases also : SettingField.all.filterMap second.problem? with
        | nil => rw [found, also] at same; cases same
        | cons other others =>
            rw [found, also] at same
            exact Except.error.inj same
  -- the problems of the other settings stand before and after it in both lists
  simp only [List.filterMap_eq_flatMap_toList, SettingField.all, List.flatMap_cons,
    agree.problem?_eq_of_ne .maxRetries (by decide),
    agree.problem?_eq_of_ne .retryInterval (by decide),
    agree.problem?_eq_of_ne .delay (by decide)] at lists
  have alone := congrArg List.head? (List.append_cancel_right (List.append_cancel_left lists))
  rwa [Option.head?_toList, Option.head?_toList] at alone

/-- Loading comes to the same where the problems are the same and there are some, or none and
the settings come to the same. -/
theorem load_eq_load (agree : first.AgreesWith second)
    (two : first.problem? .shouldMeansEventually = second.problem? .shouldMeansEventually)
    (decided : Settings.settled first.setting? = Settings.settled second.setting? ∨
      ∃ field, (first.problem? field).isSome) :
    Settings.load first = Settings.load second := by
  rw [load_eq, load_eq, ← agree.problem?_eq two]
  cases found : SettingField.all.filterMap first.problem? with
  | cons problem rest => rfl
  | nil =>
      rcases decided with settles | ⟨field, has⟩
      · rw [settles]
      · rw [List.filterMap_eq_nil_iff] at found
        rw [found field field.mem_all] at has
        cases has

theorem replaceable?_eq (agree : first.AgreesWith second) (problem : SettingProblem) :
    Settings.replaceable? first problem = Settings.replaceable? second problem := by
  obtain ⟨environment, keywords⟩ := first
  obtain ⟨other, also⟩ := second
  obtain rfl : keywords = also := agree.keywords
  rfl

theorem recoverable_eq (agree : first.AgreesWith second) (problems : List SettingProblem) :
    Settings.recoverable first problems = Settings.recoverable second problems := by
  induction problems with
  | nil => rfl
  | cons problem rest ih =>
      rw [Settings.recoverable, Settings.recoverable, agree.replaceable?_eq, ih]

/-- Recovery comes to the same where the problems are the same and so is what the second loading
comes to. -/
theorem recover_eq_recover (agree : first.AgreesWith second)
    (two : first.problem? .shouldMeansEventually = second.problem? .shouldMeansEventually)
    (again : (∀ field, (first.problem? field).isSome → first.hasKeyword field.name = false) →
      Settings.load (first.withDefaults (first.faulty.map Prod.fst)) =
        Settings.load (second.withDefaults (first.faulty.map Prod.fst))) :
    Settings.recover first = Settings.recover second := by
  have problems := agree.problem?_eq two
  have names (name : String) : first.hasKeyword name = second.hasKeyword name := by
    rw [hasKeyword, hasKeyword, agree.keyword?_eq]
  rcases first.named_or_free with ⟨field, has, named⟩ | free
  · rw [recover_of_hasKeyword has named, agree.recoverable_eq, problems]
    rw [problems] at has
    rw [names] at named
    rw [recover_of_hasKeyword has named]
  · have same : first.faulty = second.faulty := by
      rw [faulty, faulty, problems]
    rw [recover_of_free free, again free, same, recover_of_free]
    intro field has
    rw [← problems] at has
    rw [← names]
    exact free field has

/-- Defaults that are added as keywords leave the setting with two names read alike. -/
theorem flag_withDefaults (agree : first.AgreesWith second) (same : first.flag = second.flag)
    (fields : List SettingField) :
    (first.withDefaults fields).flag = (second.withDefaults fields).flag := by
  have keywords := (agree.withDefaults fields).fromKeywords?_eq .shouldMeansEventually
  have absent (sources : SettingSources)
      (ungiven : (sources.withDefaults fields).fromKeywords? .shouldMeansEventually = none) :
      (sources.withDefaults fields).flag = sources.flag := by
    have before : sources.fromKeywords? .shouldMeansEventually = none := by
      have overrides : (sources.withDefaults fields).override? .shouldMeansEventually =
          none := by
        rw [override?, ungiven, Option.map_none]
      rw [override?_withDefaults_shouldMeansEventually, Option.or_eq_none_iff,
        Option.or_eq_none_iff] at overrides
      have plain := override?_shouldMeansEventually sources
      rw [overrides.1.1, overrides.2, override?, Option.none_or, Option.map_eq_none_iff] at plain
      exact plain
    rw [flag, flag, read, read, given?, given?, ungiven, before]
    rfl
  cases given : (first.withDefaults fields).fromKeywords? .shouldMeansEventually with
  | none => rw [absent first given, absent second (keywords.symm.trans given), same]
  | some setting =>
      rw [flag, flag, read, read, given?, given?, ← keywords, given]
      rfl

/-- Where the setting with two names is read alike, loading comes to the same. -/
theorem loadsAlike_of_flag_eq (agree : first.AgreesWith second)
    (same : first.flag = second.flag) : first.LoadsAlike second := by
  have loads {one other : SettingSources} (agree : one.AgreesWith other)
      (same : one.flag = other.flag) : Settings.load one = Settings.load other := by
    obtain ⟨two, settles⟩ := flag_eq_flag_iff.mp same
    exact agree.load_eq_load two (.inl (agree.settled_eq_iff.mpr settles))
  have recovers : Settings.recover first = Settings.recover second :=
    agree.recover_eq_recover (flag_eq_flag_iff.mp same).1 fun _ =>
      loads (agree.withDefaults _) (agree.flag_withDefaults same _)
  constructor
  · exact loads agree same
  · rw [Settings.loadRecovering, Settings.loadRecovering, recovers]

/-- Where a keyword that goes by the name of its setting is not accepted, what the setting with
two names comes to does not matter, as long as it is accepted. -/
theorem loadsAlike_of_rejectsOwnName (agree : first.AgreesWith second) {field : SettingField}
    (rejects : first.RejectsOwnName field)
    (sound : first.problem? .shouldMeansEventually = none)
    (also : second.problem? .shouldMeansEventually = none) : first.LoadsAlike second := by
  have two := sound.trans also.symm
  have has : (first.problem? field).isSome := by
    obtain ⟨⟨setting, known, rejected⟩, -⟩ := rejects
    rw [isSome_problem?_eq, setting?_eq_or, known, Option.some_or, Option.any_some, rejected]
    rfl
  have absent : SettingField.shouldMeansEventually ∉ first.faulty.map Prod.fst := by
    rw [mem_map_faulty, sound]
    exact Bool.false_ne_true
  have kept (sources : SettingSources) :
      ((sources.withDefaults (first.faulty.map Prod.fst)).problem? .shouldMeansEventually).isSome =
        (sources.problem? .shouldMeansEventually).isSome := by
    rw [isSome_problem?_eq, isSome_problem?_eq, setting?_withDefaults_of_not_mem _ absent]
  have still (sources : SettingSources)
      (before : sources.problem? .shouldMeansEventually = none) :
      (sources.withDefaults (first.faulty.map Prod.fst)).problem? .shouldMeansEventually =
        none := by
    rw [← Option.not_isSome_iff_eq_none, kept, before]
    exact Bool.false_ne_true
  have recovers : Settings.recover first = Settings.recover second :=
    agree.recover_eq_recover two fun free =>
      (agree.withDefaults _).load_eq_load ((still first sound).trans (still second also).symm)
        (.inr ⟨field, (isSome_problem?_withDefaults_iff free field).mpr rejects⟩)
  constructor
  · exact agree.load_eq_load two (.inr ⟨field, has⟩)
  · rw [Settings.loadRecovering, Settings.loadRecovering, recovers]

end AgreesWith

section Recovered

variable {sources : SettingSources}

/-- A setting that no keyword names is given as a text. -/
theorem input_of_hasKeyword_eq_false {field : SettingField} {problem : SettingProblem}
    (one : field ≠ .shouldMeansEventually) (has : sources.problem? field = some problem)
    (unnamed : sources.hasKeyword field.name = false) : ∃ text, problem.input = .text text := by
  have absent : sources.fromKeywords? field = none := by
    rw [hasKeyword, ← override?_of_ne sources field one, override?, Option.isSome_map,
      Option.isSome_eq_false_iff, Option.isNone_iff_eq_none] at unnamed
    exact unnamed
  rw [problem?, given?, absent, Option.none_or, fromEnvironment?] at has
  obtain ⟨given, found, faults⟩ := Option.bind_eq_some_iff.mp has
  obtain ⟨text, -, rfl⟩ := Option.map_eq_some_iff.mp found
  obtain ⟨fault, -, rfl⟩ := Option.map_eq_some_iff.mp faults
  exact ⟨text, rfl⟩

/-- Where every keyword that goes by the name of its setting is accepted, and so is the setting
with two names, recovery gives what the settings come to. -/
theorem loadRecovering_of_accepted (sources : SettingSources)
    (accepts : ∀ field, ¬ sources.RejectsOwnName field)
    (sound : sources.problem? .shouldMeansEventually = none) (world : World) :
    ∃ later, Settings.loadRecovering sources world =
      (.returned (.ok (Settings.settled sources.setting?)), later) := by
  have free := hasKeyword_eq_false_of_accepts accepts
  have texts : ∀ entry ∈ (Settings.recover sources).reported,
      ∃ text, entry.2.input = .text text := by
    rw [recover_of_free free]
    rintro ⟨field, problem⟩ member
    obtain ⟨other, -, found⟩ := List.mem_filterMap.mp member
    obtain ⟨known, has, same⟩ := Option.map_eq_some_iff.mp found
    cases same
    by_cases two : field = .shouldMeansEventually
    · rw [two, sound] at has
      cases has
    · exact input_of_hasKeyword_eq_false two has (free field (Option.isSome_of_eq_some has))
  obtain ⟨records, told, -⟩ := forEach_report world _ texts
  rw [Settings.loadRecovering, Effect.bind_apply, told]
  cases recovers : (Settings.recover sources).result with
  | error problems =>
      obtain ⟨field, rejects⟩ := recover_eq_error_iff.mp ⟨problems, recovers⟩
      exact absurd rejects (accepts field)
  | ok settings =>
      rw [recover_eq_ok recovers]
      exact ⟨_, rfl⟩

end Recovered

/-- The variables of the settings decide what is loaded, whatever else stands in the environment,
just if the setting with two names is read alike, or is accepted alike where a keyword makes
loading fail in any case. -/
theorem loadsAlike_iff (environment other : List (String × String))
    (keywords : List (String × Setting)) (agree : AgreeOnVariables environment other) :
    LoadsAlike ⟨environment, keywords⟩ ⟨other, keywords⟩ ↔
      flag ⟨environment, keywords⟩ = flag ⟨other, keywords⟩ ∨
        (∃ field, RejectsOwnName ⟨environment, keywords⟩ field) ∧
          (∃ value, flag ⟨environment, keywords⟩ = .ok value) ∧
          ∃ value, flag ⟨other, keywords⟩ = .ok value := by
  have agree : AgreesWith ⟨environment, keywords⟩ ⟨other, keywords⟩ := ⟨rfl, agree⟩
  constructor
  · rintro ⟨loads, recovers⟩
    have two := agree.problem?_eq_of_load_eq loads
    cases has : problem? ⟨environment, keywords⟩ .shouldMeansEventually with
    | some problem =>
        have also := two.symm.trans has
        rw [flag_eq, flag_eq, has, also]
        exact .inl rfl
    | none =>
        have also := two.symm.trans has
        by_cases rejects : ∃ field, RejectsOwnName ⟨environment, keywords⟩ field
        · rw [flag_eq, flag_eq, has, also]
          exact .inr ⟨rejects, ⟨_, rfl⟩, _, rfl⟩
        · have accepts : ∀ field, ¬ RejectsOwnName ⟨environment, keywords⟩ field :=
            not_exists.mp rejects
          obtain ⟨later, first⟩ :=
            loadRecovering_of_accepted ⟨environment, keywords⟩ accepts has {}
          obtain ⟨after, second⟩ :=
            loadRecovering_of_accepted ⟨other, keywords⟩ accepts also {}
          rw [recovers, second] at first
          have settles := Except.ok.inj (Outcome.returned.inj (congrArg Prod.fst first))
          exact .inl (flag_eq_flag_iff.mpr ⟨two, agree.settled_eq_iff.mp settles.symm⟩)
  · rintro (same | ⟨⟨field, rejects⟩, ⟨value, accepted⟩, result, also⟩)
    · exact agree.loadsAlike_of_flag_eq same
    · have sound {sources : SettingSources} {value : Bool} (read : sources.flag = .ok value) :
          sources.problem? .shouldMeansEventually = none := by
        rw [flag_eq] at read
        cases has : sources.problem? .shouldMeansEventually with
        | none => rfl
        | some problem => rw [has] at read; cases read
      exact agree.loadsAlike_of_rejectsOwnName rejects (sound accepted) (sound also)

/-- Variables that do not begin with the stem, beside one that does. -/
theorem loadsAlike_of_other_variables :
    let environment := [("PATH", "/bin"), ("FluentSpec_Max_Retries", "7"), ("MAX_RETRIES", "2")]
    let other := [("FluentSpec_Max_Retries", "7"), ("delay", "none")]
    AgreeOnVariables environment other ∧
      (Settings.load ⟨environment, []⟩).toOption.map Settings.maxRetries = some 7 ∧
      LoadsAlike ⟨environment, []⟩ ⟨other, []⟩ := by
  intro environment other
  have agree : AgreeOnVariables environment other :=
    agreeOnVariables_of_filter_eq (by decide +kernel)
  exact ⟨agree, by decide +kernel, (loadsAlike_iff environment other [] agree).mpr (.inl rfl)⟩

/-- A variable that does not begin with the stem decides the setting with two names. -/
theorem not_loadsAlike_of_own_name :
    let environment := [("should_means_should_eventually", "true")]
    AgreeOnVariables environment [] ∧
      (Settings.load ⟨environment, []⟩).toOption.map Settings.shouldMeansEventually = some true ∧
      (Settings.load ⟨[], []⟩).toOption.map Settings.shouldMeansEventually = some false ∧
      ¬ LoadsAlike ⟨environment, []⟩ ⟨[], []⟩ := by
  intro environment
  have heeded : (Settings.load ⟨environment, []⟩).toOption.map Settings.shouldMeansEventually =
      some true := by
    decide +kernel
  have standard : (Settings.load ⟨[], []⟩).toOption.map Settings.shouldMeansEventually =
      some false := by
    decide +kernel
  refine ⟨agreeOnVariables_of_filter_eq (by decide +kernel), heeded, standard, ?_⟩
  rintro ⟨loads, -⟩
  rw [loads, standard] at heeded
  cases heeded

end SettingSources

end DeferredSpec
