/-
# Intervals that can be waited for

Whatever the sources hold, the budget that is loaded is not negative, so an engine can be made of
the settings. The interval is checked by rejecting what lies below zero. A NaN does not lie below
zero, but it is not at least zero either, and it is no interval to wait for. It is the only
double that the check lets through wrongly: where no NaN is given, the interval is at least zero,
and the delay of the engine waits for it just if it is above zero, and runs the retry once.
-/

import DeferredSpec.Proofs.Delays
import DeferredSpec.Proofs.Overrides
import DeferredSpec.Samples.Objects
import DeferredSpec.Settings.Engine
import DeferredSpec.Value.Comparison
import Mathlib.Data.Rat.Defs
import Mathlib.Algebra.Order.Ring.Rat

namespace DeferredSpec

namespace Binary64

/-- A double is at least zero, as values compare. -/
def IsAtLeastZero (value : Binary64) : Prop :=
  Snapshot.compare .atLeast (.float value) (.integer 0) = .ok true

/-- A double is above zero, as values compare. -/
def IsAboveZero (value : Binary64) : Prop :=
  Snapshot.compare .above (.float value) (.integer 0) = .ok true

/-- A double compares with zero by its place on the extended line. -/
theorem compare_zero (test : OrderTest) (value : Binary64) :
    Snapshot.compare test (.float value) (.integer 0) =
      .ok (test.accepts (Snapshot.relateNumbers value.toExtended? (some (.rational 0)))) := rfl

/-- A finite double compares with zero as its exact value does. -/
theorem relateNumbers_rational (place : Rat) :
    Snapshot.relateNumbers (some (.rational place)) (some (.rational 0)) =
      some (if place < 0 then .lt else if 0 < place then .gt else .eq) := by
  simp [Snapshot.relateNumbers]

theorem isAtLeastZero_finite (negative : Bool) (significand : Nat) (exponent : Int) :
    (finite negative significand exponent).IsAtLeastZero ↔
      0 ≤ finiteValue negative significand exponent := by
  rw [IsAtLeastZero, compare_zero, toExtended?, relateNumbers_rational, ← not_lt]
  split
  · simp [OrderTest.accepts, *]
  · split <;> simp [OrderTest.accepts, *]

theorem isAboveZero_finite (negative : Bool) (significand : Nat) (exponent : Int) :
    (finite negative significand exponent).IsAboveZero ↔
      0 < finiteValue negative significand exponent := by
  rw [IsAboveZero, compare_zero, toExtended?, relateNumbers_rational]
  split
  · have below : finiteValue negative significand exponent < 0 := by assumption
    simp [OrderTest.accepts, below.le]
  · split <;> simp [OrderTest.accepts, *]

/-- Only zero stands for nothing. -/
theorem scaled_eq_zero_iff (significand : Nat) (exponent : Int) :
    scaled significand exponent = 0 ↔ significand = 0 := by
  have power (count : Nat) : Nat.pow 2 count ≠ 0 := (Nat.two_pow_pos count).ne'
  rw [scaled]
  split
  · rw [Rat.mkRat_eq_zero (power _), Int.natCast_eq_zero]
  · rw [Rat.mkRat_eq_zero Nat.one_ne_zero]
    have scale := power exponent.toNat
    constructor
    · intro product
      rcases Int.mul_eq_zero.mp product with none | none
      · exact Int.natCast_eq_zero.mp none
      · exact absurd (Int.natCast_eq_zero.mp none) scale
    · rintro rfl
      exact Int.zero_mul _

/-- What stands for a finite double is zero just if the double is. -/
theorem finiteValue_eq_zero_iff (negative : Bool) (significand : Nat) (exponent : Int) :
    finiteValue negative significand exponent = 0 ↔
      (finite negative significand exponent).isZero = true := by
  rw [isZero, beq_iff_eq, ← scaled_eq_zero_iff significand exponent, finiteValue]
  cases negative with
  | true => exact neg_eq_zero
  | false => rfl

/-- What does not lie below zero is at least zero, unless it is a NaN. -/
theorem isAtLeastZero_iff {value : Binary64} (sound : Coercion.isBelowZero value = false) :
    value.IsAtLeastZero ↔ ∀ payload, value ≠ .nan payload := by
  cases value with
  | nan payload =>
      apply iff_of_false
      · intro least
        cases least
      · intro number
        exact number payload rfl
  | infinite negative =>
      cases negative with
      | true => cases sound
      | false => exact iff_of_true rfl nofun
  | finite negative significand exponent =>
      have place : decide (finiteValue negative significand exponent < 0) = false := sound
      rw [isAtLeastZero_finite, ← not_lt]
      exact iff_of_true (of_decide_eq_false place) nofun

/-- What is at least zero is above zero, unless it is zero. -/
theorem isAboveZero_iff {value : Binary64} (least : value.IsAtLeastZero) :
    value.IsAboveZero ↔ value.isZero = false := by
  cases value with
  | nan payload => cases least
  | infinite negative =>
      cases negative with
      | true => cases least
      | false => exact iff_of_true rfl rfl
  | finite negative significand exponent =>
      rw [isAtLeastZero_finite] at least
      rw [isAboveZero_finite, ← Bool.not_eq_true, ← finiteValue_eq_zero_iff,
        least.lt_iff_ne, ne_comm]

end Binary64

namespace Coercion

/-- What holds of the default and of all that is accepted holds of what is settled. -/
theorem settle_induction {α : Type} {p : α → Prop} {accept : Setting → Except SettingFault α}
    {default : α} (standard : p default)
    (accepts : ∀ setting value, accept setting = .ok value → p value)
    (given : Option Setting) : p (settle accept default given) := by
  cases given with
  | none => exact standard
  | some setting =>
      rw [settle]
      cases accepted : accept setting with
      | error fault => exact standard
      | ok value => exact accepts setting value accepted

/-- What is accepted after a check is what was converted, and it passes the check. -/
theorem checked_eq_ok_iff {α : Type} (converted : Except SettingFault α) (fails : α → Prop)
    [DecidablePred fails] (fault : α → SettingFault) (value : α) :
    (do
      let value ← converted
      if fails value then Except.error (fault value) else Except.ok value) = Except.ok value ↔
      converted = .ok value ∧ ¬ fails value := by
  cases converted with
  | error fault => exact iff_of_false nofun fun both => nomatch both.1
  | ok given =>
      show (if fails given then Except.error (fault given) else Except.ok given) = _ ↔ _
      by_cases failed : fails given
      · rw [if_pos failed]
        apply iff_of_false nofun
        rintro ⟨same, passes⟩
        cases same
        exact passes failed
      · rw [if_neg failed]
        constructor
        · intro same
          cases same
          exact ⟨rfl, failed⟩
        · exact And.left

theorem interval_eq_ok_iff (setting : Setting) (value : Binary64) :
    interval setting = .ok value ↔ double setting = .ok value ∧ ¬ isBelowZero value :=
  checked_eq_ok_iff (double setting) (fun value => isBelowZero value) _ value

theorem retryCount_eq_ok_iff (setting : Setting) (value : Int) :
    retryCount setting = .ok value ↔ integer setting = .ok value ∧ ¬ value < 0 :=
  checked_eq_ok_iff (integer setting) (· < 0) _ value

/-- A NaN is settled for an interval just if one is given. -/
theorem settle_interval_eq_nan_iff {default : Binary64}
    (standard : ∀ payload, default ≠ .nan payload) (given : Option Setting) (payload : Nat) :
    settle interval default given = .nan payload ↔
      ∃ setting, given = some setting ∧ double setting = .ok (.nan payload) := by
  cases given with
  | none => exact iff_of_false (standard payload) nofun
  | some setting =>
      have accepts : interval setting = .ok (.nan payload) ↔ double setting = .ok (.nan payload) :=
        (interval_eq_ok_iff setting _).trans (and_iff_left Bool.false_ne_true)
      rw [settle]
      simp only [Option.some.injEq, exists_eq_left', ← accepts]
      cases interval setting with
      | error fault => simp [standard]
      | ok value => simp

end Coercion

namespace Delay

/-- Run a retry once, and keep what it returns. -/
def keep (retry : Execution Value) : Execution (Option Value) := do
  let value ← retry
  pure (some value)

/-- A delay waits for an interval: the waiting is noted just if the interval is above zero; then
the retry is run exactly once, and the delay ends as it does. -/
structure WaitsFor (delay : Delay) (seconds : Binary64) : Prop where
  above : seconds.IsAboveZero → ∀ (retry : Execution Value) (latest : Option Value),
    delay.perform retry latest =
      (Execution.ofAction (Action.note "sleep" [.float seconds]) >>= fun _ => keep retry)
  notAbove : ¬ seconds.IsAboveZero → ∀ (retry : Execution Value) (latest : Option Value),
    delay.perform retry latest = keep retry

theorem perform_immediate (retry : Execution Value) (latest : Option Value) :
    immediate.perform retry latest = keep retry := by
  funext bench
  rw [immediate_runsOnce.perform, around, keep, Effect.bind_apply]
  rcases ended : retry bench with ⟨outcome, later⟩
  cases outcome <;> simp [immediate, approach, ended, propagate, depart, fail, Outcome.map,
    Outcome.error?]

end Delay

namespace Settings

variable [ObjectModel]

/-- Settings are fit for retries: the budget is not negative, the interval is at least zero, and
an engine can be made of them, whose delay waits for the interval if no other delay is set. -/
structure AreFit (settings : Settings) : Prop where
  budget : 0 ≤ settings.maxRetries
  interval : settings.retryInterval.IsAtLeastZero
  engine : ∀ world, ∃ engine, RetryEngine.ofSettings settings world = (.returned engine, world) ∧
    (settings.delay = none → engine.delay.WaitsFor settings.retryInterval)

/-- An engine can be made of settings with a budget that is not negative. -/
theorem ofSettings_of_nonneg {settings : Settings} (budget : 0 ≤ settings.maxRetries)
    (world : World) :
    RetryEngine.ofSettings settings world =
      (.returned ⟨settings.maxRetries.toNat, settings.delayChoice.course,
        settings.shouldMeansEventually⟩, world) := by
  rw [RetryEngine.ofSettings, RetryEngine.make, if_neg (not_lt.mpr budget)]
  rfl

/-- Where no delay is set, an interval that is at least zero is waited for. -/
theorem waitsFor_course {settings : Settings} (own : settings.delay = none)
    (least : settings.retryInterval.IsAtLeastZero) :
    settings.delayChoice.course.WaitsFor settings.retryInterval := by
  have positive := Binary64.isAboveZero_iff least
  rw [delayChoice, own]
  cases zero : settings.retryInterval.isZero with
  | true =>
      constructor
      · intro above
        rw [positive, zero] at above
        cases above
      · exact fun _ => Delay.perform_immediate
  | false =>
      constructor
      · intro _ retry latest
        exact congrArg (Execution.ofAction _ >>= fun _ => ·) (Delay.perform_immediate retry latest)
      · intro notAbove
        exact absurd (positive.mpr zero) notAbove

end Settings

namespace SettingSources

/-- Loading returns settings, with recovery or without. -/
def Gives (sources : SettingSources) (settings : Settings) : Prop :=
  Settings.load sources = .ok settings ∨
    ∃ world later, Settings.loadRecovering sources world = (.returned (.ok settings), later)

/-- What is given for the interval is converted to a NaN. -/
def GivesNan (sources : SettingSources) : Prop :=
  ∃ setting payload, sources.setting? .retryInterval = some setting ∧
    Coercion.double setting = .ok (.nan payload)

variable {sources : SettingSources} {settings : Settings}

/-- What loading returns is what the settings come to, each by itself. -/
theorem Gives.eq_settled (given : sources.Gives settings) :
    settings = Settings.settled sources.setting? := by
  rcases given with loads | ⟨world, later, loads⟩
  · rw [load_eq] at loads
    cases problems : SettingField.all.filterMap sources.problem? with
    | nil => rw [problems] at loads; exact (Except.ok.inj loads).symm
    | cons problem rest => rw [problems] at loads; cases loads
  · obtain ⟨_, middle, -, ended⟩ := Effect.bind_eq_returned_iff.mp loads
    exact recover_eq_ok (Outcome.returned.inj (congrArg Prod.fst ended))

/-- Whatever the sources hold, the budget that is loaded is not negative, and an engine can be
made of what is loaded; and the interval is at least zero and waited for just if what is given for
it is not a NaN. -/
theorem areFit_iff [ObjectModel] (given : sources.Gives settings) :
    (0 ≤ settings.maxRetries ∧
        ∀ world, (RetryEngine.ofSettings settings world).1.isReturned) ∧
      (settings.AreFit ↔ ¬ sources.GivesNan) := by
  have same := given.eq_settled
  have budget : 0 ≤ settings.maxRetries := by
    rw [same]
    apply Coercion.settle_induction (p := (0 ≤ ·)) (by decide)
    intro setting value accepted
    exact not_lt.mp ((Coercion.retryCount_eq_ok_iff setting value).mp accepted).2
  have sound : Coercion.isBelowZero settings.retryInterval = false := by
    rw [same]
    apply Coercion.settle_induction (p := fun value => Coercion.isBelowZero value = false)
      (by decide +kernel)
    intro setting value accepted
    exact Bool.eq_false_iff.mpr ((Coercion.interval_eq_ok_iff setting value).mp accepted).2
  have number : settings.retryInterval.IsAtLeastZero ↔ ¬ sources.GivesNan := by
    have read : settings.retryInterval = Coercion.settle Coercion.interval
        (Binary64.ofQuotient false 1 10) (sources.setting? .retryInterval) :=
      congrArg Settings.retryInterval same
    have standard : ∀ payload, Binary64.ofQuotient false 1 10 ≠ .nan payload := by
      intro payload
      have finite : Binary64.ofQuotient false 1 10 = .finite false 7205759403792794 (-56) := by
        decide +kernel
      rw [finite]
      exact nofun
    rw [Binary64.isAtLeastZero_iff sound, read, GivesNan, exists_comm, not_exists]
    apply forall_congr'
    intro payload
    rw [ne_eq, Coercion.settle_interval_eq_nan_iff standard]
  refine ⟨⟨budget, fun world => ?_⟩, ?_⟩
  · rw [Settings.ofSettings_of_nonneg budget]
    rfl
  · rw [← number]
    constructor
    · exact Settings.AreFit.interval
    · intro least
      refine ⟨budget, least, fun world => ⟨_, Settings.ofSettings_of_nonneg budget world, ?_⟩⟩
      intro own
      exact Settings.waitsFor_course own least

/-- A negative zero is at least zero, and is not waited for. -/
theorem areFit_of_negative_zero :
    let sources : SettingSources := ⟨[("FLUENTSPEC_RETRY_INTERVAL", "-0.0")], []⟩
    ∃ settings, sources.Gives settings ∧ settings.retryInterval = .zero true ∧
      ¬ sources.GivesNan ∧ settings.AreFit := by
  intro sources
  have interval : (Settings.load sources).toOption.map Settings.retryInterval =
      some (.zero true) := by
    decide +kernel
  have number : ¬ sources.GivesNan := by
    have converted : (sources.setting? .retryInterval).map
        (fun setting => (Coercion.double setting).toOption) = some (some (.zero true)) := by
      decide +kernel
    rintro ⟨setting, payload, given, converts⟩
    rw [given, Option.map_some, converts] at converted
    cases converted
  cases loads : Settings.load sources with
  | error problems => rw [loads] at interval; cases interval
  | ok settings =>
      rw [loads] at interval
      exact ⟨settings, .inl loads, Option.some.inj interval, number,
        (areFit_iff (.inl loads)).2.mpr number⟩

/-- A NaN is loaded as an interval, though it is not at least zero; the engine notes that it
waits for it. -/
theorem not_areFit_of_nan :
    let sources : SettingSources := ⟨[("FLUENTSPEC_RETRY_INTERVAL", "nan")], []⟩
    ∃ settings, Settings.load sources = .ok settings ∧
      ¬ settings.retryInterval.IsAtLeastZero ∧
      (settings.delayChoice.course.perform (pure Value.null) none {}).2.world.notes.map
          Note.subject = #["sleep"] ∧
      ¬ settings.AreFit := by
  intro sources
  have loads : Settings.load sources = .ok ⟨5, false, .nan 0, none⟩ := rfl
  have apart : ¬ (Binary64.nan 0).IsAtLeastZero := nofun
  exact ⟨_, loads, apart, by decide +kernel, fun fit => apart fit.interval⟩

end SettingSources

end DeferredSpec
