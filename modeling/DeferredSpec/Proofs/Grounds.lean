/-
# The ground on which cases run

A case should run on prepared ground: every hook of every group around it has completed
before. Hooks of a group run in order and at most once; one that raises an ordinary error
stops every case below the group from then on. A hook that raises another error escapes:
its group counts as prepared all the same, and the next case below it runs. So bodies run on
prepared ground just as long as no hook around them has escaped.
-/

import DeferredSpec.Proofs.Additions
import DeferredSpec.Proofs.Ledger
import DeferredSpec.Proofs.Preparation
import Mathlib.Data.List.Nodup

namespace DeferredSpec

namespace Deed

/-- The position of the hook that is run, if it is one of the given group. -/
def position? (path : GroupPath) : Deed → Option Nat
  | .hook group position _ _ => if group = path then some position else none
  | .body _ _ => none

/-- The positions of the hooks of a group that were run, in order. -/
def positions (path : GroupPath) (deeds : List Deed) : List Nat :=
  deeds.filterMap (position? path)

theorem positions_append (path : GroupPath) (first second : List Deed) :
    positions path (first ++ second) = positions path first ++ positions path second :=
  List.filterMap_append

theorem positions_hook (path : GroupPath) (position : Nat) (hook : Body) (start : Rig Runner) :
    positions path [.hook path position hook start] = [position] := by
  simp [positions, position?]

theorem positions_of_apart {path group : GroupPath} (apart : group ≠ path) (position : Nat)
    (hook : Body) (start : Rig Runner) : positions path [.hook group position hook start] = [] := by
  simp [positions, position?, apart]

theorem mem_positions {path : GroupPath} {deeds : List Deed} {position : Nat} :
    position ∈ positions path deeds ↔ ∃ hook start, .hook path position hook start ∈ deeds := by
  constructor
  · intro member
    obtain ⟨deed, listed, found⟩ := List.mem_filterMap.mp member
    cases deed with
    | hook group other hook start =>
        rw [position?] at found
        split at found
        · next same =>
            cases found
            exact ⟨hook, start, same ▸ listed⟩
        · cases found
    | body pick start => cases found
  · rintro ⟨hook, start, listed⟩
    exact List.mem_filterMap.mpr ⟨_, listed, by simp [position?]⟩

end Deed

section Grounds

variable (forest : Array SpecTree) (suite : Suite)

/-- Every hook of the groups around a case has completed. -/
def IsPrepared (deeds : List Deed) (group : GroupPath) : Prop :=
  ∀ path ∈ GroupPath.lineage group, ∀ position hook,
    (suite.hooksAt path)[position]? = some hook →
      ∃ start, .hook path position hook start ∈ deeds ∧ (hook.run forest start).1.isReturned

/-- No hook of the groups around a case has escaped with an error that no handler takes. -/
def IsSpared (deeds : List Deed) (group : GroupPath) : Prop :=
  ∀ path ∈ GroupPath.lineage group, ∀ position hook,
    (suite.hooksAt path)[position]? = some hook →
      ∀ start error later, .hook path position hook start ∈ deeds →
        hook.run forest start = (.raised error, later) → later.bench.world.isOrdinary error

/-- Something holds of what came before each body, and of the case. -/
def BodiesMeet (holds : List Deed → Pick → Prop) (deeds : List Deed) : Prop :=
  ∀ before pick start after, deeds = before ++ .body pick start :: after → holds before pick

theorem BodiesMeet.nil (holds : List Deed → Pick → Prop) : BodiesMeet holds [] := by
  intro before pick start after same
  cases before <;> cases same

theorem BodiesMeet.hook {holds : List Deed → Pick → Prop} {deeds : List Deed}
    (meets : BodiesMeet holds deeds) (path : GroupPath) (position : Nat) (hook : Body)
    (begun : Rig Runner) : BodiesMeet holds (deeds ++ [.hook path position hook begun]) := by
  intro before pick start after same
  rcases List.eq_nil_or_concat after with rfl | ⟨front, last, rfl⟩
  · have ends := List.append_inj_right' same rfl
    cases ends
  · rw [List.concat_eq_append, ← List.cons_append, ← List.append_assoc] at same
    exact meets before pick start front (List.append_inj_left' same rfl)

theorem BodiesMeet.body {holds : List Deed → Pick → Prop} {deeds : List Deed} {case : Pick}
    (meets : BodiesMeet holds deeds) (here : holds deeds case) (begun : Rig Runner) :
    BodiesMeet holds (deeds ++ [.body case begun]) := by
  intro before pick start after same
  rcases List.eq_nil_or_concat after with rfl | ⟨front, last, rfl⟩
  · have starts := List.append_inj_left' same rfl
    have ends := List.append_inj_right' same rfl
    cases ends
    exact starts ▸ here
  · rw [List.concat_eq_append, ← List.cons_append, ← List.append_assoc] at same
    exact meets before pick start front (List.append_inj_left' same rfl)

/-- The first hooks of a group have run and completed, and are those the group had. -/
structure Partway (path : GroupPath) (count : Nat) (deeds : List Deed) : Prop where
  positions : Deed.positions path deeds = List.range count
  completed : ∀ position hook start, .hook path position hook start ∈ deeds →
    (hook.run forest start).1.isReturned
  known : ∀ position hook start, .hook path position hook start ∈ deeds →
    ∀ expected, (suite.hooksAt path)[position]? = some expected → hook = expected

/-- The hooks of a group have stopped at one that raised an error. -/
inductive Halted (path : GroupPath) (isOrdinary : Bool) (deeds : List Deed) : Prop
  | intro {early late : List Deed} {position : Nat} {hook : Body} {start later : Rig Runner}
      {error : ErrorRef} (parts : deeds = early ++ .hook path position hook start :: late)
      (before : Partway forest suite path position early)
      (known : ∀ expected, (suite.hooksAt path)[position]? = some expected → hook = expected)
      (raised : hook.run forest start = (.raised error, later))
      (caught : later.bench.world.isOrdinary error = isOrdinary)
      (after : Deed.positions path late = [])

/-- What the deeds tell of a group, given how far it counts as prepared. -/
def Tells (deeds : List Deed) (path : GroupPath) : Preparation → Prop
  | .pending => Partway forest suite path 0 deeds
  | .done =>
      (∃ count, (suite.hooksAt path).length ≤ count ∧ Partway forest suite path count deeds) ∨
        Halted forest suite path false deeds
  | .failed _ => Halted forest suite path true deeds

variable {forest suite} {path : GroupPath} {deeds : List Deed} {count : Nat}

theorem Partway.nil : Partway forest suite path 0 [] :=
  ⟨rfl, fun _ _ _ member => (by cases member), fun _ _ _ member => (by cases member)⟩

/-- What is no hook of a group is of no matter to it. -/
theorem Partway.append (partway : Partway forest suite path count deeds) {more : List Deed}
    (apart : Deed.positions path more = []) : Partway forest suite path count (deeds ++ more) := by
  have early : ∀ position hook start, .hook path position hook start ∈ deeds ++ more →
      .hook path position hook start ∈ deeds := by
    intro position hook start member
    refine (List.mem_append.mp member).resolve_right fun late => ?_
    have listed := Deed.mem_positions.mpr ⟨hook, start, late⟩
    rw [apart] at listed
    cases listed
  refine ⟨?_, fun position hook start member => ?_, fun position hook start member => ?_⟩
  · rw [Deed.positions_append, apart, List.append_nil, partway.positions]
  · exact partway.completed position hook start (early position hook start member)
  · exact partway.known position hook start (early position hook start member)

theorem Halted.append {isOrdinary : Bool} (halted : Halted forest suite path isOrdinary deeds)
    {more : List Deed} (apart : Deed.positions path more = []) :
    Halted forest suite path isOrdinary (deeds ++ more) := by
  obtain ⟨rfl, before, known, raised, caught, after⟩ := halted
  refine .intro (List.append_assoc _ _ _) before known raised caught ?_
  exact (Deed.positions_append path _ more).trans (by rw [after, apart, List.append_nil])

theorem Tells.append {preparation : Preparation} (tells : Tells forest suite deeds path preparation)
    {more : List Deed} (apart : Deed.positions path more = []) :
    Tells forest suite (deeds ++ more) path preparation := by
  cases preparation with
  | pending => exact Partway.append tells apart
  | done =>
      rcases tells with ⟨count, enough, partway⟩ | halted
      · exact .inl ⟨count, enough, partway.append apart⟩
      · exact .inr (halted.append apart)
  | failed error => exact Halted.append tells apart

/-- One more hook of a group has completed. -/
theorem Partway.hook (partway : Partway forest suite path count deeds) {hook : Body}
    {start : Rig Runner}
    (known : ∀ expected, (suite.hooksAt path)[count]? = some expected → hook = expected)
    (completed : (hook.run forest start).1.isReturned) :
    Partway forest suite path (count + 1) (deeds ++ [.hook path count hook start]) := by
  refine ⟨?_, fun position other begun member => ?_, fun position other begun member => ?_⟩
  · rw [Deed.positions_append, partway.positions, Deed.positions_hook, List.range_succ]
  · rcases List.mem_append.mp member with early | last
    · exact partway.completed position other begun early
    · cases List.mem_singleton.mp last
      exact completed
  · rcases List.mem_append.mp member with early | last
    · exact partway.known position other begun early
    · cases List.mem_singleton.mp last
      exact known

/-- No hook of a group is run twice. -/
theorem Tells.nodup {preparation : Preparation}
    (tells : Tells forest suite deeds path preparation) : (Deed.positions path deeds).Nodup := by
  have ofPartway : ∀ {count : Nat}, Partway forest suite path count deeds →
      (Deed.positions path deeds).Nodup := fun partway => partway.positions ▸ List.nodup_range
  have ofHalted : ∀ {isOrdinary : Bool}, Halted forest suite path isOrdinary deeds →
      (Deed.positions path deeds).Nodup := by
    rintro isOrdinary ⟨rfl, before, _, _, _, after⟩
    rw [List.append_cons, Deed.positions_append, Deed.positions_append, after, before.positions,
      Deed.positions_hook, List.append_nil, ← List.range_succ]
    exact List.nodup_range
  cases preparation with
  | pending => exact ofPartway tells
  | done => exact tells.elim (fun ⟨_, _, partway⟩ => ofPartway partway) ofHalted
  | failed error => exact ofHalted tells

/-- The hooks that have run before one of a group have completed. -/
theorem Partway.exists_completed (partway : Partway forest suite path count deeds) {position : Nat}
    {hook : Body} (before : position < count)
    (known : (suite.hooksAt path)[position]? = some hook) :
    ∃ start, .hook path position hook start ∈ deeds ∧ (hook.run forest start).1.isReturned := by
  have listed : position ∈ Deed.positions path deeds := by
    rw [partway.positions]
    exact List.mem_range.mpr before
  obtain ⟨found, start, member⟩ := Deed.mem_positions.mp listed
  obtain rfl := partway.known position found start member hook known
  exact ⟨start, member, partway.completed position found start member⟩

/-- What has run of a group that stopped at a hook: the hooks before, which completed, and
that hook. -/
theorem Partway.of_mem_halted {early late : List Deed} {stopped position : Nat} {hook other : Body}
    {start begun : Rig Runner} (before : Partway forest suite path stopped early)
    (after : Deed.positions path late = [])
    (member : .hook path position other begun ∈ early ++ .hook path stopped hook start :: late) :
    (position < stopped ∧ (other.run forest begun).1.isReturned) ∨
      position = stopped ∧ other = hook ∧ begun = start := by
  rcases List.mem_append.mp member with first | rest
  · have listed := Deed.mem_positions.mpr ⟨other, begun, first⟩
    rw [before.positions, List.mem_range] at listed
    exact .inl ⟨listed, before.completed position other begun first⟩
  · rcases List.mem_cons.mp rest with same | last
    · cases same
      exact .inr ⟨rfl, rfl, rfl⟩
    · have listed := Deed.mem_positions.mpr ⟨other, begun, last⟩
      rw [after] at listed
      cases listed

/-- The hooks of a group that counts as prepared have completed just if none has escaped. -/
theorem completed_iff_of_done (tells : Tells forest suite deeds path .done) :
    (∀ position hook, (suite.hooksAt path)[position]? = some hook →
        ∃ start, .hook path position hook start ∈ deeds ∧ (hook.run forest start).1.isReturned) ↔
      ∀ position hook, (suite.hooksAt path)[position]? = some hook →
        ∀ start error later, .hook path position hook start ∈ deeds →
          hook.run forest start = (.raised error, later) →
            later.bench.world.isOrdinary error := by
  rcases tells with ⟨count, enough, partway⟩ |
    @⟨early, late, stopped, halting, start, later, error, rfl, before, same, raised, escaped, after⟩
  · refine ⟨fun _ position hook _ start error later member raised => ?_,
      fun _ position hook known => ?_⟩
    · have completed := partway.completed position hook start member
      rw [raised] at completed
      cases completed
    · have bound := (List.getElem?_eq_some_iff.mp known).1
      exact partway.exists_completed (Nat.lt_of_lt_of_le bound enough) known
  · cases reached : (suite.hooksAt path)[stopped]? with
    | none =>
        -- The hook that escaped was registered later, so it is none of those asked for.
        have enough := List.getElem?_eq_none_iff.mp reached
        refine ⟨fun _ position hook known begun other ended member failed => ?_,
          fun _ position hook known => ?_⟩
        · rcases before.of_mem_halted after member with ⟨_, completed⟩ | ⟨rfl, _⟩
          · rw [failed] at completed
            cases completed
          · rw [reached] at known
            cases known
        · have bound := (List.getElem?_eq_some_iff.mp known).1
          obtain ⟨begun, member, completed⟩ :=
            before.exists_completed (Nat.lt_of_lt_of_le bound enough) known
          exact ⟨begun, List.mem_append_left _ member, completed⟩
    | some expected =>
        obtain rfl := same expected reached
        constructor
        · intro all
          obtain ⟨begun, member, completed⟩ := all stopped halting reached
          rcases before.of_mem_halted after member with ⟨less, _⟩ | ⟨_, _, rfl⟩
          · exact absurd less (Nat.lt_irrefl stopped)
          · rw [raised] at completed
            cases completed
        · intro all
          have ordinary := all stopped halting reached start error later
            (List.mem_append_right early List.mem_cons_self) raised
          rw [escaped] at ordinary
          cases ordinary

end Grounds

/-- The progress of groups, but for one group. -/
def withProgress (progress : GroupPath → Preparation) (path : GroupPath)
    (preparation : Preparation) : GroupPath → Preparation :=
  fun other => if other = path then preparation else progress other

/-- A ledger accords with how far groups count as prepared: the suite has grown out of the
given one, the deeds tell of every group what they should, with exceptions, and every body
ran on prepared ground just if the hooks around it were spared. -/
structure Accords (forest : Array SpecTree) (runner : RunnerRef) (suite : Suite)
    (progress : GroupPath → Preparation) (excepted : GroupPath → Prop) (ledger : Ledger) :
    Prop where
  present : ∃ now : Suite, ledger.rig.IsSuite runner now ∧ now.progress = progress ∧
    ∀ path, suite.hooksAt path <+: now.hooksAt path
  tells : ∀ path, ¬ excepted path → Tells forest suite ledger.deeds path (progress path)
  bodies : BodiesMeet
    (fun before pick =>
      IsPrepared forest suite before pick.group ↔ IsSpared forest suite before pick.group)
    ledger.deeds

/-- The ledger accords for all groups. -/
abbrev Settled (forest : Array SpecTree) (runner : RunnerRef) (suite : Suite)
    (progress : GroupPath → Preparation) (ledger : Ledger) : Prop :=
  Accords forest runner suite progress (fun _ => False) ledger

/-- A group is being prepared: as many of its hooks have run, and the ledger accords for all
other groups. -/
structure Underway (forest : Array SpecTree) (runner : RunnerRef) (suite : Suite)
    (progress : GroupPath → Preparation) (path : GroupPath) (count : Nat) (ledger : Ledger) :
    Prop where
  begun : progress path = .done
  partway : Partway forest suite path count ledger.deeds
  accords : Accords forest runner suite progress (· = path) ledger

@[simp] theorem withProgress_self (progress : GroupPath → Preparation) (path : GroupPath)
    (preparation : Preparation) : withProgress progress path preparation path = preparation := by
  simp [withProgress]

@[simp] theorem withProgress_withProgress (progress : GroupPath → Preparation) (path : GroupPath)
    (first second : Preparation) :
    withProgress (withProgress progress path first) path second =
      withProgress progress path second := by
  funext other
  simp only [withProgress]
  split <;> rfl

theorem withProgress_of_ne (progress : GroupPath → Preparation) {path other : GroupPath}
    (differs : ¬ other = path) (preparation : Preparation) :
    withProgress progress path preparation other = progress other := by
  simp [withProgress, differs]

theorem Rig.Extends.isSuite {before after : Rig Runner} (added : before.Extends after)
    {runner : RunnerRef} {suite : Suite} (isSuite : before.IsSuite runner suite) :
    ∃ grown, after.IsSuite runner grown ∧ suite.Extends grown := by
  have here := added runner.index
  rw [IsSuite] at isSuite
  rw [isSuite] at here
  cases found : after.runners[runner.index]? with
  | none =>
      rw [found] at here
      cases here
  | some now =>
      rw [found] at here
      cases here with
      | some grown =>
          cases now with
          | suite kept => exact ⟨kept, found, grown⟩
          | recorder _ => exact grown.elim

/-- A part of the preparation of a group has ended: something holds if it returned, and the
group is settled if it raised. -/
def Proceeds {α : Type} (forest : Array SpecTree) (runner : RunnerRef) (suite : Suite)
    (progress : GroupPath → Preparation) (path : GroupPath) (holds : α → Ledger → Prop) :
    Outcome α × Ledger → Prop
  | (.returned value, later) => holds value later
  | (.raised _, later) =>
      ∃ preparation, Settled forest runner suite (withProgress progress path preparation) later

theorem Proceeds.bind {α β : Type} {forest : Array SpecTree} {runner : RunnerRef} {suite : Suite}
    {progress : GroupPath → Preparation} {path : GroupPath} {early : α → Ledger → Prop}
    {late : β → Ledger → Prop} {first : Effect Ledger α} {next : α → Effect Ledger β}
    {ledger : Ledger} (start : Proceeds forest runner suite progress path early (first ledger))
    (further : ∀ value later, early value later →
      Proceeds forest runner suite progress path late (next value later)) :
    Proceeds forest runner suite progress path late ((first >>= next) ledger) := by
  rw [Effect.bind_apply]
  rcases ended : first ledger with ⟨outcome, later⟩
  rw [ended] at start
  cases outcome with
  | returned value => exact further value later start
  | raised error => exact start

theorem drop_zipIdx {α : Type} (items : List α) (count start : Nat) :
    (items.zipIdx start).drop count = (items.drop count).zipIdx (start + count) := by
  induction items generalizing count start with
  | nil => simp
  | cons item items ih =>
      cases count with
      | zero => rfl
      | succ count =>
          rw [List.zipIdx_cons, List.drop_succ_cons, List.drop_succ_cons, ih, Nat.add_right_comm,
            Nat.add_assoc]

section Steps

variable {forest : Array SpecTree} {runner : RunnerRef} {suite : Suite}
  {progress : GroupPath → Preparation} {path : GroupPath} {count : Nat} {ledger : Ledger}

/-- One more hook of a group is run: either it completes, or the group is settled. -/
theorem Underway.runHook (underway : Underway forest runner suite progress path count ledger)
    (name : String) {hook : Body}
    (known : ∀ expected, (suite.hooksAt path)[count]? = some expected → hook = expected) :
    Proceeds forest runner suite progress path
      (fun _ => Underway forest runner suite progress path (count + 1))
      (Ledger.runHook forest runner path name (hook, count) ledger) := by
  obtain ⟨now, isSuite, same, kept⟩ := underway.accords.present
  obtain ⟨grown, stays, added⟩ := (Body.onlyAdds_run forest hook ledger.rig).isSuite isSuite
  have bodies := underway.accords.bodies.hook path count hook ledger.rig
  have apart : ∀ {other : GroupPath}, ¬ other = path →
      Deed.positions other [.hook path count hook ledger.rig] = [] := fun differs =>
    Deed.positions_of_apart (Ne.symm differs) count hook ledger.rig
  have run : Ledger.runHook forest runner path name (hook, count) ledger =
      ((Rig.runHook forest runner path name hook ledger.rig).1,
        ⟨(Rig.runHook forest runner path name hook ledger.rig).2,
          ledger.deeds ++ [.hook path count hook ledger.rig]⟩) := rfl
  rcases ended : hook.run forest ledger.rig with ⟨outcome, later⟩
  rw [ended] at stays
  cases outcome with
  | returned value =>
      rw [run, Rig.runHook_of_returned runner path name ended]
      refine ⟨underway.begun, underway.partway.hook known (by rw [ended]; rfl),
        ⟨grown, stays, added.progress.trans same,
          fun other => (kept other).trans (added.hooksAt other)⟩,
        fun other differs => (underway.accords.tells other differs).append (apart differs), bodies⟩
  | raised error =>
      have halted : Halted forest suite path (later.bench.world.isOrdinary error)
          (ledger.deeds ++ [.hook path count hook ledger.rig]) :=
        .intro rfl underway.partway known ended rfl rfl
      have settled : ∀ {preparation : Preparation},
          Tells forest suite (ledger.deeds ++ [.hook path count hook ledger.rig]) path
            preparation →
          ∀ other, ¬ False → Tells forest suite
            (ledger.deeds ++ [.hook path count hook ledger.rig]) other
            (withProgress progress path preparation other) := fun here other _ => by
        by_cases differs : other = path
        · subst differs
          rwa [withProgress_self]
        · rw [withProgress_of_ne progress differs]
          exact (underway.accords.tells other differs).append (apart differs)
      cases caught : later.bench.world.isOrdinary error with
      | true =>
          rw [caught] at halted
          rw [run, Rig.runHook_of_raised runner path name ended caught stays]
          have told : (later.logHookFailure name error).IsSuite runner grown := stays
          refine ⟨.failed error,
            ⟨_, told.withSuite _, ?_, fun other => (kept other).trans (added.hooksAt other)⟩,
            settled halted, bodies⟩
          rw [← same, ← added.progress]
          rfl
      | false =>
          rw [caught] at halted
          rw [run, Rig.runHook_of_escaped runner path name ended caught]
          have unchanged : withProgress progress path .done = progress := by
            funext other
            by_cases differs : other = path
            · rw [differs, withProgress_self, underway.begun]
            · rw [withProgress_of_ne progress differs]
          refine ⟨.done,
            ⟨grown, stays, ?_, fun other => (kept other).trans (added.hooksAt other)⟩,
            settled (.inr halted), bodies⟩
          rw [unchanged, added.progress, same]

/-- The hooks of a group are run from some position on. -/
theorem Underway.forEach_runHook (name : String) {hooks : List Body}
    (underway : Underway forest runner suite progress path count ledger)
    (known : ∀ position expected, (suite.hooksAt path)[count + position]? = some expected →
      ∀ hook, hooks[position]? = some hook → hook = expected) :
    Proceeds forest runner suite progress path
      (fun _ => Underway forest runner suite progress path (count + hooks.length))
      (Effect.forEach (Ledger.runHook forest runner path name) (hooks.zipIdx count) ledger) := by
  induction hooks generalizing count ledger with
  | nil => exact underway
  | cons hook rest ih =>
      rw [List.zipIdx_cons, Effect.forEach_cons, List.length_cons, ← Nat.add_assoc,
        Nat.add_right_comm]
      refine (underway.runHook name fun expected found => known 0 expected found hook rfl).bind
        fun _ later further => ih further fun position expected found other listed => ?_
      exact known (position + 1) expected (by rwa [Nat.add_right_comm] at found) other listed

/-- The hooks of a group from some position on are run, at least up to those it had. -/
theorem Underway.runFurtherHooks
    (underway : Underway forest runner suite progress path count ledger) :
    Proceeds forest runner suite progress path
      (fun more later => (suite.hooksAt path).length ≤ count + more ∧
        Underway forest runner suite progress path (count + more) later)
      (Ledger.runFurtherHooks forest runner path count ledger) := by
  obtain ⟨now, isSuite, _, kept⟩ := underway.accords.present
  have read : Ledger.perform (Rig.readSuite runner fun suite => suite.groupAt path) ledger =
      (.returned (now.groupAt path), ledger) := by
    rw [Ledger.perform_apply, Rig.readSuite_of_isSuite isSuite]
  have parts : Ledger.runFurtherHooks forest runner path count ledger =
      (Effect.forEach (Ledger.runHook forest runner path (now.groupAt path).1)
          (((now.hooksAt path).drop count).zipIdx count) >>= fun _ =>
        pure ((now.hooksAt path).drop count).length) ledger := by
    have dropped := drop_zipIdx (now.hooksAt path) count 0
    rw [Nat.zero_add] at dropped
    rw [← dropped]
    simp only [Ledger.runFurtherHooks, Effect.bind_apply, read]
    rfl
  rw [parts]
  refine (underway.forEach_runHook (now.groupAt path).1 ?_).bind
    fun _ later further => ⟨?_, further⟩
  · intro position expected found hook listed
    obtain ⟨bound, rfl⟩ := List.getElem?_eq_some_iff.mp found
    rw [List.getElem?_drop, List.prefix_iff_getElem?.mp (kept path) _ bound] at listed
    exact (Option.some.inj listed).symm
  · have longer := (kept path).length_le
    rw [List.length_drop]
    omega

/-- All hooks that a group had are run, or it is settled before. -/
theorem Underway.runHooks (generations : Nat)
    (underway : Underway forest runner suite progress path count ledger) :
    Proceeds forest runner suite progress path
      (fun _ later => ∃ reached, (suite.hooksAt path).length ≤ reached ∧
        Underway forest runner suite progress path reached later)
      (Ledger.runHooks forest runner path generations count ledger) := by
  induction generations generalizing count ledger with
  | zero =>
      exact underway.runFurtherHooks.bind fun more later reached => ⟨count + more, reached⟩
  | succ generations ih =>
      refine underway.runFurtherHooks.bind fun more later reached => ?_
      split
      · exact ⟨count + more, reached⟩
      · exact ih reached.2

/-- A group whose hooks have all run is settled as prepared. -/
theorem Underway.settled (underway : Underway forest runner suite progress path count ledger)
    (enough : (suite.hooksAt path).length ≤ count) :
    Settled forest runner suite progress ledger where
  present := underway.accords.present
  tells other _ := by
    by_cases same : other = path
    · subst same
      rw [underway.begun]
      exact .inl ⟨count, enough, underway.partway⟩
    · exact underway.accords.tells other same
  bodies := underway.accords.bodies

/-- Preparing a group leaves everything settled. What counts as prepared goes on doing so, and
the group itself does if its preparation returns. -/
theorem Accords.prepare (settled : Settled forest runner suite progress ledger)
    (path : GroupPath) :
    ∃ later, Settled forest runner suite later (Ledger.prepare forest runner path ledger).2 ∧
      (∀ other, progress other = .done → later other = .done) ∧
      ((Ledger.prepare forest runner path ledger).1.isReturned → later path = .done) := by
  obtain ⟨now, isSuite, same, kept⟩ := settled.present
  have read : Ledger.perform (Rig.readSuite runner id) ledger = (.returned now, ledger) := by
    rw [Ledger.perform_apply, Rig.readSuite_of_isSuite isSuite]
    rfl
  cases known : progress path with
  | done =>
      have unchanged : Ledger.prepare forest runner path ledger = (.returned (), ledger) := by
        simp only [Ledger.prepare, Effect.bind_apply, read, same, known]
        rfl
      rw [unchanged]
      exact ⟨progress, settled, fun _ done => done, fun _ => known⟩
  | failed error =>
      have unchanged : Ledger.prepare forest runner path ledger = (.raised error, ledger) := by
        simp only [Ledger.prepare, Effect.bind_apply, read, same, known]
        rfl
      rw [unchanged]
      exact ⟨progress, settled, fun _ done => done, fun returned => (by cases returned)⟩
  | pending =>
      have begun : Ledger.prepare forest runner path ledger =
          Ledger.runHooks forest runner path (now.generations forest) 0
            { ledger with rig := ledger.rig.withSuite runner (now.setProgress path .done) } := by
        have started := Rig.changeSuite_of_isSuite isSuite (Suite.setProgress path .done)
        simp only [Ledger.prepare, Effect.bind_apply, read, same, known]
        simp only [Ledger.perform_apply, started]
      have partway := settled.tells path id
      rw [known] at partway
      have underway : Underway forest runner suite (withProgress progress path .done) path 0
          { ledger with rig := ledger.rig.withSuite runner (now.setProgress path .done) } := by
        refine ⟨withProgress_self progress path .done, partway,
          ⟨_, isSuite.withSuite _, ?_, kept⟩, fun other differs => ?_, settled.bodies⟩
        · rw [← same]
          rfl
        · rw [withProgress_of_ne progress differs]
          exact settled.tells other id
      have stays : ∀ preparation other, progress other = .done →
          withProgress progress path preparation other = .done := by
        intro preparation other done
        have differs : ¬ other = path := by
          rintro rfl
          rw [known] at done
          cases done
        rwa [withProgress_of_ne progress differs]
      have proceeds := underway.runHooks (now.generations forest)
      rw [begun]
      rcases ended : Ledger.runHooks forest runner path (now.generations forest) 0 _ with
        ⟨outcome, after⟩
      rw [ended] at proceeds
      cases outcome with
      | returned _ =>
          obtain ⟨reached, enough, further⟩ := proceeds
          exact ⟨_, further.settled enough, stays .done,
            fun _ => withProgress_self progress path .done⟩
      | raised error =>
          obtain ⟨preparation, after⟩ := proceeds
          rw [withProgress_withProgress] at after
          exact ⟨_, after, stays preparation, fun returned => (by cases returned)⟩

/-- Preparing groups one after another leaves everything settled, and prepares them all if it
returns. -/
theorem Accords.forEach_prepare (settled : Settled forest runner suite progress ledger)
    (paths : List GroupPath) :
    ∃ later, Settled forest runner suite later
        (Effect.forEach (Ledger.prepare forest runner) paths ledger).2 ∧
      (∀ other, progress other = .done → later other = .done) ∧
      ((Effect.forEach (Ledger.prepare forest runner) paths ledger).1.isReturned →
        ∀ path ∈ paths, later path = .done) := by
  induction paths generalizing progress ledger with
  | nil => exact ⟨progress, settled, fun _ done => done, fun _ path member => (by cases member)⟩
  | cons path rest ih =>
      obtain ⟨middle, first, kept, here⟩ := settled.prepare path
      rw [Effect.forEach_cons, Effect.bind_apply]
      rcases ended : Ledger.prepare forest runner path ledger with ⟨outcome, after⟩
      rw [ended] at first here
      cases outcome with
      | raised error => exact ⟨middle, first, kept, fun returned => (by cases returned)⟩
      | returned _ =>
          obtain ⟨later, second, further, all⟩ := ih first
          refine ⟨later, second, fun other done => further other (kept other done), ?_⟩
          intro returned other member
          rcases List.mem_cons.mp member with rfl | member
          · exact further other (here rfl)
          · exact all returned other member

/-- On settled ground, a group that counts as prepared is prepared just if it was spared. -/
theorem Accords.isPrepared_iff (settled : Settled forest runner suite progress ledger)
    {group : GroupPath} (done : ∀ path ∈ GroupPath.lineage group, progress path = .done) :
    IsPrepared forest suite ledger.deeds group ↔ IsSpared forest suite ledger.deeds group := by
  have each : ∀ path ∈ GroupPath.lineage group, Tells forest suite ledger.deeds path .done :=
    fun path member => done path member ▸ settled.tells path id
  exact forall₂_congr fun path member => completed_iff_of_done (each path member)

/-- Running a case leaves everything settled. -/
theorem Accords.runPick (settled : Settled forest runner suite progress ledger) (pick : Pick) :
    ∃ later, Settled forest runner suite later (Ledger.runPick forest runner pick ledger).2 := by
  obtain ⟨later, after, _, all⟩ := settled.forEach_prepare (GroupPath.lineage pick.group)
  rw [Ledger.runPick, Effect.bind_apply]
  rcases ended : Effect.forEach (Ledger.prepare forest runner) _ ledger with ⟨outcome, ready⟩
  rw [ended] at after all
  cases outcome with
  | raised error => exact ⟨later, after⟩
  | returned _ =>
      obtain ⟨now, isSuite, same, kept⟩ := after.present
      obtain ⟨grown, stays, added⟩ := (Body.onlyAdds_run forest pick.body ready.rig).isSuite isSuite
      have body : (Ledger.write (.body pick) >>= fun _ =>
          Ledger.perform (pick.body.run forest >>= fun _ => pure ())) ready =
          (((pick.body.run forest >>= fun _ => pure ()) ready.rig).1,
            ⟨(pick.body.run forest ready.rig).2, ready.deeds ++ [.body pick ready.rig]⟩) := by
        rw [Effect.bind_apply, Ledger.write_apply]
        simp only [Ledger.perform_apply, Effect.bind_apply]
        rcases pick.body.run forest ready.rig with ⟨outcome, last⟩
        cases outcome <;> rfl
      refine ⟨later, ?_⟩
      show Settled forest runner suite later ((Ledger.write (.body pick) >>= fun _ =>
          Ledger.perform (pick.body.run forest >>= fun _ => pure ())) ready).2
      rw [body]
      refine ⟨⟨grown, stays, added.progress.trans same,
          fun path => (kept path).trans (added.hooksAt path)⟩,
        fun path _ => (after.tells path id).append rfl,
        after.bodies.body (after.isPrepared_iff (all rfl)) ready.rig⟩

/-- Invoking cases one after another leaves everything settled. -/
theorem Accords.invokeAll (settled : Settled forest runner suite progress ledger)
    (picks : List Pick) :
    ∃ later, Settled forest runner suite later (Ledger.invokeAll forest runner picks ledger).2 := by
  induction picks generalizing progress ledger with
  | nil => exact ⟨progress, settled⟩
  | cons pick rest ih =>
      obtain ⟨middle, first⟩ := settled.runPick pick
      have invoked : Ledger.invoke forest runner pick ledger =
        (.returned (), (Ledger.runPick forest runner pick ledger).2) := rfl
      rw [Ledger.invokeAll, Effect.forEach_cons, Effect.bind_apply, invoked]
      exact ih first

end Steps

namespace Rig

variable {runner : RunnerRef} {suite : Suite} {rig : Rig Runner}

/-- Handing out the cases of a suite forgets all preparation. -/
theorem takePicks_of_isSuite (isSuite : rig.IsSuite runner suite) :
    takePicks runner rig = (.returned suite.picks, rig.withSuite runner suite.reset) := by
  rw [takePicks, Effect.bind_apply, changeSuite_of_isSuite isSuite]
  exact readSuite_of_isSuite (isSuite.withSuite suite.reset) Suite.picks

/-- Once the cases are handed out nothing has run, and nothing is prepared. -/
theorem settled_takePicks (forest : Array SpecTree) (isSuite : rig.IsSuite runner suite) :
    Settled forest runner suite (fun _ => .pending) ⟨(takePicks runner rig).2, []⟩ := by
  refine ⟨⟨suite.reset, ?_, rfl, fun _ => List.prefix_rfl⟩, fun _ _ => Partway.nil,
    BodiesMeet.nil _⟩
  rw [takePicks_of_isSuite isSuite]
  exact isSuite.withSuite suite.reset

/-- When cases that were handed out are invoked, in any order and any number of times, the body
of a case runs on prepared ground just if no hook around it has escaped: every hook that the
groups around the case had when the cases were handed out has then completed before. -/
theorem bodies_isPrepared_iff (forest : Array SpecTree) (isSuite : rig.IsSuite runner suite)
    (picks : List Pick) :
    let start := (takePicks runner rig).2
    let ledger := (Ledger.invokeAll forest runner picks ⟨start, []⟩).2
    (takePicks runner rig).1 = .returned suite.picks ∧
      ledger.rig = (invokeAll forest runner picks start).2 ∧
      BodiesMeet
        (fun before pick =>
          IsPrepared forest suite before pick.group ↔ IsSpared forest suite before pick.group)
        ledger.deeds := by
  intro start ledger
  obtain ⟨_, after⟩ := (settled_takePicks forest isSuite).invokeAll picks
  exact ⟨congrArg Prod.fst (takePicks_of_isSuite isSuite),
    (Ledger.shadows_invokeAll forest runner picks ⟨start, []⟩).2, after.bodies⟩

/-- A hook that raises an error of the given class. -/
def failingHook (className : String) : Body :=
  .routine { opening := Action.raiseNew (.host className) [] } []

/-- A case that does nothing. -/
def idleCase : Body := .routine {} []

/-- A group with a hook and two cases. -/
def groundSuite (hook : Body) : Suite :=
  (Suite.empty "").addEntries
    [.group "ground" [hook] [.case "first" idleCase, .case "second" idleCase]]

/-- The rig with such a group. -/
def groundRig (hook : Body) : Rig Runner := { runners := #[.suite (groundSuite hook)] }

/-- Two cases behind a hook that completes. -/
theorem bodies_isPrepared_iff_of_idleHook :
    let suite := groundSuite idleCase
    let start := (takePicks ⟨0⟩ (groundRig idleCase)).2
    let ledger := (Ledger.invokeAll #[] ⟨0⟩ suite.picks ⟨start, []⟩).2
    (groundRig idleCase).IsSuite ⟨0⟩ suite ∧
      (takePicks ⟨0⟩ (groundRig idleCase)).1 = .returned suite.picks ∧
      ledger.rig = (invokeAll #[] ⟨0⟩ suite.picks start).2 ∧
      BodiesMeet
        (fun before pick =>
          IsPrepared #[] suite before pick.group ↔ IsSpared #[] suite before pick.group)
        ledger.deeds :=
  have isSuite : (groundRig idleCase).IsSuite ⟨0⟩ (groundSuite idleCase) := rfl
  ⟨isSuite, bodies_isPrepared_iff #[] isSuite (groundSuite idleCase).picks⟩

/-- Whether the hook of the group has failed, and the second case has run after it. -/
def isUnpreparedRun : List Deed → Bool
  | [.hook [0] 0 found stopped, .body pick _] =>
      !(found.run #[] stopped).1.isReturned && pick.group == [0] &&
        pick.path == ["ground", "second"]
  | _ => false

/-- Behind a hook that was interrupted, the second case runs although the hook has not
completed. -/
theorem bodies_run_unprepared :
    let hook := failingHook "KeyboardInterrupt"
    let suite := groundSuite hook
    let start := (takePicks ⟨0⟩ (groundRig hook)).2
    let ledger := (Ledger.invokeAll #[] ⟨0⟩ suite.picks ⟨start, []⟩).2
    ∃ before pick begun, ledger.deeds = before ++ [.body pick begun] ∧
      pick.path = ["ground", "second"] ∧ ¬ IsPrepared #[] suite before pick.group := by
  intro hook suite start ledger
  have shape : isUnpreparedRun ledger.deeds = true := by decide +kernel
  generalize ledger.deeds = deeds at shape
  unfold isUnpreparedRun at shape
  split at shape
  · next found stopped pick begun =>
      simp only [Bool.and_eq_true, Bool.not_eq_true', beq_iff_eq] at shape
      obtain ⟨⟨failed, group⟩, path⟩ := shape
      refine ⟨[.hook [0] 0 found stopped], pick, begun, rfl, path, fun prepared => ?_⟩
      rw [group] at prepared
      obtain ⟨again, member, completed⟩ := prepared [0] (by decide) 0 hook rfl
      cases List.mem_singleton.mp member
      rw [failed] at completed
      cases completed
  · cases shape

end Rig

end DeferredSpec
