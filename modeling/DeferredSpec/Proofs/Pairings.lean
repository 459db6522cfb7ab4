/-
# Suites that differ in a word of their titles

A tree and its promoted form can be realized with the same runner, delay and budget: the tree
with an engine that retries by default, the promoted tree with one that does not. What is
registered is paired: the groups, the hooks and the order of all cases are the same, and the
titles of cases differ in the promoted words at most. Rigs are paired if their suites are and
all else is the same but for the log. What a runner does to suites keeps them paired.
-/

import DeferredSpec.Proofs.Preparation
import DeferredSpec.Proofs.Promotion
import DeferredSpec.Proofs.Unlogged.Executions

namespace DeferredSpec

/-- A part of a title and what stands in its place: the word of a node is promoted, and shown
arguments stay. -/
inductive IsPromotedWord : String → String → Prop
  | described (word : String) : IsPromotedWord word (promotedWord word)
  | shown (arguments : String) : IsPromotedWord arguments arguments

/-- Titles that are the same part by part but for promoted words. -/
def IsPromotedTitle (title other : String) : Prop :=
  ∃ words others, List.Forall₂ IsPromotedWord words others ∧
    title = " ".intercalate words ∧ other = " ".intercalate others

/-- A source from which to read ignores the log. -/
def Source.IsBlind : Source → Prop
  | .produced make => make.IgnoresLog
  | .kept _ => True

/-- A tree that is realized in two ways: as it is with an engine that retries by default, and
promoted with an engine that does not. -/
structure Pairing where
  whole : SpecTree
  index : Nat
  runner : RunnerRef
  budget : Nat
  delay : Delay

namespace Pairing

variable (pairing : Pairing)

/-- What realizes the tree as it is. -/
def eager : Realizer := ⟨pairing.runner, ⟨pairing.budget, pairing.delay, true⟩⟩

/-- What realizes the promoted tree. -/
def patient : Realizer := ⟨pairing.runner, ⟨pairing.budget, pairing.delay, false⟩⟩

/-- Retries are allowed alike at a node, since an entry lies on the way or the subject is not
described by one that leaves retries to the engine. -/
def Settled (address : Address) : Prop :=
  pairing.whole.root.here.isDescribedBy [should] → pairing.whole.IsAsserted address

/-- Bodies are the same hook of a group, or the two ways to run a case of the tree. -/
inductive Bodies : Body → Body → Prop
  | hook (address : Address) (cell : CellRef) {source : Source} (blind : source.IsBlind) :
      Bodies (.groupHook ⟨pairing.index, address⟩ source cell)
        (.groupHook ⟨pairing.index, address⟩ source cell)
  | case {address : Address} {source : Source} (settled : pairing.Settled address)
      (blind : source.IsBlind) :
      Bodies (.realizedCase pairing.eager ⟨pairing.index, address⟩ source)
        (.realizedCase pairing.patient ⟨pairing.index, address⟩ source)

mutual

/-- Entries are groups of the same name with paired content, or paired cases whose titles
differ in promoted words at most. -/
inductive PairsEntry : Entry → Entry → Prop
  | group (name : String) {hooks others : List Body} {entries twins : List Entry}
      (prepared : List.Forall₂ pairing.Bodies hooks others)
      (content : PairsEntries entries twins) :
      PairsEntry (.group name hooks entries) (.group name others twins)
  | case {title other : String} {body twin : Body} (titled : IsPromotedTitle title other)
      (bodies : pairing.Bodies body twin) : PairsEntry (.case title body) (.case other twin)

/-- Several entries are paired one by one. -/
inductive PairsEntries : List Entry → List Entry → Prop
  | nil : PairsEntries [] []
  | cons {entry twin : Entry} {entries twins : List Entry} (head : PairsEntry entry twin)
      (tail : PairsEntries entries twins) : PairsEntries (entry :: entries) (twin :: twins)

end

/-- Open groups have the same name and paired content. -/
structure Groups (group twin : OpenGroup) : Prop where
  name : twin.name = group.name
  hooks : List.Forall₂ pairing.Bodies group.hooks twin.hooks
  entries : pairing.PairsEntries group.entries twin.entries

/-- Suites have paired groups, which are prepared as far. -/
structure Suites (suite twin : Suite) : Prop where
  current : pairing.Groups suite.current twin.current
  enclosing : List.Forall₂ pairing.Groups suite.enclosing twin.enclosing
  progress : twin.progress = suite.progress

/-- The suites of the runner are paired, and all else is the same but for the log. -/
structure Rigs (rig twin : Rig Runner) : Prop where
  bench : rig.bench.SameButLog twin.bench
  cells : twin.cells = rig.cells
  current : twin.current = rig.current
  runners : ∃ suite other, rig.IsSuite pairing.runner suite ∧ pairing.Suites suite other ∧
    twin.runners = rig.runners.setIfInBounds pairing.runner.index (.suite other)

/-- A case that can be run, in two ways. -/
structure Picks (pick twin : Pick) : Prop where
  group : twin.group = pick.group
  path : ∃ around title other, IsPromotedTitle title other ∧ pick.path = around ++ [title] ∧
    twin.path = around ++ [other]
  bodies : pairing.Bodies pick.body twin.body

variable {pairing}

/-! ### Entries and groups -/

theorem PairsEntries.append {entries twins more others : List Entry}
    (pairs : pairing.PairsEntries entries twins) (further : pairing.PairsEntries more others) :
    pairing.PairsEntries (entries ++ more) (twins ++ others) := by
  induction entries generalizing twins with
  | nil =>
      cases pairs
      exact further
  | cons entry entries ih =>
      cases pairs with
      | cons head tail => exact .cons head (ih tail)

theorem PairsEntries.length {entries twins : List Entry}
    (pairs : pairing.PairsEntries entries twins) : twins.length = entries.length := by
  induction entries generalizing twins with
  | nil =>
      cases pairs
      rfl
  | cons entry entries ih =>
      cases pairs with
      | cons head tail => rw [List.length_cons, List.length_cons, ih tail]

theorem PairsEntries.drop {entries twins : List Entry}
    (pairs : pairing.PairsEntries entries twins) (count : Nat) :
    pairing.PairsEntries (entries.drop count) (twins.drop count) := by
  induction count generalizing entries twins with
  | zero => exact pairs
  | succ count ih =>
      cases pairs with
      | nil => exact .nil
      | cons head tail => exact ih tail

theorem Groups.close {group twin : OpenGroup} (pairs : pairing.Groups group twin) :
    pairing.PairsEntry group.close twin.close := by
  rw [OpenGroup.close, OpenGroup.close, pairs.name]
  exact .group group.name pairs.hooks pairs.entries

theorem Groups.addEntry {group twin : OpenGroup} {entry other : Entry}
    (pairs : pairing.Groups group twin) (entries : pairing.PairsEntry entry other) :
    pairing.Groups (group.addEntry entry) (twin.addEntry other) :=
  ⟨pairs.name, pairs.hooks, pairs.entries.append (.cons entries .nil)⟩

theorem Groups.addHook {group twin : OpenGroup} {hook other : Body}
    (pairs : pairing.Groups group twin) (bodies : pairing.Bodies hook other) :
    pairing.Groups (group.addHook hook) (twin.addHook other) :=
  ⟨pairs.name, List.rel_append pairs.hooks (.cons bodies .nil), pairs.entries⟩

mutual

/-- Paired entries have paired cases, in the same order. -/
theorem PairsEntry.picks (group : GroupPath) (index : Nat) (path : List String) :
    ∀ {entry twin : Entry}, pairing.PairsEntry entry twin →
      List.Forall₂ pairing.Picks (entry.picks group index path) (twin.picks group index path)
  | _, _, .group name _ content => by
      rw [Entry.picks, Entry.picks]
      exact content.picksAll (group ++ [index]) 0 (withName path name)
  | _, _, .case titled bodies => .cons ⟨rfl, ⟨path, _, _, titled, rfl, rfl⟩, bodies⟩ .nil

theorem PairsEntries.picksAll (group : GroupPath) (next : Nat) (path : List String) :
    ∀ {entries twins : List Entry}, pairing.PairsEntries entries twins →
      List.Forall₂ pairing.Picks (Entry.picksAll group next path entries)
        (Entry.picksAll group next path twins)
  | _, _, .nil => .nil
  | _, _, .cons head tail => by
      rw [Entry.picksAll, Entry.picksAll]
      exact List.rel_append (head.picks group next path) (tail.picksAll group (next + 1) path)

end

/-- The groups at a path of paired entries have the same name and paired hooks. -/
theorem PairsEntries.groupAt (path : GroupPath) {name : String} {hooks others : List Body}
    {entries twins : List Entry} (prepared : List.Forall₂ pairing.Bodies hooks others)
    (pairs : pairing.PairsEntries entries twins) :
    (Entry.groupAt name others twins path).1 = (Entry.groupAt name hooks entries path).1 ∧
      List.Forall₂ pairing.Bodies (Entry.groupAt name hooks entries path).2
        (Entry.groupAt name others twins path).2 := by
  induction path generalizing name hooks others entries twins with
  | nil => exact ⟨rfl, prepared⟩
  | cons index rest ih =>
      induction entries generalizing index twins with
      | nil =>
          cases pairs
          exact ⟨rfl, .nil⟩
      | cons entry entries further =>
          cases pairs with
          | cons head tail =>
              cases index with
              | succ index => exact further index tail
              | zero =>
                  cases head with
                  | group _ prepared content => exact ih prepared content
                  | case _ _ => exact ⟨rfl, .nil⟩

/-! ### Suites -/

namespace Suites

variable {suite twin : Suite}

theorem enter (pairs : pairing.Suites suite twin) (name : String) :
    pairing.Suites (suite.enter name) (twin.enter name) :=
  ⟨⟨rfl, .nil, .nil⟩, .cons pairs.current pairs.enclosing, pairs.progress⟩

theorem leave (pairs : pairing.Suites suite twin) : pairing.Suites suite.leave twin.leave := by
  rcases suite with ⟨current, enclosing, progress⟩
  rcases twin with ⟨current', enclosing', progress'⟩
  obtain ⟨inner, outer, same⟩ := pairs
  cases outer with
  | nil => exact ⟨inner, .nil, same⟩
  | cons around further => exact ⟨around.addEntry inner.close, further, same⟩

theorem before {hook other : Body} (pairs : pairing.Suites suite twin)
    (bodies : pairing.Bodies hook other) :
    pairing.Suites (suite.before hook) (twin.before other) :=
  ⟨pairs.current.addHook bodies, pairs.enclosing, pairs.progress⟩

theorem case {title other : String} {body code : Body} (pairs : pairing.Suites suite twin)
    (titled : IsPromotedTitle title other) (bodies : pairing.Bodies body code) :
    pairing.Suites (suite.case title body) (twin.case other code) :=
  ⟨pairs.current.addEntry (.case titled bodies), pairs.enclosing, pairs.progress⟩

theorem reset (pairs : pairing.Suites suite twin) : pairing.Suites suite.reset twin.reset :=
  ⟨pairs.current, pairs.enclosing, rfl⟩

theorem setProgress (pairs : pairing.Suites suite twin) (path : GroupPath)
    (preparation : Preparation) :
    pairing.Suites (suite.setProgress path preparation) (twin.setProgress path preparation) :=
  ⟨pairs.current, pairs.enclosing, by rw [Suite.setProgress, Suite.setProgress, pairs.progress]⟩

theorem root (pairs : pairing.Suites suite twin) : pairing.Groups suite.root twin.root := by
  have closed : ∀ {enclosing others : List OpenGroup},
      List.Forall₂ pairing.Groups enclosing others → ∀ {group other : OpenGroup},
        pairing.Groups group other →
          pairing.Groups (Suite.rootOf group enclosing) (Suite.rootOf other others) := by
    intro enclosing others around
    induction around with
    | nil => exact fun inner => inner
    | cons head _ ih => exact fun inner => ih (head.addEntry inner.close)
  exact closed pairs.enclosing pairs.current

/-- The cases of paired suites are paired. -/
theorem picksFrom (pairs : pairing.Suites suite twin) (done : Nat) :
    List.Forall₂ pairing.Picks (suite.picksFrom done) (twin.picksFrom done) := by
  rw [Suite.picksFrom, Suite.picksFrom, pairs.root.name]
  exact (pairs.root.entries.drop done).picksAll [] done _

theorem groupAt (pairs : pairing.Suites suite twin) (path : GroupPath) :
    (twin.groupAt path).1 = (suite.groupAt path).1 ∧
      List.Forall₂ pairing.Bodies (suite.groupAt path).2 (twin.groupAt path).2 := by
  rw [Suite.groupAt, Suite.groupAt, pairs.root.name]
  exact pairs.root.entries.groupAt path pairs.root.hooks

end Suites

/-- A suite that nothing was registered with is paired with itself. -/
theorem suites_empty (name : String) : pairing.Suites (Suite.empty name) (Suite.empty name) :=
  ⟨⟨rfl, .nil, .nil⟩, .nil, rfl⟩

/-! ### Effects on rigs -/

open Effect (Echoes)

variable {α β : Type} {values : α → β → Prop}

theorem echoes_execute {first : Execution α} {second : Execution β}
    (echoes : Echoes Bench.SameButLog values first second) :
    Echoes pairing.Rigs values (Rig.execute first) (Rig.execute second) := by
  intro rig twin pairs
  obtain ⟨outcomes, left⟩ := echoes rig.bench twin.bench pairs.bench
  exact ⟨outcomes, { pairs with bench := left }⟩

theorem echoes_act {first : Action α} {second : Action β}
    (echoes : Echoes World.SameButLog values first second) :
    Echoes pairing.Rigs values (Rig.act first) (Rig.act second) :=
  echoes_execute echoes.ofAction

theorem echoes_capture {first : Effect (Rig Runner) α} {second : Effect (Rig Runner) β}
    (echoes : Echoes pairing.Rigs values first second) :
    Echoes pairing.Rigs (Outcome.Pairs values) (Rig.capture first) (Rig.capture second) := by
  refine echoes.attempt.bind fun outcomes => ?_
  cases outcomes with
  | returned alike => exact .pure (.returned alike)
  | raised error =>
      have asked : Action.IgnoresLog (Effect.read fun world => world.isOrdinary error) :=
        .read fun _ _ => rfl
      refine (echoes_act asked.echoes).bind_eq fun isCaught => ?_
      cases isCaught with
      | true => exact .pure (.raised error)
      | false => exact .raise error

theorem echoes_read {source : Source} (blind : source.IsBlind) :
    Echoes pairing.Rigs Eq (Rig.read source) (Rig.read source) := by
  cases source with
  | produced make => exact echoes_act (Action.IgnoresLog.echoes blind)
  | kept cell =>
      have looked : Echoes pairing.Rigs Eq
          (Effect.read fun rig : Rig Runner => (rig.cells[cell.index]?).join)
          (Effect.read fun rig : Rig Runner => (rig.cells[cell.index]?).join) :=
        .read fun pairs => by rw [pairs.cells]
      refine looked.bind_eq fun value => ?_
      cases value with
      | none => exact echoes_act (Action.echoes_fail .noResult)
      | some value => exact .pure rfl

theorem echoes_newCell : Echoes pairing.Rigs Eq Rig.newCell Rig.newCell := by
  intro rig twin pairs
  refine ⟨.returned (by rw [pairs.cells]), { pairs with cells := ?_ }⟩
  rw [Rig.newCell, Effect.update_apply, Effect.update_apply, pairs.cells]

theorem echoes_setCell (cell : CellRef) (value : Value) :
    Echoes pairing.Rigs Eq (Rig.setCell cell value) (Rig.setCell cell value) :=
  .modify fun pairs => { pairs with cells := by rw [pairs.cells] }

/-- The runner holds a suite on either rig, and these suites are paired. -/
theorem Rigs.suites {rig twin : Rig Runner} (pairs : pairing.Rigs rig twin) :
    ∃ suite other, rig.IsSuite pairing.runner suite ∧ twin.IsSuite pairing.runner other ∧
      pairing.Suites suite other ∧
        twin.runners = rig.runners.setIfInBounds pairing.runner.index (.suite other) := by
  obtain ⟨suite, other, isSuite, suites, runners⟩ := pairs.runners
  refine ⟨suite, other, isSuite, ?_, suites, runners⟩
  rw [Rig.IsSuite, runners]
  exact isSuite.withSuite other

theorem echoes_readSuite {view : Suite → α} {display : Suite → β}
    (alike : ∀ {suite twin}, pairing.Suites suite twin → values (view suite) (display twin)) :
    Echoes pairing.Rigs values (Rig.readSuite pairing.runner view)
      (Rig.readSuite pairing.runner display) := by
  refine .read fun {rig twin} pairs => ?_
  obtain ⟨suite, other, isSuite, also, suites, _⟩ := pairs.suites
  rw [Rig.suiteOf_of_isSuite isSuite, Rig.suiteOf_of_isSuite also]
  exact alike suites

/-- Registration calls that make paired suites of paired suites and differ otherwise in what
they write to the log keep rigs paired. -/
theorem echoes_changeRunner {change alter : Runner → World → Runner × World}
    (onSuites : ∀ {suite twin}, pairing.Suites suite twin → ∃ changed altered,
      pairing.Suites changed altered ∧
        (∀ world, ∃ records,
          change (.suite suite) world = (.suite changed, world.withRecords records)) ∧
        ∀ world, ∃ records,
          alter (.suite twin) world = (.suite altered, world.withRecords records)) :
    Echoes pairing.Rigs Eq (Rig.changeRunner pairing.runner change)
      (Rig.changeRunner pairing.runner alter) := by
  refine .modify fun {rig twin} pairs => ?_
  obtain ⟨suite, other, isSuite, also, suites, runners⟩ := pairs.suites
  obtain ⟨changed, altered, still, first, second⟩ := onSuites suites
  obtain ⟨written, one⟩ := first rig.bench.world
  obtain ⟨records, two⟩ := second twin.bench.world
  obtain ⟨log, bench⟩ := pairs.bench
  have after : (rig.withSuite pairing.runner changed).IsSuite pairing.runner changed :=
    isSuite.withSuite changed
  rw [Rig.IsSuite] at isSuite also
  rw [isSuite, also]
  simp only [one, two]
  refine ⟨⟨records, ?_⟩, pairs.cells, pairs.current, changed, altered, after, still, ?_⟩
  · rw [bench]
    rfl
  · rw [runners]
    simp

theorem echoes_changeSuite {change : Suite → Suite}
    (keeps : ∀ {suite twin}, pairing.Suites suite twin →
      pairing.Suites (change suite) (change twin)) :
    Echoes pairing.Rigs Eq (Rig.changeSuite pairing.runner change)
      (Rig.changeSuite pairing.runner change) :=
  echoes_changeRunner fun suites =>
    ⟨_, _, keeps suites, fun world => ⟨world.records, rfl⟩, fun world => ⟨world.records, rfl⟩⟩

theorem echoes_before {hook other : Body} (bodies : pairing.Bodies hook other) :
    Echoes pairing.Rigs Eq (Rig.before pairing.runner hook) (Rig.before pairing.runner other) :=
  echoes_changeRunner fun suites =>
    ⟨_, _, suites.before bodies, fun _ => ⟨_, rfl⟩, fun _ => ⟨_, rfl⟩⟩

theorem echoes_case {title other : String} {body code : Body}
    (titled : IsPromotedTitle title other) (bodies : pairing.Bodies body code) :
    Echoes pairing.Rigs Eq (Rig.case pairing.runner title body)
      (Rig.case pairing.runner other code) :=
  echoes_changeRunner fun suites =>
    ⟨_, _, suites.case titled bodies, fun _ => ⟨_, rfl⟩, fun _ => ⟨_, rfl⟩⟩

theorem echoes_group {name : String} {content filling : Effect (Rig Runner) Unit}
    (inside : Echoes pairing.Rigs Eq content filling) :
    Echoes pairing.Rigs Eq (Rig.group pairing.runner name content)
      (Rig.group pairing.runner name filling) := by
  have entered : Echoes pairing.Rigs Eq
      (Rig.changeRunner pairing.runner (SpecRunner.enter name))
      (Rig.changeRunner pairing.runner (SpecRunner.enter name)) :=
    echoes_changeRunner fun suites =>
      ⟨_, _, suites.enter name, fun _ => ⟨_, rfl⟩, fun _ => ⟨_, rfl⟩⟩
  have left : Echoes pairing.Rigs Eq
      (Rig.changeRunner pairing.runner fun found world => (SpecRunner.leave found, world))
      (Rig.changeRunner pairing.runner fun found world => (SpecRunner.leave found, world)) :=
    echoes_changeRunner fun suites =>
      ⟨_, _, suites.leave, fun world => ⟨world.records, rfl⟩, fun world => ⟨world.records, rfl⟩⟩
  exact entered.bind_eq fun _ => inside.attempt.bind fun outcomes =>
    left.bind_eq fun _ => .ofOutcome outcomes

end Pairing

end DeferredSpec
