/-
# A ledger of hooks and bodies

While cases of a suite are invoked, a ledger can be kept of the hooks and bodies that are
run: each is written down right before it runs, with the rig in which it is started. Nothing
that runs can look at the ledger, and keeping it changes nothing.
-/

import DeferredSpec.Suite.Run

namespace DeferredSpec

/-- A hook of a group, told by its position, or the body of a case, with the rig in which it
is started. -/
inductive Deed
  | hook (group : GroupPath) (position : Nat) (hook : Body) (start : Rig Runner)
  | body (pick : Pick) (start : Rig Runner)

/-- A rig with what was run on it, oldest first. -/
structure Ledger where
  rig : Rig Runner
  deeds : List Deed := []

namespace Rig

/-- Invoke a case that was handed out, however it ends. -/
def invoke (forest : Array SpecTree) (runner : RunnerRef) (pick : Pick) :
    Effect (Rig Runner) Unit := do
  let _ ← (runPick forest runner pick).attempt
  pure ()

/-- Invoke cases that were handed out, one after another. -/
def invokeAll (forest : Array SpecTree) (runner : RunnerRef) :
    List Pick → Effect (Rig Runner) Unit :=
  Effect.forEach (invoke forest runner)

end Rig

namespace Ledger

variable {α β : Type}

/-- Do something on the rig that is not written down. -/
def perform (effect : Effect (Rig Runner) α) : Effect Ledger α := fun ledger =>
  ((effect ledger.rig).1, { ledger with rig := (effect ledger.rig).2 })

/-- Write down what is about to be run. -/
def write (deed : Rig Runner → Deed) : Effect Ledger Unit :=
  Effect.modify fun ledger => { ledger with deeds := ledger.deeds ++ [deed ledger.rig] }

@[simp] theorem perform_apply (effect : Effect (Rig Runner) α) (ledger : Ledger) :
    perform effect ledger =
      ((effect ledger.rig).1, { ledger with rig := (effect ledger.rig).2 }) := rfl

@[simp] theorem write_apply (deed : Rig Runner → Deed) (ledger : Ledger) :
    write deed ledger = (.returned (), { ledger with deeds := ledger.deeds ++ [deed ledger.rig] }) :=
  rfl

variable (forest : Array SpecTree) (runner : RunnerRef)

/-- Run one hook of a group, given with its position. -/
def runHook (path : GroupPath) (name : String) (hook : Body × Nat) : Effect Ledger Unit := do
  write (.hook path hook.2 hook.1)
  perform (Rig.runHook forest runner path name hook.1)

/-- Run the hooks of a group from position `done` on; returns how many those were. -/
def runFurtherHooks (path : GroupPath) (done : Nat) : Effect Ledger Nat := do
  let (name, hooks) ← perform (Rig.readSuite runner fun suite => suite.groupAt path)
  Effect.forEach (runHook forest runner path name) (hooks.zipIdx.drop done)
  pure (hooks.drop done).length

/-- Run the hooks of a group from position `done` on, and then those that were registered
with it meanwhile. -/
def runHooks (path : GroupPath) : Nat → Nat → Effect Ledger Unit
  | 0, done => do
      let _ ← runFurtherHooks forest runner path done
      pure ()
  | generations + 1, done => do
      let count ← runFurtherHooks forest runner path done
      if count = 0 then pure () else runHooks path generations (done + count)

/-- Prepare a group. -/
def prepare (path : GroupPath) : Effect Ledger Unit := do
  let suite ← perform (Rig.readSuite runner id)
  match suite.progress path with
  | .done => pure ()
  | .failed error => Effect.raise error
  | .pending => do
      perform (Rig.changeSuite runner (Suite.setProgress path .done))
      runHooks forest runner path (suite.generations forest) 0

/-- Run a case. -/
def runPick (pick : Pick) : Effect Ledger Unit := do
  Effect.forEach (prepare forest runner) (GroupPath.lineage pick.group)
  write (.body pick)
  perform do
    let _ ← pick.body.run forest
    pure ()

/-- Invoke a case, however it ends. -/
def invoke (pick : Pick) : Effect Ledger Unit := do
  let _ ← (runPick forest runner pick).attempt
  pure ()

/-- Invoke cases one after another. -/
def invokeAll : List Pick → Effect Ledger Unit := Effect.forEach (invoke forest runner)

/-- What is done with a ledger is what is done without. -/
def Shadows (kept : Effect Ledger α) (plain : Effect (Rig Runner) α) : Prop :=
  ∀ ledger, (kept ledger).1 = (plain ledger.rig).1 ∧ (kept ledger).2.rig = (plain ledger.rig).2

namespace Shadows

protected theorem perform (effect : Effect (Rig Runner) α) : Shadows (perform effect) effect :=
  fun _ => ⟨rfl, rfl⟩

protected theorem pure (value : α) : Shadows (pure value) (pure value) := fun _ => ⟨rfl, rfl⟩

protected theorem bind {kept : Effect Ledger α} {plain : Effect (Rig Runner) α}
    {next : α → Effect Ledger β} {further : α → Effect (Rig Runner) β}
    (shadows : Shadows kept plain) (onward : ∀ value, Shadows (next value) (further value)) :
    Shadows (kept >>= next) (plain >>= further) := by
  intro ledger
  have start := shadows ledger
  rw [Effect.bind_apply, Effect.bind_apply]
  rcases ended : kept ledger with ⟨outcome, later⟩
  rcases done : plain ledger.rig with ⟨other, rig⟩
  rw [ended, done] at start
  obtain ⟨rfl, rfl⟩ := start
  cases outcome with
  | returned value => exact onward value later
  | raised error => exact ⟨rfl, rfl⟩

/-- Writing something down is no part of what is done. -/
theorem write {deed : Rig Runner → Deed} {kept : Effect Ledger α} {plain : Effect (Rig Runner) α}
    (shadows : Shadows kept plain) : Shadows (Ledger.write deed >>= fun _ => kept) plain :=
  fun ledger => shadows { ledger with deeds := ledger.deeds ++ [deed ledger.rig] }

protected theorem attempt {kept : Effect Ledger α} {plain : Effect (Rig Runner) α}
    (shadows : Shadows kept plain) : Shadows kept.attempt plain.attempt := by
  intro ledger
  obtain ⟨outcome, rig⟩ := shadows ledger
  exact ⟨congrArg Outcome.returned outcome, rig⟩

protected theorem forEach {γ δ : Type} {kept : γ → Effect Ledger Unit}
    {plain : δ → Effect (Rig Runner) Unit} (item : γ → δ)
    (shadows : ∀ entry, Shadows (kept entry) (plain (item entry))) :
    ∀ entries : List γ, Shadows (Effect.forEach kept entries)
      (Effect.forEach plain (entries.map item))
  | [] => .pure ()
  | entry :: entries => (shadows entry).bind fun _ => Shadows.forEach item shadows entries

end Shadows

theorem shadows_runHook (path : GroupPath) (name : String) (hook : Body × Nat) :
    Shadows (runHook forest runner path name hook) (Rig.runHook forest runner path name hook.1) :=
  .write (.perform _)

theorem shadows_runFurtherHooks (path : GroupPath) (done : Nat) :
    Shadows (runFurtherHooks forest runner path done)
      (Rig.runFurtherHooks forest runner path done) := by
  refine .bind (.perform _) fun found => .bind ?_ fun _ => .pure _
  have named := Shadows.forEach Prod.fst (shadows_runHook forest runner path found.1)
    (found.2.zipIdx.drop done)
  rwa [List.map_drop, List.zipIdx_map_fst] at named

theorem shadows_runHooks (path : GroupPath) (generations done : Nat) :
    Shadows (runHooks forest runner path generations done)
      (Rig.runHooks forest runner path generations done) := by
  induction generations generalizing done with
  | zero => exact .bind (shadows_runFurtherHooks forest runner path done) fun _ => .pure ()
  | succ generations ih =>
      refine .bind (shadows_runFurtherHooks forest runner path done) fun count => ?_
      split
      · exact .pure ()
      · exact ih (done + count)

theorem shadows_prepare (path : GroupPath) :
    Shadows (prepare forest runner path) (Rig.prepare forest runner path) := by
  refine .bind (.perform _) fun suite => ?_
  cases suite.progress path with
  | done => exact .pure ()
  | failed error => exact fun _ => ⟨rfl, rfl⟩
  | pending => exact .bind (.perform _) fun _ => shadows_runHooks forest runner path _ 0

theorem shadows_runPick (pick : Pick) :
    Shadows (runPick forest runner pick) (Rig.runPick forest runner pick) := by
  have prepared := Shadows.forEach id (shadows_prepare forest runner)
    (GroupPath.lineage pick.group)
  rw [List.map_id] at prepared
  exact .bind prepared fun _ => .write (.perform _)

theorem shadows_invoke (pick : Pick) :
    Shadows (invoke forest runner pick) (Rig.invoke forest runner pick) :=
  .bind (.attempt (shadows_runPick forest runner pick)) fun _ => .pure ()

/-- Invoking cases is the same with a ledger as without. -/
theorem shadows_invokeAll (picks : List Pick) :
    Shadows (invokeAll forest runner picks) (Rig.invokeAll forest runner picks) := by
  have each := Shadows.forEach id (shadows_invoke forest runner) picks
  rwa [List.map_id] at each

end Ledger

end DeferredSpec
