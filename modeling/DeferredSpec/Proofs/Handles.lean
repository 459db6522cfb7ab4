/-
# Handles in use

Handles are used in any order, those of several trees mixed, and a use that fails does not
end the sequence. Whatever is done, a tree that was planted as a subject stays linked as a tree
and only grows. A use of a handle attaches one child, records the arguments of a first call, or
is refused, so all of this follows from what one use does, by induction on the uses.

The refusal of a second call tells the arguments of both calls, so it can itself fail where one
of them cannot be rendered.
-/

import DeferredSpec.Proofs.Links
import DeferredSpec.Proofs.Operations
import DeferredSpec.Samples.Objects

namespace DeferredSpec

/-- A use of a handle: a member is named, the handle is called, or a step is taken by its
name. -/
inductive HandleUse
  | access (known : KnownNode) (name : String)
  | call (known : KnownNode) (arguments : List Value)
  | step (known : KnownNode) (name : String) (arguments : List Value)

namespace Session

variable [ObjectModel] {α β : Type} {session : Session} {place : Nat} {tree : SpecTree}
  {address : Address} {node : ActionNode}

/-- The world of a session. -/
def world (session : Session) : World := session.rig.bench.world

/-- A session in another world. -/
def withWorld (session : Session) (world : World) : Session :=
  { session with rig := { session.rig with bench := { session.rig.bench with world := world } } }

/-- A session with another tree at a place. -/
def withTree (session : Session) (place : Nat) (tree : SpecTree) : Session :=
  { session with forest := session.forest.setIfInBounds place tree }

omit [ObjectModel] in
@[simp] theorem act_apply (action : Action α) (session : Session) :
    act action session =
      ((action session.world).1, session.withWorld (action session.world).2) := rfl

omit [ObjectModel] in
@[simp] theorem setTree_apply (place : Nat) (tree : SpecTree) (session : Session) :
    setTree place tree session = (.returned (), session.withTree place tree) := rfl

omit [ObjectModel] in
@[simp] theorem forest_withWorld (session : Session) (world : World) :
    (session.withWorld world).forest = session.forest := rfl

omit [ObjectModel] in
@[simp] theorem world_withWorld (session : Session) (world : World) :
    (session.withWorld world).world = world := rfl

omit [ObjectModel] in
theorem forest_withTree (planted : session.forest[place]? = some tree) (later : SpecTree) :
    (session.withTree place later).forest[place]? = some later := by
  obtain ⟨within, _⟩ := Array.getElem?_eq_some_iff.mp planted
  exact Array.getElem?_setIfInBounds_self_of_lt within

/-- An effect leaves the tree at a place alone. -/
def Spares (place : Nat) (effect : Effect Session α) : Prop :=
  ∀ session, (effect session).2.forest[place]? = session.forest[place]?

namespace Spares

omit [ObjectModel]

protected theorem pure (value : α) : Spares place (pure value : Effect Session α) := fun _ => rfl

protected theorem act (action : Action α) : Spares place (act action) := fun _ => rfl

protected theorem bind {effect : Effect Session α} {next : α → Effect Session β}
    (first : Spares place effect) (second : ∀ value, Spares place (next value)) :
    Spares place (effect >>= next) := by
  intro session
  have kept := first session
  rw [Effect.bind_apply]
  rcases ended : effect session with ⟨outcome, later⟩
  rw [ended] at kept
  cases outcome with
  | raised error => exact kept
  | returned value => exact (second value later).trans kept

protected theorem treeAt (ref : NodeRef) : Spares place (treeAt ref) := by
  refine .bind (fun _ => rfl) fun forest => ?_
  unfold orOutOfRange
  split
  · exact .pure _
  · exact .act _

protected theorem setTree {other : Nat} (foreign : other ≠ place) (tree : SpecTree) :
    Spares place (setTree other tree) := fun _ => Array.getElem?_setIfInBounds_ne foreign

end Spares

theorem spares_growMember {known : KnownNode} (foreign : known.ref.tree ≠ place) (name : Value) :
    Spares place (growMember known name) :=
  .bind (.treeAt _) fun _ => .bind (.act _) fun _ => .bind (.setTree foreign _) fun _ => .pure _

omit [ObjectModel] in
theorem spares_recordCall {ref : NodeRef} (foreign : ref.tree ≠ place) (attempted : Value) :
    Spares place (recordCall ref attempted) :=
  .bind (.treeAt _) fun _ => .bind (.act _) fun _ => .setTree foreign _

omit [ObjectModel] in
theorem spares_callHandle {known : KnownNode} (foreign : known.ref.tree ≠ place)
    (arguments : List Value) : Spares place (callHandle known arguments) :=
  spares_recordCall foreign (.tuple arguments)

omit [ObjectModel] in
/-- The tree of a node that is there is found. -/
theorem treeAt_of_nodeAt? (planted : session.forest[place]? = some tree)
    (there : (tree.root.nodeAt? address).isSome) :
    ∃ below, tree.root.subtree? address = some below ∧
      treeAt ⟨place, address⟩ session = (.returned (tree, below), session) := by
  obtain ⟨node, known⟩ := Option.isSome_iff_exists.mp there
  obtain ⟨below, located, _⟩ := ActionTree.exists_subtree? known
  refine ⟨below, located, ?_⟩
  rw [treeAt, Effect.bind_apply, Effect.read_apply]
  simp [planted, located, orOutOfRange]

omit [ObjectModel] in
/-- Where there is no node none is found. -/
theorem treeAt_of_missing (planted : session.forest[place]? = some tree)
    (missing : tree.root.nodeAt? address = none) :
    ∃ error later, treeAt ⟨place, address⟩ session = (.raised error, session.withWorld later) := by
  have absent : tree.root.subtree? address = none := Option.map_eq_none_iff.mp missing
  rw [treeAt, Effect.bind_apply, Effect.read_apply]
  simp only [planted, absent, Option.bind_eq_bind, Option.bind_some, Option.bind_none,
    orOutOfRange]
  exact ⟨_, _, rfl⟩

theorem growMember_of_missing {known : KnownNode} (here : known.ref.tree = place)
    (planted : session.forest[place]? = some tree)
    (missing : tree.root.nodeAt? known.ref.address = none) (name : Value) :
    ∃ error later, growMember known name session = (.raised error, session.withWorld later) := by
  subst here
  obtain ⟨error, later, lost⟩ := treeAt_of_missing planted missing
  exact ⟨error, later, by rw [growMember, Effect.bind_apply, lost]⟩

omit [ObjectModel] in
theorem recordCall_of_missing {ref : NodeRef} (here : ref.tree = place)
    (planted : session.forest[place]? = some tree)
    (missing : tree.root.nodeAt? ref.address = none) (attempted : Value) :
    ∃ error later, recordCall ref attempted session =
      (.raised error, session.withWorld later) := by
  subst here
  obtain ⟨error, later, lost⟩ := treeAt_of_missing planted missing
  exact ⟨error, later, by rw [recordCall, Effect.bind_apply, lost]⟩

/-- Naming a member at a node attaches a child to it. -/
theorem growMember_apply (planted : session.forest[place]? = some tree)
    (complete : tree.losses = []) (there : (tree.root.nodeAt? address).isSome)
    (engine : AssertionEngine) (name : String) :
    ∃ world, growMember ⟨⟨place, address⟩, engine⟩ (.text name) session =
      (.returned ⟨⟨place, address ++ [tree.root.childCount address]⟩, engine⟩,
        (session.withWorld world).withTree place (tree.next (.member engine address name))) := by
  obtain ⟨below, _, found⟩ := treeAt_of_nodeAt? planted there
  obtain ⟨later, named⟩ := SpecTree.resolveMember_text complete engine address name session.world
  refine ⟨later, ?_⟩
  rw [growMember, Effect.bind_apply, found]
  simp only [Effect.bind_apply, act_apply, named, setTree_apply, Effect.pure_apply]
  rfl

omit [ObjectModel] in
/-- The arguments of a first call are recorded. -/
theorem recordCall_apply (planted : session.forest[place]? = some tree)
    (complete : tree.losses = []) (known : tree.root.nodeAt? address = some node)
    (uncalled : node.arguments = none) (arguments : List Value) :
    recordCall ⟨place, address⟩ (.tuple arguments) session =
      (.returned (), session.withTree place
        { tree with
          root := tree.root.setNode address { node with arguments := some arguments } }) := by
  obtain ⟨below, located, found⟩ := treeAt_of_nodeAt? planted (by rw [known]; rfl)
  obtain rfl : below.here = node :=
    Option.some.inj ((ActionTree.nodeAt?_of_subtree? located).symm.trans known)
  have recorded : tree.recordCall address (.tuple arguments) session.world =
      (.returned { tree with
        root := tree.root.setNode address { below.here with arguments := some arguments } },
        session.world) := by
    rw [SpecTree.recordCall, located]
    simp only [SpecTree.require_of_losses_eq_nil complete, pure_bind, ActionNode.record, uncalled]
    rfl
  rw [recordCall, Effect.bind_apply, found]
  simp only [Effect.bind_apply, act_apply, recorded, setTree_apply]
  rfl

omit [ObjectModel] in
/-- Arguments that cannot be rendered raise an error of the host language. -/
theorem renderAll_apply (values : List Value) (world : World) :
    (∃ text, Action.renderAll values world = (.returned text, world)) ∨
      ∃ error later name, Action.renderAll values world = (.raised error, later) ∧
        (later.errorAt error).kind = .host name := by
  rw [Action.renderAll, Effect.bind_apply, Effect.read_apply]
  dsimp only
  cases Snapshot.renderAll (values.map world.view) with
  | ok text => exact .inl ⟨text, rfl⟩
  | error reason =>
      have kept := World.errorAt_newError
        { kind := (Fault.unwritable reason).kind, arguments := (Fault.unwritable reason).arguments,
          cause := none } world
      have kind : ∃ name, (Fault.unwritable reason).kind = .host name := by
        cases reason <;> exact ⟨_, rfl⟩
      obtain ⟨name, host⟩ := kind
      exact .inr ⟨_, _, name, rfl, (congrArg ErrorCell.kind kept).trans host⟩

omit [ObjectModel] in
/-- A second call is refused. The refusal tells the arguments of both calls if these can be
rendered. -/
theorem record_again {recorded : List Value} (called : node.arguments = some recorded)
    {word : String} (described : node.description = .text word) (attempted : List Value)
    (world : World) :
    ∃ error later, node.record (.tuple attempted) world = (.raised error, later) ∧
      ((later.errorAt error).kind =
          .invocation node.description (.tuple recorded) (.tuple attempted) ↔
        (Action.renderAll recorded world).1.isReturned ∧
          (Action.renderAll attempted world).1.isReturned) := by
  have plain : Action.plain (.text word) world = (.returned word, world) := rfl
  have members (items : List Value) :
      (Value.tuple items).iterate world = (.returned items, world) := rfl
  rw [ActionNode.record, called]
  simp only [SpecError.invocation, SpecError.invocationMessage, described, Effect.bind_apply,
    plain, members]
  rcases renderAll_apply recorded world with ⟨first, shown⟩ | ⟨error, later, name, unshown, kind⟩
  · rcases renderAll_apply attempted world with ⟨second, shown'⟩ | ⟨error, later, name, unshown, kind⟩
    · simp only [shown, shown', members, Effect.pure_apply]
      refine ⟨_, _, rfl, iff_of_true ?_ ⟨rfl, rfl⟩⟩
      exact congrArg ErrorCell.kind (World.errorAt_newError _ world)
    · simp only [shown, members, unshown]
      refine ⟨error, later, rfl, iff_of_false ?_ ?_⟩
      · rw [kind]
        exact ErrorKind.noConfusion
      · rintro ⟨-, returned⟩
        cases returned
  · simp only [unshown]
    refine ⟨error, later, rfl, iff_of_false ?_ ?_⟩
    · rw [kind]
      exact ErrorKind.noConfusion
    · rintro ⟨returned, -⟩
      cases returned

omit [ObjectModel] in
/-- The arguments of a second call are not recorded. -/
theorem recordCall_again (planted : session.forest[place]? = some tree)
    (complete : tree.losses = []) (known : tree.root.nodeAt? address = some node)
    {recorded : List Value} (called : node.arguments = some recorded) {word : String}
    (described : node.description = .text word) (attempted : List Value) :
    ∃ error later, recordCall ⟨place, address⟩ (.tuple attempted) session =
        (.raised error, session.withWorld later) ∧
      ((later.errorAt error).kind =
          .invocation node.description (.tuple recorded) (.tuple attempted) ↔
        (Action.renderAll recorded session.world).1.isReturned ∧
          (Action.renderAll attempted session.world).1.isReturned) := by
  obtain ⟨below, located, found⟩ := treeAt_of_nodeAt? planted (by rw [known]; rfl)
  obtain rfl : below.here = node :=
    Option.some.inj ((ActionTree.nodeAt?_of_subtree? located).symm.trans known)
  obtain ⟨error, later, refused, told⟩ := record_again called described attempted session.world
  refine ⟨error, later, ?_, told⟩
  have raised : tree.recordCall address (.tuple attempted) session.world =
      (.raised error, later) := by
    rw [SpecTree.recordCall, located]
    simp only [SpecTree.require_of_losses_eq_nil complete, Effect.bind_apply, Effect.pure_apply,
      refused]
  rw [recordCall, Effect.bind_apply, found]
  simp only [Effect.bind_apply, act_apply, raised]

/-- Naming a member that handles do not have themselves adds a node if the name is trapped. -/
theorem readMember_of_trapped (known : KnownNode) {name : String}
    (other : name ≠ nodeMember) (foreign : name ∉ handleMethods)
    (trapped : MemberTrap.isReserved name = false) :
    readMember (.handle known) name =
      growMember known (.text name) >>= fun grown => pure (.handle grown) := by
  rw [readMember, if_neg (by simpa using other), if_neg (by simpa using foreign), MemberTrap.read,
    if_neg (ne_true_of_eq_false trapped)]
  simp only [bind_assoc, pure_bind]

/-- A reserved name is no member of a handle. -/
theorem readMember_of_reserved (known : KnownNode) {name : String}
    (other : name ≠ nodeMember) (foreign : name ∉ handleMethods)
    (reserved : MemberTrap.isReserved name) :
    readMember (.handle known) name = act (Action.fail (.reservedName name)) := by
  rw [readMember, if_neg (by simpa using other), if_neg (by simpa using foreign), MemberTrap.read,
    if_pos reserved]

/-- Taking a step by its name is naming a member and, where there are arguments, calling it. -/
theorem callHolding_step (known : KnownNode) (name : String) (arguments : List Value) :
    (readMember (.handle known) "step" >>= fun method =>
        callHolding method (.text name :: arguments)) =
      step known (.text name) arguments >>= fun grown => pure (.handle grown) := by
  have accepted : (handleSignature "step").check (.text name :: arguments) = pure () := by
    rw [Signature.check, Signature.fault?]
    simp [handleSignature]
  have method : readMember (.handle known) "step" = pure (.handleMethod known "step") := rfl
  rw [method, pure_bind, callHolding, accepted]
  rfl

end Session

namespace HandleUse

variable [ObjectModel] {session : Session} {place : Nat} {tree : SpecTree} {address : Address}

/-- The handle that is used. -/
def known : HandleUse → KnownNode
  | .access known _ => known
  | .call known _ => known
  | .step known _ _ => known

/-- Use a handle. -/
def perform : HandleUse → Effect Session Holding
  | .access known name => Session.readMember (.handle known) name
  | .call known arguments => Session.callHolding (.handle known) arguments
  | .step known name arguments => do
      let method ← Session.readMember (.handle known) "step"
      Session.callHolding method (.text name :: arguments)

/-- Use handles one after another, whether the uses return or fail. -/
def performAll (uses : List HandleUse) (session : Session) : Session :=
  uses.foldl (fun session use => (use.perform session).2) session

/-- A use was refused with an error of some kind, and no tree has changed. -/
def Refuses (kind : ErrorKind → Prop) (before : Session) (ended : Outcome Holding × Session) :
    Prop :=
  ∃ error, ended.1 = .raised error ∧ kind (ended.2.world.errorAt error).kind ∧
    ended.2.forest = before.forest

/-- A use has attached one node below the node of a handle and returned the handle of the new
node. -/
def Attaches (place : Nat) (tree : SpecTree) (known : KnownNode) (name : String)
    (arguments : Option (List Value)) (ended : Outcome Holding × Session) : Prop :=
  ∃ node later,
    ended.1 = .returned (.handle { known with
      ref := ⟨place, known.ref.address ++ [tree.root.childCount known.ref.address]⟩ }) ∧
    ended.2.forest[place]? = some later ∧
    tree.GainsChild known.ref.address node later ∧
    node.description = .text name ∧ node.arguments = arguments

/-- What is promised of the use of a handle. A member that handles do not have themselves is
trapped unless its name is reserved; a step is always trapped; and a node takes one call. -/
def KeepsPromise (place : Nat) (tree : SpecTree) (session : Session) : HandleUse → Prop
  | .access known name =>
      name ≠ Session.nodeMember → name ∉ Session.handleMethods →
        if MemberTrap.isReserved name then
          Refuses (fun kind => kind.isIn .attribute) session ((access known name).perform session)
        else Attaches place tree known name none ((access known name).perform session)
  | .call known arguments =>
      match tree.argumentsAt known.ref.address with
      | none =>
          ((call known arguments).perform session).1 = .returned (.handle known) ∧
            ∃ later, ((call known arguments).perform session).2.forest[place]? = some later ∧
              tree.GainsArguments known.ref.address arguments later
      | some recorded =>
          ∃ node, tree.root.nodeAt? known.ref.address = some node ∧
            Refuses (· = .invocation node.description (.tuple recorded) (.tuple arguments)) session
              ((call known arguments).perform session)
  | .step known name arguments =>
      Attaches place tree known name (if arguments.isEmpty then none else some arguments)
        ((step known name arguments).perform session)

/-- Whether a refusal of a use has words: the arguments of a second call and those of the first
can be rendered. -/
def IsExpressible (tree : SpecTree) (world : World) : HandleUse → Prop
  | .call known arguments =>
      ∀ recorded, tree.argumentsAt known.ref.address = some recorded →
        (Action.renderAll recorded world).1.isReturned ∧
          (Action.renderAll arguments world).1.isReturned
  | _ => True

theorem perform_step (known : KnownNode) (name : String) (arguments : List Value) :
    (step known name arguments).perform =
      Session.step known (.text name) arguments >>= fun grown => pure (.handle grown) :=
  Session.callHolding_step known name arguments

/-- The use of a handle leaves the trees alone to which its node does not belong. -/
theorem spares_perform {use : HandleUse} (foreign : use.known.ref.tree ≠ place) :
    Session.Spares place use.perform := by
  cases use with
  | access known name =>
      rw [perform, Session.readMember]
      split
      · exact .pure _
      · split
        · exact .pure _
        · rw [MemberTrap.read]
          split
          · exact .act _
          · refine .bind (.bind (Session.spares_growMember foreign _) fun _ => .pure _) fun found => ?_
            cases found with
            | none => exact .act _
            | some member => exact .pure _
  | call known arguments => exact .bind (Session.spares_callHandle foreign _) fun _ => .pure _
  | step known name arguments =>
      rw [perform_step, Session.step, Session.growMember]
      simp only [bind_assoc, pure_bind]
      refine .bind (.treeAt _) fun _ => .bind (.act _) fun _ => .bind (.setTree foreign _) fun _ => ?_
      split
      · exact .pure _
      · refine .bind (.bind (Session.spares_callHandle ?_ _) fun _ => .pure _) fun _ => .pure _
        exact foreign

/-- Where there is no node, the use of a handle changes no tree. -/
theorem forest_perform_of_missing {use : HandleUse} (here : use.known.ref.tree = place)
    (planted : session.forest[place]? = some tree)
    (missing : tree.root.nodeAt? use.known.ref.address = none) :
    (use.perform session).2.forest = session.forest := by
  cases use with
  | access known name =>
      rw [perform, Session.readMember]
      split
      · rfl
      · split
        · rfl
        · rw [MemberTrap.read]
          split
          · rfl
          · obtain ⟨error, later, ungrown⟩ : ∃ error later,
                Session.growMember known (.text name) session =
                  (.raised error, session.withWorld later) :=
              Session.growMember_of_missing here planted missing (.text name)
            simp only [Effect.bind_apply, ungrown, Session.forest_withWorld]
  | call known arguments =>
      obtain ⟨error, later, uncalled⟩ : ∃ error later,
          Session.recordCall known.ref (.tuple arguments) session =
            (.raised error, session.withWorld later) :=
        Session.recordCall_of_missing here planted missing (.tuple arguments)
      rw [perform, Session.callHolding, Session.callHandle, Effect.bind_apply, uncalled]
      rfl
  | step known name arguments =>
      obtain ⟨error, later, ungrown⟩ : ∃ error later,
          Session.growMember known (.text name) session =
            (.raised error, session.withWorld later) :=
        Session.growMember_of_missing here planted missing (.text name)
      rw [perform_step, Session.step, bind_assoc, Effect.bind_apply, ungrown]
      rfl

/-- Naming a member whose name is trapped attaches a node. -/
theorem attaches_growMember {known : KnownNode} (here : known.ref.tree = place)
    (planted : session.forest[place]? = some tree) (worded : tree.IsWorded)
    (there : (tree.root.nodeAt? known.ref.address).isSome) (name : String) :
    Attaches place tree known name none
      ((Session.growMember known (.text name) >>= fun grown => pure (.handle grown)) session) := by
  obtain ⟨⟨index, address⟩, engine⟩ := known
  obtain rfl : index = place := here
  obtain ⟨world, grows⟩ :=
    Session.growMember_apply planted worded.complete there engine name
  rw [Effect.bind_apply, grows]
  have still : (session.withWorld world).forest[index]? = some tree := planted
  refine ⟨_, _, rfl, Session.forest_withTree still _,
    SpecTree.gainsChild_attach there (tree.memberNode engine address (.text name)), ?_, ?_⟩
  · exact SpecTree.memberNode_description tree engine address (.text name)
  · exact SpecTree.memberNode_arguments tree engine address (.text name)

/-- A step attaches a node, which has the arguments if there are any. -/
theorem attaches_step {known : KnownNode} (here : known.ref.tree = place)
    (planted : session.forest[place]? = some tree) (worded : tree.IsWorded)
    (there : (tree.root.nodeAt? known.ref.address).isSome) (name : String)
    (arguments : List Value) :
    Attaches place tree known name (if arguments.isEmpty then none else some arguments)
      ((step known name arguments).perform session) := by
  obtain ⟨⟨index, address⟩, engine⟩ := known
  obtain rfl : index = place := here
  obtain ⟨world, grows⟩ :=
    Session.growMember_apply planted worded.complete there engine name
  have still : (session.withWorld world).forest[index]? = some tree := planted
  have grown := Session.forest_withTree still (tree.next (.member engine address name))
  have gains := SpecTree.gainsChild_attach there (tree.memberNode engine address (.text name))
  have described := SpecTree.memberNode_description tree engine address (.text name)
  have uncalled := SpecTree.memberNode_arguments tree engine address (.text name)
  rw [perform_step, Session.step, bind_assoc, Effect.bind_apply, grows]
  dsimp only
  cases bare : arguments.isEmpty with
  | true => exact ⟨_, _, rfl, grown, gains, described, uncalled⟩
  | false =>
    have known := gains.nodes (address ++ [tree.root.childCount address])
    rw [if_pos rfl] at known
    have called := Session.recordCall_apply grown
      (gains.losses.trans worded.complete) known uncalled arguments
    simp only [Bool.false_eq_true, if_false, Session.callHandle, Effect.bind_apply, called,
      Effect.pure_apply]
    exact ⟨_, _, rfl, Session.forest_withTree grown _,
      gains.called (SpecTree.gainsArguments_setNode known arguments), described, rfl⟩

/-- A member that a handle has itself is read without an effect. -/
theorem perform_access_of_own {name : String}
    (own : name = Session.nodeMember ∨ name ∈ Session.handleMethods) (known : KnownNode)
    (session : Session) : ((access known name).perform session).2 = session := by
  rw [perform, Session.readMember]
  by_cases node : name = Session.nodeMember
  · rw [if_pos (by simpa using node)]
    rfl
  · rw [if_neg (by simpa using node), if_pos (by simpa using own.resolve_left node)]
    rfl

/-- Reading a reserved name is refused. -/
theorem refuses_reserved (known : KnownNode) {name : String} (other : name ≠ Session.nodeMember)
    (foreign : name ∉ Session.handleMethods) (reserved : MemberTrap.isReserved name)
    (session : Session) :
    Refuses (fun kind => kind.isIn .attribute) session
      ((access known name).perform session) := by
  rw [perform, Session.readMember_of_reserved known other foreign reserved, Session.act_apply]
  refine ⟨_, rfl, ?_, rfl⟩
  have kept := World.errorAt_newError
    { kind := (Fault.reservedName name).kind, arguments := (Fault.reservedName name).arguments,
      cause := none } session.world
  rw [Session.world_withWorld]
  exact (congrArg (fun cell => cell.kind.isIn .attribute) kept).trans rfl

/-- A first call records its arguments. -/
theorem perform_call_of_uncalled {known : KnownNode} (here : known.ref.tree = place)
    (planted : session.forest[place]? = some tree) (worded : tree.IsWorded)
    (there : (tree.root.nodeAt? known.ref.address).isSome)
    (uncalled : tree.argumentsAt known.ref.address = none) (arguments : List Value) :
    ((call known arguments).perform session).1 = .returned (.handle known) ∧
      ∃ later, ((call known arguments).perform session).2.forest[place]? = some later ∧
        tree.GainsArguments known.ref.address arguments later := by
  obtain ⟨⟨index, address⟩, engine⟩ := known
  obtain rfl : index = place := here
  obtain ⟨node, found⟩ := Option.isSome_iff_exists.mp there
  have unset : node.arguments = none := by
    rw [SpecTree.argumentsAt, found, Option.bind_some] at uncalled
    exact uncalled
  have recorded := Session.recordCall_apply planted worded.complete found unset arguments
  rw [perform, Session.callHolding, Session.callHandle, Effect.bind_apply, recorded]
  exact ⟨rfl, _, Session.forest_withTree planted _,
    SpecTree.gainsArguments_setNode found arguments⟩

/-- A second call fails and changes no tree. It is refused as such if the arguments of both calls
can be rendered. -/
theorem perform_call_of_called {known : KnownNode} (here : known.ref.tree = place)
    (planted : session.forest[place]? = some tree) (worded : tree.IsWorded) {node : ActionNode}
    (found : tree.root.nodeAt? known.ref.address = some node) {recorded : List Value}
    (called : node.arguments = some recorded) (arguments : List Value) :
    ∃ error later, (call known arguments).perform session =
        (.raised error, session.withWorld later) ∧
      ((later.errorAt error).kind =
          .invocation node.description (.tuple recorded) (.tuple arguments) ↔
        (Action.renderAll recorded session.world).1.isReturned ∧
          (Action.renderAll arguments session.world).1.isReturned) := by
  obtain ⟨⟨index, address⟩, engine⟩ := known
  obtain rfl : index = place := here
  obtain ⟨word, described⟩ := worded.described address node found
  obtain ⟨error, later, refused, told⟩ :=
    Session.recordCall_again planted worded.complete found called described arguments
  refine ⟨error, later, ?_, told⟩
  rw [perform, Session.callHolding, Session.callHandle, Effect.bind_apply, refused]

/-- The use of a handle keeps what is promised of it just if its refusal has words. -/
theorem keepsPromise_iff {use : HandleUse} (here : use.known.ref.tree = place)
    (planted : session.forest[place]? = some tree) (worded : tree.IsWorded)
    (there : (tree.root.nodeAt? use.known.ref.address).isSome) :
    use.KeepsPromise place tree session ↔ use.IsExpressible tree session.world := by
  cases use with
  | access known name =>
      refine iff_of_true (fun other foreign => ?_) trivial
      by_cases reserved : MemberTrap.isReserved name
      · rw [if_pos reserved]
        exact refuses_reserved known other foreign reserved session
      · rw [if_neg reserved, perform,
          Session.readMember_of_trapped known other foreign (Bool.eq_false_iff.mpr reserved)]
        exact attaches_growMember here planted worded there name
  | call known arguments =>
      have here : known.ref.tree = place := here
      rw [KeepsPromise, IsExpressible]
      cases earlier : tree.argumentsAt known.ref.address with
      | none =>
          refine iff_of_true ?_ fun recorded same => by cases same
          exact perform_call_of_uncalled here planted worded there earlier arguments
      | some recorded =>
          obtain ⟨node, found, called⟩ := Option.bind_eq_some_iff.mp earlier
          obtain ⟨error, later, refused, told⟩ :=
            perform_call_of_called here planted worded found called arguments
          constructor
          · rintro ⟨same, located, _, raised, kind, _⟩ other same'
            obtain rfl := Option.some.inj same'
            obtain rfl := Option.some.inj (found.symm.trans located)
            rw [refused] at raised kind
            cases raised
            exact told.mp kind
          · intro expressible
            refine ⟨node, found, ?_⟩
            rw [refused]
            exact ⟨error, rfl, told.mpr (expressible recorded rfl), rfl⟩
  | step known name arguments =>
      exact iff_of_true (attaches_step here planted worded there name arguments) trivial

/-- A use of a handle changes no tree, or it returns and the tree of its node has grown. -/
theorem perform_changes {use : HandleUse} (here : use.known.ref.tree = place)
    (planted : session.forest[place]? = some tree) (worded : tree.IsWorded) :
    (use.perform session).2.forest = session.forest ∨
      (use.perform session).1.isReturned ∧
        ∃ later, (use.perform session).2.forest[place]? = some later ∧
          tree.GrowsTo place later ∧ later.IsWorded := by
  have attached {known : KnownNode} {name : String} {arguments : Option (List Value)}
      {ended : Outcome Holding × Session}
      (attaches : Attaches place tree known name arguments ended) :
      ended.1.isReturned ∧ ∃ later, ended.2.forest[place]? = some later ∧
        tree.GrowsTo place later ∧ later.IsWorded := by
    obtain ⟨node, later, returned, kept, gains, described, _⟩ := attaches
    exact ⟨by rw [returned]; rfl, later, kept, gains.growsTo worded.complete place,
      worded.gainsChild gains described⟩
  cases found : tree.root.nodeAt? use.known.ref.address with
  | none => exact .inl (forest_perform_of_missing here planted found)
  | some node =>
      have there : (tree.root.nodeAt? use.known.ref.address).isSome := by rw [found]; rfl
      cases use with
      | access known name =>
          by_cases own : name = Session.nodeMember ∨ name ∈ Session.handleMethods
          · exact .inl (by rw [perform_access_of_own own])
          · obtain ⟨other, foreign⟩ := not_or.mp own
            by_cases reserved : MemberTrap.isReserved name
            · obtain ⟨_, _, _, same⟩ := refuses_reserved known other foreign reserved session
              exact .inl same
            · rw [perform,
                Session.readMember_of_trapped known other foreign (Bool.eq_false_iff.mpr reserved)]
              exact .inr (attached (attaches_growMember here planted worded there name))
      | call known arguments =>
          have here : known.ref.tree = place := here
          cases earlier : tree.argumentsAt known.ref.address with
          | none =>
              obtain ⟨returned, later, kept, gains⟩ :=
                perform_call_of_uncalled here planted worded there earlier arguments
              exact .inr ⟨by rw [returned]; rfl, later, kept,
                gains.growsTo earlier worded.complete place, worded.gainsArguments gains⟩
          | some recorded =>
              obtain ⟨other, located, called⟩ := Option.bind_eq_some_iff.mp earlier
              obtain ⟨error, later, refused, _⟩ :=
                perform_call_of_called here planted worded located called arguments
              exact .inl (by rw [refused]; rfl)
      | step known name arguments =>
          exact .inr (attached (attaches_step here planted worded there name arguments))

/-- A use of any handle lets a tree grow. -/
theorem perform_grows (planted : session.forest[place]? = some tree) (worded : tree.IsWorded)
    (use : HandleUse) :
    ∃ later, (use.perform session).2.forest[place]? = some later ∧
      tree.GrowsTo place later ∧ later.IsWorded := by
  by_cases here : use.known.ref.tree = place
  · rcases perform_changes here planted worded with same | ⟨_, later, kept, grows, still⟩
    · exact ⟨tree, by rw [same, planted], .refl tree place, worded⟩
    · exact ⟨later, kept, grows, still⟩
  · exact ⟨tree, (spares_perform here session).trans planted, .refl tree place, worded⟩

/-- Uses of handles let a tree grow. -/
theorem performAll_grows (planted : session.forest[place]? = some tree) (worded : tree.IsWorded)
    (uses : List HandleUse) :
    ∃ later, (performAll uses session).forest[place]? = some later ∧
      tree.GrowsTo place later ∧ later.IsWorded := by
  induction uses generalizing session tree with
  | nil => exact ⟨tree, planted, .refl tree place, worded⟩
  | cons use rest ih =>
      obtain ⟨middle, kept, first, still⟩ := perform_grows planted worded use
      obtain ⟨later, found, second, worded⟩ := ih kept still
      exact ⟨later, found, first.trans second, worded⟩

/-- What handles in use come to for the tree at a place, once some were used: it is linked as a
tree, it has its listeners, and it goes on growing. What is used next either belongs to another
tree, or attaches one child, records the arguments of a first call, or is refused. That it keeps
this promise comes down to the words of a refusal, and without them it changes no tree all the
same. -/
def Uphold (place : Nat) (listeners : Listeners) (uses : List HandleUse) (session : Session) :
    Prop :=
  ∃ tree, (performAll uses session).forest[place]? = some tree ∧
    tree.IsLinked place ∧ tree.listeners = listeners ∧
    (∀ further, ∃ later, (performAll (uses ++ further) session).forest[place]? = some later ∧
      tree.GrowsTo place later) ∧
    ∀ use : HandleUse,
      let after := performAll uses session
      (use.known.ref.tree ≠ place → (use.perform after).2.forest[place]? = some tree) ∧
      (use.known.ref.tree = place → (tree.root.nodeAt? use.known.ref.address).isSome →
        (use.KeepsPromise place tree after ↔ use.IsExpressible tree after.world) ∧
        ((use.perform after).1.isReturned = false →
          (use.perform after).2.forest = after.forest))

/-- The tree of a subject stays linked as a tree and only grows, whatever handles are used, and
every use of one of its handles keeps what is promised of it, but for the refusal of a second
call where the arguments of one of the calls cannot be rendered. -/
theorem uphold_of_subject {description : String} {factory : Action Value} {listeners : Listeners}
    (planted : session.forest[place]? =
      some { SpecTree.subject description factory with listeners })
    (uses : List HandleUse) : Uphold place listeners uses session := by
  obtain ⟨tree, kept, grows, worded⟩ :=
    performAll_grows planted (SpecTree.isWorded_subject description factory listeners) uses
  refine ⟨tree, kept, SpecTree.isLinked worded.complete worded.isGroup place, grows.listeners,
    fun further => ?_, fun use => ⟨fun foreign => ?_, fun here there => ⟨?_, fun failed => ?_⟩⟩⟩
  · obtain ⟨later, found, onward, _⟩ := performAll_grows kept worded further
    rw [performAll, List.foldl_append]
    exact ⟨later, found, onward⟩
  · exact (spares_perform foreign _).trans kept
  · exact keepsPromise_iff here kept worded there
  · rcases perform_changes here kept worded with same | ⟨returned, _⟩
    · exact same
    · rw [failed] at returned
      cases returned

end HandleUse

/-- A session with a subject, in a world with an object that displays no text. -/
def Session.counting : Session where
  rig :=
    { bench.world.objects := #[{ className := "Tricky", fields := [], texts := [], shown := [],
                                 misfit := some "int" }] }
  forest := #[SpecTree.subject "count" (pure (.integer 3))]

namespace HandleUse

/-- A member of the subject that was named and called. -/
def added : KnownNode := ⟨⟨0, [0]⟩, .standard⟩

/-- The member is named at the handle of the subject and called. -/
def addOne : List HandleUse :=
  [.access ⟨⟨0, []⟩, .standard⟩ "add", .call added [.integer 1]]

/-- Naming a member and calling it twice. -/
theorem uphold_of_counting :
    Session.counting.forest[0]? = some { SpecTree.subject "count" (pure (.integer 3)) with
      listeners := {} } ∧
    Uphold 0 {} (addOne ++ [.call added [.integer 2]]) Session.counting :=
  ⟨rfl, uphold_of_subject rfl _⟩

/-- A second call with an argument that displays no text does not raise the error that refuses
it. -/
theorem not_keepsPromise_of_unwritable :
    let after := performAll addOne Session.counting
    ∃ tree, after.forest[0]? = some tree ∧ (tree.root.nodeAt? added.ref.address).isSome ∧
      ¬ (call added [.object ⟨0⟩]).KeepsPromise 0 tree after := by
  intro after
  have planted : Session.counting.forest[0]? = some { SpecTree.subject "count" (pure (.integer 3))
    with listeners := {} } := rfl
  obtain ⟨tree, kept, _, worded⟩ := performAll_grows planted (SpecTree.isWorded_subject _ _ _) addOne
  have called : (after.forest[0]?.bind fun tree => tree.argumentsAt [0]).isSome := by
    decide +kernel
  have unshown : (Action.renderAll [.object ⟨0⟩] after.world).1.isReturned = false := by
    decide +kernel
  rw [kept, Option.bind_some] at called
  obtain ⟨recorded, earlier⟩ := Option.isSome_iff_exists.mp called
  obtain ⟨node, found, _⟩ := Option.bind_eq_some_iff.mp earlier
  have there : (tree.root.nodeAt? (call added [.object ⟨0⟩]).known.ref.address).isSome := by
    rw [show (call added [.object ⟨0⟩]).known.ref.address = [0] from rfl, found]
    rfl
  refine ⟨tree, kept, there, fun keeps => ?_⟩
  have expressible : (call added [.object ⟨0⟩]).IsExpressible tree after.world :=
    (keepsPromise_iff rfl kept worded there).mp keeps
  rw [(expressible recorded earlier).2] at unshown
  cases unshown

end HandleUse

end DeferredSpec
