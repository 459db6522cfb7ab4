/-
# Chains of a session

Naming members and calling, one after another, beginning with the handle of a
known node. A handle has three members of its own: the node it stands for, the
naming of a member whatever its name, and the same with a call. Every other name
is trapped. The parts of a node can be read as well, and so can the members of the
values among them.
-/

import DeferredSpec.Session.State

namespace DeferredSpec

/-- What a chain has come to: a handle, a bare node, a method of either, a part of a node
that is no value, or a value. -/
inductive Holding
  | handle (known : KnownNode)
  | handleMethod (known : KnownNode) (name : String)
  | node (ref : NodeRef)
  | nodeMethod (ref : NodeRef) (name : String)
  | step (ref : NodeRef)
  | variant (variant : Variant)
  | children (ref : NodeRef)
  | listeners (ref : NodeRef)
  | value (value : Value)

/-- A link of a chain: a name, and the arguments of the call behind it, if any. -/
structure ChainLink where
  name : String
  arguments : Option (List Literal) := none

namespace Variant

/-- The name of a variant as a constant. -/
def constant (variant : Variant) : String := LetterCase.capitals variant.word

/-- The type name of variants. -/
def typeName : String := "ActionVariant"

/-- The displayed text of a variant. -/
def displayed (variant : Variant) : String :=
  "<" ++ typeName ++ "." ++ variant.constant ++ ": '" ++ variant.word ++ "'>"

end Variant

namespace Session

variable [ObjectModel]

/-- The type name of handles. -/
def handleType : String := "ActionHandle"

/-- The type name of nodes. -/
def nodeType : String := "ActionNode"

/-- The type name of the listeners that nodes share. -/
def listenersType : String := "ActionHooks"

/-- The methods that handles have themselves. -/
def handleMethods : List String := ["step", "resolve_member"]

/-- The member that is the node behind a handle. -/
def nodeMember : String := "_node"

/-- Name a member at a handle, whatever its name: a node is added. -/
def growMember (known : KnownNode) (name : Value) : Effect Session KnownNode := do
  let (tree, _) ← treeAt known.ref
  let (address, grown) ← act (tree.resolveMember known.engine known.ref.address name)
  setTree known.ref.tree grown
  pure { known with ref := ⟨known.ref.tree, address⟩ }

/-- Record the arguments of the call of a node, which are what a value holds. -/
def recordCall (ref : NodeRef) (attempted : Value) : Effect Session Unit := do
  let (tree, _) ← treeAt ref
  let called ← act (tree.recordCall ref.address attempted)
  setTree ref.tree called

/-- Call a handle: the arguments are recorded on its node. -/
def callHandle (known : KnownNode) (arguments : List Value) : Effect Session Unit :=
  recordCall known.ref (.tuple arguments)

/-- Name a member and, where there are arguments, call it. -/
def step (known : KnownNode) (name : Value) (arguments : List Value) :
    Effect Session KnownNode := do
  let grown ← growMember known name
  if arguments.isEmpty then pure grown
  else do
    callHandle grown arguments
    pure grown

/-- Hold a part of a node, or nothing if the node has lost it. -/
def unlessLost (tree : SpecTree) (address : Address) (part : NodePart) (holding : Holding) :
    Holding :=
  if tree.lacks address part then .value .null else holding

/-- The node above a node, or nothing above a root. -/
def parentOf (tree : SpecTree) (ref : NodeRef) : Holding :=
  if tree.top ref.address = ref.address then .value .null
  else .node ⟨ref.tree, ref.address.dropLast⟩

/-- Read a part of a node. -/
def readNode (ref : NodeRef) (name : String) : Effect Session Holding := do
  let (tree, below) ← treeAt ref
  let unlessLost := unlessLost tree ref.address
  match name with
  | "label" => do
      let label ← act below.here.label
      pure (.value label)
  | "description" => pure (.value below.here.description)
  | "is_root" => pure (.value (.boolean (tree.top ref.address == ref.address)))
  | "invoked" => pure (.value (.boolean below.here.isInvoked))
  | "invocation_args" => pure (.value ((below.here.arguments.map Value.tuple).getD .null))
  | "parent" => pure (parentOf tree ref)
  | "_parent" => pure (parentOf tree ref)
  | "variant" => pure (unlessLost .variant (.variant below.here.variant))
  | "_variant" => pure (unlessLost .variant (.variant below.here.variant))
  | "children" => pure (unlessLost .children (.children ref))
  | "hooks" => pure (unlessLost .hooks (.listeners ref))
  | "step" => pure (unlessLost .step (.step ref))
  | "is_descendant_of" => pure (unlessLost .ancestry (.nodeMethod ref name))
  | "record_invocation" => pure (unlessLost .recording (.nodeMethod ref name))
  | name =>
      if tree.lacks ref.address (.other name) then pure (.value .null)
      else act (Action.fail (.noAttribute nodeType name))

/-- Read a member of the listeners that a node shares: those told before and after. -/
def readListeners (ref : NodeRef) (name : String) : Effect Session Holding := do
  let (tree, _) ← treeAt ref
  let listeners (count : Nat) : Effect Session Holding := do
    let told ← act (Action.newList (List.replicate count .code))
    pure (.value told)
  match name with
  | "before" => listeners tree.listeners.before.length
  | "after" => listeners tree.listeners.after.length
  | name => act (Action.fail (.noAttribute listenersType name))

/-- Read a member of what a chain has come to. -/
def readMember (holding : Holding) (name : String) : Effect Session Holding :=
  match holding with
  | .handle known =>
      if name == nodeMember then pure (.node known.ref)
      else if handleMethods.contains name then pure (.handleMethod known name)
      else
        MemberTrap.read (fun fault => act (Action.fail fault)) handleType name fun name => do
          let grown ← growMember known (.text name)
          pure (some (.handle grown))
  | .node ref => readNode ref name
  | .listeners ref => readListeners ref name
  | .variant variant =>
      match name with
      | "value" => pure (.value (.text variant.word))
      | "name" => pure (.value (.text variant.constant))
      | name => act (Action.fail (.noAttribute Variant.typeName name))
  | .value value => do
      let member ← act (value.member name)
      pure (.value member)
  | .handleMethod _ _ => act (Action.fail (.noAttribute "method" name))
  | .nodeMethod _ _ => act (Action.fail (.noAttribute "method" name))
  | .step _ => act (Action.fail (.noAttribute "function" name))
  | .children _ => act (Action.fail (.noAttribute "list" name))

/-- The arguments of a handle's own methods. -/
def handleSignature (name : String) : Signature where
  function := handleType ++ "." ++ name
  required := ["name"]
  unlimited := name == "step"

/-- The arguments of a node's own methods. -/
def nodeSignature (name : String) : Signature where
  function := nodeType ++ "." ++ name
  required := if name == "record_invocation" then ["args"] else []
  unlimited := name == "is_descendant_of"

/-- Whether one of several descriptions, nearest first, is among some values. -/
def anyAmong (values : List Value) : List Value → Action Bool
  | [] => pure false
  | description :: others => do
      let found ← (Value.tuple values).contains description
      if found then pure true else anyAmong values others

/-- Call a method of a node. -/
def callNode (ref : NodeRef) (name : String) (arguments : List Value) :
    Effect Session Holding := do
  act ((nodeSignature name).check arguments)
  if name == "record_invocation" then do
    recordCall ref (arguments.headD .null)
    pure (.value .null)
  else do
    let (tree, _) ← treeAt ref
    let descriptions := (tree.trail ref.address).reverse.map fun entry => entry.2.description
    let found ← act (anyAmong arguments descriptions)
    pure (.value (.boolean found))

/-- Call what a chain has come to. -/
def callHolding (holding : Holding) (arguments : List Value) : Effect Session Holding :=
  match holding with
  | .handle known => do
      callHandle known arguments
      pure (.handle known)
  | .handleMethod known method => do
      act ((handleSignature method).check arguments)
      let grown ← step known (arguments.headD .null) arguments.tail
      pure (.handle grown)
  | .nodeMethod ref method => callNode ref method arguments
  | .step ref => do
      let (_, below) ← treeAt ref
      let result ← act (below.here.step below.here.arguments (arguments.headD .null))
      pure (.value result)
  | .value value => do
      let result ← act (value.call arguments)
      pure (.value result)
  | .node _ => act (Action.fail (.notCallable nodeType))
  | .listeners _ => act (Action.fail (.notCallable listenersType))
  | .variant _ => act (Action.fail (.notCallable Variant.typeName))
  | .children _ => act (Action.fail (.notCallable "list"))

/-- Follow one link. -/
def followLink (holding : Holding) (link : ChainLink) : Effect Session Holding := do
  let member ← readMember holding link.name
  match link.arguments with
  | none => pure member
  | some literals => do
      let arguments ← act (Literal.buildAll literals)
      callHolding member arguments

/-- Follow several links. -/
def followLinks (holding : Holding) : List ChainLink → Effect Session Holding
  | [] => pure holding
  | link :: links => do
      let next ← followLink holding link
      followLinks next links

/-- The answer that tells a value. -/
def tell (value : Value) : Effect Session Answer := do
  let shown ← act (Action.tell value)
  pure (.value shown)

/-- The displayed texts of the children of a node. -/
def childTexts (ref : NodeRef) : Effect Session (List String) := do
  let (tree, below) ← treeAt ref
  act (Effect.collect
    (fun child => tree.nodeText (ref.address ++ [child.2]) child.1) below.children.zipIdx)

/-- Tell what a chain has come to; a handle's node becomes known. -/
def present (holding : Holding) : Effect Session Answer :=
  match holding with
  | .handle known => introduce known
  | .node ref => info ref
  | .value value => tell value
  | .handleMethod _ _ => tell .code
  | .nodeMethod _ _ => tell .code
  | .step _ => tell .code
  | .variant variant => pure (.value (.emblem Variant.typeName variant.displayed))
  | .listeners _ => pure (.value (.emblem listenersType ("<" ++ listenersType ++ " object>")))
  | .children ref => do
      let texts ← childTexts ref
      pure (.values (texts.map (Snapshot.emblem nodeType)))

end Session

end DeferredSpec
