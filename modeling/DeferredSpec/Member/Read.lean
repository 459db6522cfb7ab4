/-
# Reading members

What a member of a value is when it is read. Numbers, texts and containers have a
few members; objects have fields, computed members and methods; errors have their
details; assertion contexts have the words of the chain. Everything else is
missing, and so is every name that begins with an underscore.
-/

import DeferredSpec.Assertion.Vocabulary
import DeferredSpec.Member.Error
import DeferredSpec.Member.Plain

namespace DeferredSpec

namespace Value

variable [ObjectModel]

/-- Fail because a member is missing. -/
def missing (self : Value) (name : String) : Action Value :=
  match self with
  | .type tag => Action.fail (.noTypeAttribute tag.name name)
  | self => do
      let kind ← Action.typeName self
      Action.fail (.noAttribute kind name)

/-- Read a member of an object: a field, a computed member or a method. -/
def objectMember (ref : ObjectRef) (name : String) : Action Value := do
  let cell ← Effect.read fun world => world.objectAt ref
  match cell.field? name with
  | some value => pure value
  | none =>
      match ObjectModel.property? cell.className name with
      | some compute => compute ref
      | none =>
          match ObjectModel.method? cell.className name with
          | some _ => pure (.method (.object ref) name)
          | none => missing (.object ref) name

/-- Read a word of an assertion context. -/
def contextMember (identity : Nat) (subject : Value) (negated : Bool) (name : String) :
    Action Value :=
  let self : Value := .assertion identity subject negated
  match ChainWord.ofName? name with
  | some .link => pure self
  | some .negation => do
      let fresh ← Effect.update World.newIdentity
      pure (.assertion fresh subject (!negated))
  | some .subject => pure subject
  | some (.examined asked) => do
      let finding ← asked.examine subject
      finding.settle negated
      pure self
  | some (.called asked) => pure (.method self asked.name)
  | none => missing self name

/-- Read a member of a value. -/
def member (self : Value) (name : String) : Action Value :=
  if name.startsWith "_" then missing self name
  else
    match self with
    | .object ref => objectMember ref name
    | .assertion identity subject negated => contextMember identity subject negated name
    | .error ref => do
        match ← Effect.read fun world => ref.member? world name with
        | some value => pure value
        | none => missing self name
    | self =>
        match plainMember? self name with
        | some value => pure value
        | none => missing self name

/-- Read a member whose name is given as a value, which must be a text. -/
def memberNamed (self name : Value) : Action Value :=
  match name with
  | .text name => self.member name
  | name => do
      let kind ← Action.typeName name
      Action.fail (.attributeNameNotText kind)

/-- Read a member, or find out that it is missing: any error of the attribute
family counts as missing. -/
def member? (self : Value) (name : String) : Action (Option Value) := do
  let outcome ← (self.member name).attempt
  match outcome with
  | .returned value => pure (some value)
  | .raised failure => do
      let cell ← Effect.read fun world => world.errorAt failure
      if cell.kind.isIn .attribute then pure none else Effect.raise failure

end Value

end DeferredSpec
