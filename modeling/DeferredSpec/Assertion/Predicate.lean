/-
# Call predicates

What each predicate finds out about a subject, given its arguments. The subject is
rendered first, then the question is decided, then the sentences are composed; an
error in any of these leaves the predicate as it is.
-/

import DeferredSpec.Member.Invoke

namespace DeferredSpec

namespace CallPredicate

variable [ObjectModel]

/-- A finding about the subject itself. -/
def about (predicate : CallPredicate) (subject expected : Value) (holds : Bool)
    (message negatedMessage : String) : Finding :=
  ⟨holds, message, negatedMessage, expected, subject, predicate.name⟩

/-- A comparison with a bound: how it is decided, and how the two sentences go on. -/
def comparison? : CallPredicate → Option (OrderTest × String × String)
  | .above => some (.above, " to be above ", " to be at most ")
  | .below => some (.below, " to be below ", " to be at least ")
  | .least => some (.atLeast, " to be at least ", " to be below ")
  | .most => some (.atMost, " to be at most ", " to be above ")
  | _ => none

/-- Compare a subject with a bound. -/
def examineBound (predicate : CallPredicate) (test : OrderTest) (holding failing : String)
    (subject bound : Value) : Action Finding := do
  let rendered ← Action.render subject
  let holds ← subject.compare test bound
  let limit ← Action.render bound
  pure (predicate.about subject bound holds ("expected " ++ rendered ++ holding ++ limit)
    ("expected " ++ rendered ++ failing ++ limit))

/-- Equality with a value. -/
def examineEqual (subject expected : Value) : Action Finding := do
  let rendered ← Action.render subject
  let holds ← subject.isEqual expected
  let other ← Action.render expected
  pure (equal.about subject expected holds ("expected " ++ rendered ++ " to equal " ++ other)
    ("expected " ++ rendered ++ " not to equal " ++ other))

/-- Lying between two bounds; the lower one is asked first. -/
def examineWithin (subject low high : Value) : Action Finding := do
  let rendered ← Action.render subject
  let from_ ← Action.render low
  let upTo ← Action.render high
  let span := from_ ++ ".." ++ upTo
  let above ← low.compare .atMost subject
  let holds ← if above then subject.compare .atMost high else pure false
  let expected ← Action.newList [low, high]
  pure (within.about subject expected holds ("expected " ++ rendered ++ " to be within " ++ span)
    ("expected " ++ rendered ++ " not to be within " ++ span))

/-- Holding a member. -/
def examineIncludes (subject member : Value) : Action Finding := do
  let rendered ← Action.render subject
  let holds ← subject.contains member
  let part ← Action.render member
  pure (includes.about subject member holds ("expected " ++ rendered ++ " to include " ++ part)
    ("expected " ++ rendered ++ " not to include " ++ part))

/-- Being of a type with a given name, in any case of letters. -/
def examineTypeNamed (subject typeName : Value) : Action Finding := do
  let actual ← Action.typeName subject
  let rendered ← Action.render subject
  let lowered ← CaseForm.smalls.apply typeName
  let holds ← (Value.text (LetterCase.smalls actual)).isEqual lowered
  let shown ← Action.plain typeName
  pure ⟨holds, "expected " ++ rendered ++ " to be a " ++ shown,
    "expected " ++ rendered ++ " not to be a " ++ shown, typeName, .text actual, typeNamed.name⟩

/-- Being an instance of a class, which must have a name. -/
def examineInstanceOf (subject classes : Value) : Action Finding := do
  let rendered ← Action.render subject
  let holds ← subject.isInstance classes
  match classes with
  | .type tag => do
      let actual ← Action.typeName subject
      pure ⟨holds, "expected " ++ rendered ++ " to be an instance of " ++ tag.name,
        "expected " ++ rendered ++ " not to be an instance of " ++ tag.name,
        .text tag.name, .text actual, instanceOf.name⟩
  | classes => do
      let kind ← Action.typeName classes
      Action.fail (.noAttribute kind "__name__")

/-- Having a given length. -/
def examineLengthOf (subject length : Value) : Action Finding := do
  let rendered ← Action.render subject
  let actual ← subject.length
  let holds ← (Value.integer actual).isEqual length
  let shown ← Action.plain length
  pure ⟨holds,
    "expected " ++ rendered ++ " to have a length of " ++ shown ++ " but got " ++ toString actual,
    "expected " ++ rendered ++ " not to have a length of " ++ shown,
    length, .integer actual, lengthOf.name⟩

/-- The pattern that a value denotes. -/
def patternOf (pattern : Value) : Action Pattern :=
  match pattern with
  | .text source =>
      match Pattern.ofText source with
      | .ok pattern => pure pattern
      | .error fault => Action.fail (.badPattern fault)
  | .bytes _ => Action.fail .patternOfBytes
  | pattern => do
      let snapshot ← Action.view pattern
      match snapshot.unhashable? with
      | some kind => Action.fail (.unhashable kind)
      | none => Action.fail .patternNotText

/-- Having a plain text in which a pattern occurs. -/
def examineMatches (subject pattern : Value) : Action Finding := do
  let rendered ← Action.render subject
  let text ← Action.plain subject
  let compiled ← patternOf pattern
  let shown ← Action.display pattern
  pure (matches.about subject pattern (compiled.occursIn text)
    ("expected " ++ rendered ++ " to match " ++ shown)
    ("expected " ++ rendered ++ " not to match " ++ shown))

/-- The name by which a predicate is reported. -/
def reportedName (predicate : Value) : String :=
  match predicate with
  | .predicate _ name => (ObjectModel.knownName? name).getD "predicate"
  | .type tag => tag.name
  | .method _ name => name
  | _ => "predicate"

/-- Satisfying a predicate. -/
def examineSatisfy (subject predicate : Value) : Action Finding := do
  let rendered ← Action.render subject
  let name := reportedName predicate
  let answer ← Value.callAsPredicate predicate [subject]
  let holds ← answer.truth
  pure (satisfy.about subject (.text name) holds
    ("expected " ++ rendered ++ " to satisfy " ++ name)
    ("expected " ++ rendered ++ " not to satisfy " ++ name))

/-- Whether a member is there, and the member; null stands for a missing one. A
table is asked for a key; anything else is read twice, once for each answer. -/
def lookUp (subject name : Value) : Action (Bool × Value) :=
  match subject with
  | .table ref => do
      let there ← subject.contains name
      let found ← Effect.read fun world => (world.tableAt ref).find? fun entry =>
        (world.view name).equals true (world.view entry.1)
      pure (there, (found.map Prod.snd).getD .null)
  | subject =>
      match name with
      | .text name => do
          let first ← subject.member? name
          let second ← subject.member? name
          pure (first.isSome, second.getD .null)
      | name => do
          let kind ← Action.typeName name
          Action.fail (.attributeNameNotText kind)

/-- Having a member, and with a further argument one equal to it. Also returns the
member. -/
def examineProperty (subject name : Value) (rest : List Value) : Action (Finding × Value) := do
  let rendered ← Action.render subject
  let (there, member) ← lookUp subject name
  match rest with
  | value :: _ => do
      let holds ← if there then member.isEqual value else pure false
      let shown ← Action.display name
      let other ← Action.render value
      pure (⟨holds, "expected " ++ rendered ++ " to have property " ++ shown ++ " of " ++ other,
        "expected " ++ rendered ++ " not to have property " ++ shown ++ " of " ++ other,
        value, member, property.name⟩, member)
  | [] => do
      let shown ← Action.display name
      pure (⟨there, "expected " ++ rendered ++ " to have property " ++ shown,
        "expected " ++ rendered ++ " not to have property " ++ shown,
        name, if there then name else .null, property.name⟩, member)

/-- Examine a subject with checked arguments. -/
def examine (predicate : CallPredicate) (subject : Value) (arguments : List Value) :
    Action Finding :=
  match predicate, arguments with
  | .equal, [expected] => examineEqual subject expected
  | .within, [low, high] => examineWithin subject low high
  | .includes, [member] => examineIncludes subject member
  | .typeNamed, [typeName] => examineTypeNamed subject typeName
  | .instanceOf, [classes] => examineInstanceOf subject classes
  | .lengthOf, [length] => examineLengthOf subject length
  | .matches, [pattern] => examineMatches subject pattern
  | .satisfy, [predicate] => examineSatisfy subject predicate
  | .property, name :: rest => do
      let found ← examineProperty subject name rest
      pure found.1
  | predicate, arguments =>
      match predicate.comparison?, arguments with
      | some (test, holding, failing), [bound] =>
          examineBound predicate test holding failing subject bound
      | _, _ => Action.fail (.missingArguments predicate.signature.function predicate.required)

/-- Call a predicate of a context: the context itself goes on, except behind
`property`, where a new context over the member does. -/
def call (predicate : CallPredicate) (self subject : Value) (negated : Bool)
    (arguments : List Value) : Action Value := do
  predicate.signature.check arguments
  match predicate, arguments with
  | .property, name :: rest => do
      let (finding, member) ← examineProperty subject name rest
      finding.settle negated
      let fresh ← Effect.update World.newIdentity
      pure (.assertion fresh member false)
  | predicate, arguments => do
      let finding ← predicate.examine subject arguments
      finding.settle negated
      pure self

end CallPredicate

namespace Value

variable [ObjectModel]

/-- Call a method of an assertion context. -/
def callContext (self subject : Value) (negated : Bool) (name : String)
    (arguments : List Value) : Action Value :=
  match ChainWord.predicate? name with
  | some asked => asked.call self subject negated arguments
  | none => missing self name

/-- Call a value. -/
def call (function : Value) (arguments : List Value) : Action Value :=
  callWith callContext function arguments

end Value

end DeferredSpec
