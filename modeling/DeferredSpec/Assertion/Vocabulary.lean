/-
# The words of an assertion chain

Words that only make a chain readable, the word that turns its polarity, the way
back to the subject, and the predicates with their other names. Every other word
is missing from assertion contexts.
-/

import DeferredSpec.Assertion.Finding

namespace DeferredSpec

/-- A predicate that is examined when it is called. -/
inductive CallPredicate
  | equal
  | above
  | below
  | least
  | most
  | within
  | includes
  | typeNamed
  | instanceOf
  | lengthOf
  | matches
  | satisfy
  | property
  deriving DecidableEq, Repr

namespace CallPredicate

/-- The name of a predicate, under which it reports. -/
def name : CallPredicate → String
  | .equal => "equal"
  | .above => "above"
  | .below => "below"
  | .least => "least"
  | .most => "most"
  | .within => "within"
  | .includes => "include"
  | .typeNamed => "a"
  | .instanceOf => "instance_of"
  | .lengthOf => "length_of"
  | .matches => "match"
  | .satisfy => "satisfy"
  | .property => "property"

/-- The names of the arguments that a predicate needs. -/
def required : CallPredicate → List String
  | .equal => ["expected"]
  | .above => ["bound"]
  | .below => ["bound"]
  | .least => ["bound"]
  | .most => ["bound"]
  | .within => ["low", "high"]
  | .includes => ["member"]
  | .typeNamed => ["type_name"]
  | .instanceOf => ["cls"]
  | .lengthOf => ["length"]
  | .matches => ["pattern"]
  | .satisfy => ["predicate"]
  | .property => ["name"]

/-- The arguments of a predicate; only `property` takes further ones. -/
def signature (predicate : CallPredicate) : Signature where
  function := "Assertion." ++ predicate.name
  required := predicate.required
  unlimited := predicate == .property

end CallPredicate

/-- What a word of a chain does. -/
inductive ChainWord
  | link
  | negation
  | subject
  | examined (predicate : PropertyPredicate)
  | called (predicate : CallPredicate)
  deriving DecidableEq, Repr

namespace ChainWord

/-- The words without effect. -/
def links : List String :=
  ["to", "be", "been", "is_", "that", "which", "and_", "has", "have", "with_", "at", "of",
    "same", "does"]

/-- The words with an effect. -/
def words : List (String × ChainWord) :=
  [("not_", .negation), ("subject", .subject),
    ("ok", .examined .ok), ("true", .examined .isTrue), ("false", .examined .isFalse),
    ("none", .examined .isNull), ("empty", .examined .empty),
    ("equal", .called .equal), ("eql", .called .equal), ("equals", .called .equal),
    ("above", .called .above), ("below", .called .below), ("least", .called .least),
    ("most", .called .most), ("within", .called .within),
    ("include", .called .includes), ("contain", .called .includes),
    ("a", .called .typeNamed), ("an", .called .typeNamed),
    ("instance_of", .called .instanceOf), ("length_of", .called .lengthOf),
    ("match", .called .matches), ("satisfy", .called .satisfy), ("property", .called .property)]

/-- What a word does, if it is one of the chain's words. -/
def ofName? (name : String) : Option ChainWord :=
  if links.contains name then some .link else words.lookup name

/-- The call predicate that a method of a context stands for. -/
def predicate? (name : String) : Option CallPredicate :=
  match ofName? name with
  | some (.called predicate) => some predicate
  | _ => none

end ChainWord

end DeferredSpec
