/-
# Members of errors

An error shows the details of its sort, and what it was built from. The errors of the
host show what they were told about a file, a place in a source, a part of a text or
the errors of a group; a detail that was not given is null. A failed expectation can
be asked for a copy in its final wording.
-/

import DeferredSpec.Member.Object
import DeferredSpec.World.HostError
import DeferredSpec.World.SpecError

namespace DeferredSpec

namespace ErrorCell

/-- What a list has at a place; nothing stands for a missing member. -/
def given (values : List Value) (place : Nat) : Value := (values[place]?).getD .null

/-- A position or an amount as a plain integer. -/
def whole (world : World) (value : Value) : Value :=
  match (world.view value).asInteger? with
  | some number => .integer number
  | none => value

/-- Two to five arguments are the number, the reason and the files of a system error. A
third argument that is a number tells how much was done before the operation would have
blocked. -/
def systemDetails (world : World) (className : String) (cell : ErrorCell) :
    List (String × Value) :=
  let count := cell.arguments.length
  let told := if 2 ≤ count && count ≤ 5 then cell.arguments else []
  let amount :=
    match className, told with
    | "BlockingIOError", _ :: _ :: amount :: _ =>
        if HostError.isNumber amount then [("characters_written", whole world amount)] else []
    | _, _ => []
  [("errno", given told 0), ("strerror", given told 1), ("filename", given cell.details 0),
    ("filename2", given cell.details 1)] ++ amount

/-- The parts of the place that a source error was given. -/
def sourceDetails (world : World) (cell : ErrorCell) : List (String × Value) :=
  let place :=
    match cell.arguments with
    | [_, place] => (place.members? world).getD []
    | _ => []
  [("msg", given cell.arguments 0), ("filename", given place 0), ("lineno", given place 1),
    ("offset", given place 2), ("text", given place 3), ("end_lineno", given place 4),
    ("end_offset", given place 5), ("print_file_and_line", .null)]

/-- The parts of an error about a text and its bytes: the names of the parts go with the
arguments, of which the second to last but one are positions. -/
def codecDetails (world : World) (names : List String) (cell : ErrorCell) :
    List (String × Value) :=
  (names.zip cell.arguments).map fun detail =>
    if detail.1 == "start" || detail.1 == "end" then (detail.1, whole world detail.2)
    else detail

/-- The details of errors without a message of their own, by class. -/
def plainDetails (className : String) (arguments : List Value) : List (String × Value) :=
  match className with
  | "StopIteration" => [("value", given arguments 0)]
  | "SystemExit" =>
      let status :=
        match arguments with
        | [] => .null
        | [status] => status
        | several => .tuple several
      [("code", status)]
  | "ImportError" => loadDetails
  | "ModuleNotFoundError" => loadDetails
  | "NameError" => [("name", .null)]
  | "UnboundLocalError" => [("name", .null)]
  | "AttributeError" => [("name", .null), ("obj", .null)]
  | _ => []
where
  loadDetails : List (String × Value) :=
    let said := match arguments with
      | [said] => said
      | _ => .null
    [("msg", said), ("name", .null), ("path", .null)]

/-- The named details of an error. -/
def detailsOf (world : World) (cell : ErrorCell) : List (String × Value) :=
  match cell.kind with
  | .host className =>
      match MessageStyle.ofClass className with
      | .system => systemDetails world className cell
      | .source => sourceDetails world cell
      | .group =>
          [("message", given cell.arguments 0),
            ("exceptions", .tuple (((given cell.arguments 1).members? world).getD []))]
      | .translating =>
          ("encoding", .null) :: codecDetails world ["object", "start", "end", "reason"] cell
      | .ordinary => plainDetails className cell.arguments
      | .key => []
      | _ => codecDetails world ["encoding", "object", "start", "end", "reason"] cell
  | .missingMember .. => cell.kind.fields ++ plainDetails "AttributeError" []
  | kind => kind.fields

end ErrorCell

namespace ErrorRef

/-- The method that asks a failed expectation for a copy in its final wording. -/
def rewording : Signature where
  function := "ExpectationFailedError.reformatted"
  required := []

/-- The members of an error. -/
def member? (world : World) (self : ErrorRef) (name : String) : Option Value :=
  let cell := world.errorAt self
  if name == "args" then some (.tuple cell.arguments)
  else if name == "reformatted" && cell.kind.isAssertionFailure then
    some (.method (.error self) name)
  else (cell.detailsOf world).lookup name

/-- A copy of a failed expectation in its final wording. -/
def reworded (self : ErrorRef) (arguments : List Value) : Action Value := do
  rewording.check arguments
  let copy ← SpecError.reformatted self
  pure (.error copy)

end ErrorRef

end DeferredSpec
