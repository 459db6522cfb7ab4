/-
# Errors of the host

The errors that are not specific to specifications, built from their class name and
arguments. Most classes keep any arguments as they are. An error of the system turns
into the class that its number stands for and sets the names of files apart; errors
about a codec, a place in a source or a group of errors check what they are given.
-/

import DeferredSpec.World.Iteration

namespace DeferredSpec

namespace HostError

/-- The names of the classes, each with the class that it names. -/
def classes : List (String × String) :=
  let plain (name : String) := (name, name)
  MessageStyle.systemErrors.map plain ++ MessageStyle.sourceErrors.map plain
    ++ MessageStyle.groupErrors.map plain
    ++ [("IOError", "OSError"), ("EnvironmentError", "OSError")]
    ++ ["ArithmeticError", "AssertionError", "AttributeError", "BaseException", "BufferError",
      "BytesWarning", "DeprecationWarning", "EOFError", "EncodingWarning", "Exception",
      "FloatingPointError", "FutureWarning", "GeneratorExit", "ImportError", "ImportWarning",
      "IndexError", "KeyError", "KeyboardInterrupt", "LookupError", "MemoryError",
      "ModuleNotFoundError", "NameError", "NotImplementedError", "OverflowError",
      "PendingDeprecationWarning", "RecursionError", "ReferenceError", "ResourceWarning",
      "RuntimeError", "RuntimeWarning", "StopAsyncIteration", "StopIteration", "SyntaxWarning",
      "SystemError", "SystemExit", "TypeError", "UnboundLocalError", "UnicodeDecodeError",
      "UnicodeEncodeError", "UnicodeError", "UnicodeTranslateError", "UnicodeWarning",
      "UserWarning", "ValueError", "Warning", "ZeroDivisionError"].map plain

/-- The class of a system error with a number. -/
def systemClass? (number : Int) : Option String :=
  [(1, "PermissionError"), (2, "FileNotFoundError"), (3, "ProcessLookupError"),
    (4, "InterruptedError"), (10, "ChildProcessError"), (11, "BlockingIOError"),
    (13, "PermissionError"), (17, "FileExistsError"), (20, "NotADirectoryError"),
    (21, "IsADirectoryError"), (32, "BrokenPipeError"), (103, "ConnectionAbortedError"),
    (104, "ConnectionResetError"), (108, "BrokenPipeError"), (110, "TimeoutError"),
    (111, "ConnectionRefusedError"), (114, "BlockingIOError"),
    (115, "BlockingIOError")].lookup number

/-- Make an error object. -/
def make (className : String) (arguments details : List Value) : Action ErrorRef :=
  Effect.update
    (World.newError { kind := .host className, arguments, cause := none, details })

/-- Whether an integer fits a signed machine word. -/
def fitsWord (value : Int) : Bool := -9223372036854775808 ≤ value && value < 9223372036854775808

/-- Accept an integer that fits a machine word; beyond, fail with the given fault. -/
def checkWord (beyond : ConstructionFault) (value : Value) : Action Unit := do
  let snapshot ← Action.view value
  match snapshot.asInteger? with
  | some number => if fitsWord number then pure () else Action.fail (.construction beyond)
  | none => Action.fail (.notAnInteger snapshot.typeName)

/-- Whether a value is a number of any kind. -/
def isNumber : Value → Bool
  | .boolean _ => true
  | .integer _ => true
  | .float _ => true
  | _ => false

/-- Build an error of the system. Three to five arguments name a file, unless the
name is missing, or is a number and the operation would have blocked. -/
def buildSystem (className : String) (arguments : List Value) : Action ErrorRef := do
  match arguments with
  | number :: reason :: rest =>
      if 3 < rest.length then make className arguments []
      else do
        let actual ← Effect.read fun world =>
          if className == "OSError" then
            ((world.view number).asInteger?.bind systemClass?).getD className
          else className
        match rest with
        | [] => make actual arguments []
        | .null :: _ => make actual arguments []
        | file :: more =>
            if actual == "BlockingIOError" && isNumber file then do
              checkWord .amountTooLarge file
              make actual arguments []
            else
              let other :=
                match more with
                | [_, .null] => []
                | [_, other] => [other]
                | _ => []
              make actual [number, reason] (file :: other)
  | arguments => make className arguments []

/-- Build an error about a place in a source. Two arguments are the message and the
place, which has four parts, or six with the end of the place. -/
def buildSource (className : String) (arguments : List Value) : Action ErrorRef := do
  match arguments with
  | [_, place] => do
      let parts ← place.iterate
      let given := parts.length
      if given < 4 then Action.fail (.construction (.atLeast 4 given))
      else if 6 < given then Action.fail (.construction (.atMost 6 given))
      else if given = 5 then Action.fail (.construction .endOffsetMissing)
      else make className arguments []
  | arguments => make className arguments []

/-- The name of a type in a fault about a part that should be a text. -/
def partType (world : World) (value : Value) : String :=
  match value with
  | .null => "None"
  | value => world.typeName value

/-- Accept a text as the part with a number. -/
def checkText (part : Nat) (value : Value) : Action Unit :=
  match value with
  | .text _ => pure ()
  | value => do
      let type ← Effect.read fun world => partType world value
      Action.fail (.construction (.partNotText part type))

/-- Accept a byte string. -/
def checkBytes (value : Value) : Action Unit :=
  match value with
  | .bytes _ => pure ()
  | value => do
      let type ← Action.typeName value
      Action.fail (.bytesNeedBytes type)

/-- Build an error about a text and its bytes: where the codec is named, then the
text or the bytes, a span, and a reason. -/
def buildCodec (className : String) (style : MessageStyle) (arguments : List Value) :
    Action ErrorRef := do
  match style, arguments with
  | .translating, [text, start, stop, reason] => do
      checkText 1 text
      checkWord .positionTooLarge start
      checkWord .positionTooLarge stop
      checkText 4 reason
  | .translating, arguments => Action.fail (.construction (.exactly 4 arguments.length))
  | style, [codec, object, start, stop, reason] => do
      checkText 1 codec
      if style = .encoding then checkText 2 object else pure ()
      checkWord .positionTooLarge start
      checkWord .positionTooLarge stop
      checkText 5 reason
      if style = .decoding then checkBytes object else pure ()
  | _, arguments => Action.fail (.construction (.exactly 5 arguments.length))
  make className arguments []

/-- The errors that a group holds, if it holds nothing else. -/
def groupedErrors (members : List Value) : Action (List ErrorRef) :=
  Effect.collect
    (fun entry =>
      match entry with
      | (.error ref, _) => pure ref
      | (_, index) => Action.fail (.construction (.groupItem index)))
    members.zipIdx

/-- Whether a value is a sequence, whose members have places. -/
def isSequence : Value → Bool
  | .text _ => true
  | .bytes _ => true
  | .tuple _ => true
  | .list _ => true
  | _ => false

/-- Build a group of errors. A group that may hold any errors but holds ordinary ones
alone is an ordinary group; an ordinary group holds no others. -/
def buildGroup (className : String) (arguments : List Value) : Action ErrorRef := do
  match arguments with
  | [said, errors] => do
      match said with
      | .text _ => pure ()
      | said => do
          let kind ← Effect.read fun world => partType world said
          Action.fail (.construction (.groupMessage kind))
      if !isSequence errors then Action.fail (.construction .groupNotSequence) else pure ()
      let members ← errors.iterate
      if members.isEmpty then Action.fail (.construction .groupEmpty) else pure ()
      let grouped ← groupedErrors members
      let areOrdinary ← Effect.read fun world => grouped.all world.isOrdinary
      if areOrdinary then make "ExceptionGroup" arguments []
      else if className == "ExceptionGroup" then Action.fail (.construction .groupNesting)
      else make className arguments []
  | arguments => Action.fail (.construction (.groupArity arguments.length))

/-- Build an error from the name of its class and its arguments. -/
def construct (name : String) (arguments : List Value) : Action ErrorRef :=
  match classes.lookup name with
  | none => Action.fail (.unknownClass name)
  | some className =>
      match MessageStyle.ofClass className with
      | .ordinary => make className arguments []
      | .key => make className arguments []
      | .system => buildSystem className arguments
      | .source => buildSource className arguments
      | .group => buildGroup className arguments
      | style => buildCodec className style arguments

end HostError

end DeferredSpec
