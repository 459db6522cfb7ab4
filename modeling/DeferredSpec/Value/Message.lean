/-
# Messages

What a value says in running text: texts say themselves, errors their message, all
else its displayed text. How the message of an error is made depends on its class:
most say what they were built from, some know a place, a file or a part of a text.
-/

import DeferredSpec.Value.Display

namespace DeferredSpec

/-- How the message of an error is made from what the error was built from. -/
inductive MessageStyle
  | ordinary
  | key
  | system
  | source
  | decoding
  | encoding
  | translating
  | group
  deriving DecidableEq, Repr

namespace MessageStyle

/-- The errors that report a number and a text when built from two. -/
def systemErrors : List String :=
  ["OSError", "BlockingIOError", "ChildProcessError", "ConnectionError", "BrokenPipeError",
    "ConnectionAbortedError", "ConnectionRefusedError", "ConnectionResetError", "FileExistsError",
    "FileNotFoundError", "InterruptedError", "IsADirectoryError", "NotADirectoryError",
    "PermissionError", "ProcessLookupError", "TimeoutError"]

/-- The errors that report a place in a source. -/
def sourceErrors : List String := ["SyntaxError", "IndentationError", "TabError"]

/-- The errors that report how many errors they group. -/
def groupErrors : List String := ["ExceptionGroup", "BaseExceptionGroup"]

/-- How errors of a class make their message. -/
def ofClass (className : String) : MessageStyle :=
  if systemErrors.contains className then .system
  else if sourceErrors.contains className then .source
  else if groupErrors.contains className then .group
  else
    match className with
    | "KeyError" => .key
    | "UnicodeDecodeError" => .decoding
    | "UnicodeEncodeError" => .encoding
    | "UnicodeTranslateError" => .translating
    | _ => .ordinary

end MessageStyle

namespace Snapshot

/-- The integer that a value counts as, truth values included. -/
def asInteger? : Snapshot → Option Int
  | .boolean value => some (if value then 1 else 0)
  | .integer value => some value
  | _ => none

/-- The integer that a position is given by. -/
def position (value : Snapshot) : Int := value.asInteger?.getD 0

/-- The text of a value that is one. -/
def ownText : Snapshot → String
  | .text value => value
  | _ => ""

/-- The members of a collection, as iterating over it yields them. -/
def members : Snapshot → List Snapshot
  | .tuple items => items
  | .list _ items => items
  | .set items => items
  | .view _ _ items => items
  | .table _ entries => entries.map Prod.fst
  | .text value => value.toList.map fun c => .text (String.ofList [c])
  | .bytes value => value.map fun byte => .integer byte.toNat
  | _ => []

/-- The name behind the last stroke of a path. -/
def fileName (path : String) : String :=
  String.ofList ((path.toList.reverse.takeWhile (· != '/')).reverse)

/-- The number of a line as far as it fits a machine word, and -1 beyond. -/
def lineText (line : Int) : String :=
  toString (if -9223372036854775808 ≤ line && line ≤ 9223372036854775807 then line else -1)

/-- A place in a source, in brackets: its file and its line, as far as they are known. -/
def placeText (place : Snapshot) : String :=
  match place.members with
  | .text path :: .integer line :: _ => " (" ++ fileName path ++ ", line " ++ lineText line ++ ")"
  | .text path :: _ => " (" ++ fileName path ++ ")"
  | _ :: .integer line :: _ => " (line " ++ lineText line ++ ")"
  | _ => ""

/-- The escaped form of a character in a message about it. -/
def escapedChar (c : Char) : String :=
  let code := c.toNat
  String.ofList <|
    if code < 0x100 then '\\' :: 'x' :: Quoted.hex 2 code
    else if code < 0x10000 then '\\' :: 'u' :: Quoted.hex 4 code
    else '\\' :: 'U' :: Quoted.hex 8 code

/-- Where a fault lies: from one position to another. Positions are machine words. -/
def spanText (start stop : Int) : String :=
  " in position " ++ toString start ++ "-" ++ toString ((stop - 1).bmod 18446744073709551616)

/-- What a codec stumbled over: the single unit at the start, if the
span covers no more, or the span. -/
def troubleText {α : Type} (items : List α) (start stop : Int) (single : α → String)
    (several : String) : String :=
  let unit := if start < 0 || stop != start + 1 then none else items[start.toNat]?
  match unit with
  | some item => single item ++ " in position " ++ toString start
  | none => several ++ spanText start stop

/-- The message of an error about a text and its bytes. -/
def codecText (style : MessageStyle) (arguments : List Snapshot) : String :=
  match style, arguments with
  | .decoding, [codec, .bytes data, start, stop, reason] =>
      "'" ++ codec.ownText ++ "' codec can't decode " ++
        troubleText data start.position stop.position
          (fun byte => "byte 0x" ++ String.ofList (Quoted.hex 2 byte.toNat)) "bytes"
        ++ ": " ++ reason.ownText
  | .encoding, [codec, .text data, start, stop, reason] =>
      "'" ++ codec.ownText ++ "' codec can't encode " ++
        troubleText data.toList start.position stop.position
          (fun c => "character '" ++ escapedChar c ++ "'") "characters"
        ++ ": " ++ reason.ownText
  | .translating, [.text data, start, stop, reason] =>
      "can't translate " ++
        troubleText data.toList start.position stop.position
          (fun c => "character '" ++ escapedChar c ++ "'") "characters"
        ++ ": " ++ reason.ownText
  | _, _ => ""

/-- The files that a message names behind it. -/
def filesText : List Snapshot → Wording
  | [] => .ok ""
  | [file] => file.display.map fun shown => ": " ++ shown
  | file :: other :: _ => do
      let shown ← file.display
      let others ← other.display
      pure (": " ++ shown ++ " -> " ++ others)

/-- A count of grouped errors. -/
def groupText (count : Nat) : String :=
  " (" ++ toString count ++ " sub-exception" ++ (if 1 < count then "s" else "") ++ ")"

mutual

/-- What a value says in running text. -/
def plain : Snapshot → Wording
  | .text value => .ok value
  | .error _ className arguments _ details _ =>
      message (MessageStyle.ofClass className) details arguments
  | .object ref className texts shown misfit =>
      match misfit with
      | some kind => .error (.plainOf kind)
      | none => (Snapshot.object ref className texts shown none).display
  | value => value.display

/-- The message of an error from what it was built from: nothing, a single argument,
or all of them as a tuple, unless the style says otherwise. -/
def message (style : MessageStyle) (details : List Snapshot) : List Snapshot → Wording
  | [] => .ok (if style = .source then "None" else "")
  | [argument] => if style = .key then argument.display else plain argument
  | first :: second :: rest =>
      match style with
      | .system =>
          if rest.length ≤ 3 then do
            let number ← plain first
            let reason ← plain second
            let files ← filesText details
            pure ("[Errno " ++ number ++ "] " ++ reason ++ files)
          else (Snapshot.tuple (first :: second :: rest)).display
      | .source => do
          let said ← plain first
          pure (said ++ (if rest.isEmpty then placeText second else ""))
      | .group => (plain first).map fun said => said ++ groupText second.members.length
      | .ordinary => (Snapshot.tuple (first :: second :: rest)).display
      | .key => (Snapshot.tuple (first :: second :: rest)).display
      | style => .ok (codecText style (first :: second :: rest))

end

end Snapshot

end DeferredSpec
