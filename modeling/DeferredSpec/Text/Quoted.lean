/-
# Quoted text

Three ways of writing text between quotes: the ASCII form of JSON strings, the
displayed form that keeps every printable character, and the displayed form of
byte strings. In each, a character either stands for itself or is written as an
escape that begins with a backslash.
-/

import DeferredSpec.Text.CharacterClass

namespace DeferredSpec

namespace Quoted

/-- A lower-case hexadecimal digit. -/
def hexDigit (value : Nat) : Char :=
  if value < 10 then Char.ofNat ('0'.toNat + value) else Char.ofNat ('a'.toNat + (value - 10))

/-- The last `width` hexadecimal digits of a number, the highest first. -/
def hex : Nat → Nat → List Char
  | 0, _ => []
  | width + 1, value => hex width (value / 16) ++ [hexDigit (value % 16)]

/-- A UTF-16 unit as a JSON escape. -/
def unitEscape (unit : Nat) : List Char := '\\' :: 'u' :: hex 4 unit

/-- One character of a JSON string: printable ASCII stands for itself, the rest
is escaped, beyond the basic plane as a surrogate pair. -/
def jsonChar (c : Char) : List Char :=
  match c with
  | '"' => ['\\', '"']
  | '\\' => ['\\', '\\']
  | '\n' => ['\\', 'n']
  | '\r' => ['\\', 'r']
  | '\t' => ['\\', 't']
  | '\x08' => ['\\', 'b']
  | '\x0c' => ['\\', 'f']
  | c =>
      let code := c.toNat
      if 0x20 ≤ code && code ≤ 0x7e then [c]
      else if code < 0x10000 then unitEscape code
      else
        let offset := code - 0x10000
        unitEscape (0xd800 + offset / 0x400) ++ unitEscape (0xdc00 + offset % 0x400)

/-- The characters of a JSON string between its quotes. -/
def jsonChars (text : List Char) : List Char := text.flatMap jsonChar

/-- A JSON string. -/
def json (text : String) : String :=
  String.ofList ('"' :: jsonChars text.toList ++ ['"'])

/-- The quote of a displayed text: single, unless the text holds a single quote
and no double one. -/
def quoteFor (text : List Char) : Char :=
  if text.contains '\'' && !text.contains '"' then '"' else '\''

/-- The escapes that displayed text and displayed bytes share. -/
def shortEscape? (quote c : Char) : Option (List Char) :=
  if c == quote || c == '\\' then some ['\\', c]
  else if c == '\n' then some ['\\', 'n']
  else if c == '\r' then some ['\\', 'r']
  else if c == '\t' then some ['\\', 't']
  else none

/-- One character of a displayed text: what cannot be printed is written in
hexadecimal, in two, four or eight digits. -/
def displayedChar (quote c : Char) : List Char :=
  match shortEscape? quote c with
  | some escape => escape
  | none =>
      let code := c.toNat
      if CharacterClass.isPrintable c then [c]
      else if code < 0x100 then '\\' :: 'x' :: hex 2 code
      else if code < 0x10000 then '\\' :: 'u' :: hex 4 code
      else '\\' :: 'U' :: hex 8 code

/-- A displayed text with its quotes. -/
def displayed (text : String) : String :=
  let chars := text.toList
  let quote := quoteFor chars
  String.ofList (quote :: chars.flatMap (displayedChar quote) ++ [quote])

/-- One byte of a displayed byte string; only printable ASCII stands for itself. -/
def displayedByte (quote : Char) (byte : UInt8) : List Char :=
  let c := Char.ofNat byte.toNat
  match shortEscape? quote c with
  | some escape => escape
  | none =>
      if 0x20 ≤ byte.toNat && byte.toNat ≤ 0x7e then [c]
      else '\\' :: 'x' :: hex 2 byte.toNat

/-- A displayed byte string with its mark and quotes. -/
def displayedBytes (bytes : List UInt8) : String :=
  let quote := quoteFor (bytes.map fun byte => Char.ofNat byte.toNat)
  String.ofList ('b' :: quote :: bytes.flatMap (displayedByte quote) ++ [quote])

end Quoted

end DeferredSpec
