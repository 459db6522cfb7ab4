/-
# Codecs

How texts are written as bytes and bytes read as texts: ASCII and Latin-1 with one byte
a character, UTF-8 with one to four. What cannot be read or written is reported with its
place and the reason.
-/

import DeferredSpec.Text.LetterCase

namespace DeferredSpec

/-- A codec. -/
inductive Codec
  | ascii
  | latin
  | utf
  deriving DecidableEq, Repr

namespace Codec

/-- The name by which a codec reports. -/
def name : Codec → String
  | .ascii => "ascii"
  | .latin => "latin-1"
  | .utf => "utf-8"

/-- The names of a codec, in small letters with underscores. -/
def aliases : Codec → List String
  | .ascii => ["ascii", "646", "us", "us_ascii", "cp367", "csascii", "ibm367", "iso646_us",
      "iso_ir_6"]
  | .latin => ["latin_1", "8859", "cp819", "csisolatin1", "ibm819", "iso8859", "iso8859_1",
      "iso_8859_1", "iso_8859_1_1987", "iso_ir_100", "l1", "latin", "latin1"]
  | .utf => ["utf_8", "u8", "utf", "utf8", "cp65001"]

/-- The codec with a name, in any case of letters and with any separators. -/
def ofName? (name : String) : Option Codec :=
  let spelled := String.ofList (name.toList.map fun c =>
    if c == '-' || c == ' ' then '_' else c.toLower)
  [ascii, latin, utf].find? fun codec => codec.aliases.contains spelled

/-- What cannot be read or written: the span it takes, and why. -/
structure Trouble where
  start : Nat
  stop : Nat
  reason : String
  deriving DecidableEq, Repr

/-- The least code point that a codec of one byte a character cannot write. -/
def limit : Codec → Nat
  | .ascii => 128
  | .latin => 256
  | .utf => 0x110000

/-- Why a character beyond the limit cannot be written. -/
def limitReason (codec : Codec) : String := "ordinal not in range(" ++ toString codec.limit ++ ")"

/-- The bytes of a text. Characters that cannot be written are reported together as far
as they stand together. -/
def encode (codec : Codec) (text : String) : Except Trouble (List UInt8) :=
  let chars := text.toList
  let fits (c : Char) : Bool := c.toNat < codec.limit
  let start := (chars.takeWhile fits).length
  let length := ((chars.drop start).takeWhile fun c => !fits c).length
  if start < chars.length then .error ⟨start, start + length, codec.limitReason⟩
  else if codec = .utf then .ok text.toUTF8.toList
  else .ok (chars.map fun c => UInt8.ofNat c.toNat)

/-- How many bytes follow a first byte, and the bounds of the next one; nothing for a
byte that is none. -/
def sequence? (byte : Nat) : Option (Nat × Nat × Nat) :=
  if byte < 0x80 then some (0, 0x80, 0xbf)
  else if byte < 0xc2 then none
  else if byte < 0xe0 then some (1, 0x80, 0xbf)
  else if byte < 0xf0 then
    some (2, if byte == 0xe0 then 0xa0 else 0x80, if byte == 0xed then 0x9f else 0xbf)
  else if byte < 0xf5 then
    some (3, if byte == 0xf0 then 0x90 else 0x80, if byte == 0xf4 then 0x8f else 0xbf)
  else none

/-- The number of bytes at the head that continue a sequence which needs `needed` more,
the first of them inside the given bounds. -/
def continuation : Nat → Nat → Nat → List Nat → Nat
  | 0, _, _, _ => 0
  | _ + 1, _, _, [] => 0
  | needed + 1, low, high, byte :: rest =>
      if low ≤ byte && byte ≤ high then continuation needed 0x80 0xbf rest + 1 else 0

/-- The first trouble in bytes that should be UTF-8. Every sequence takes one byte at
least, so the number of bytes bounds the search. -/
def trouble? (start : Nat) : Nat → List Nat → Option Trouble
  | 0, _ => none
  | _, [] => none
  | steps + 1, byte :: rest =>
      match sequence? byte with
      | none => some ⟨start, start + 1, "invalid start byte"⟩
      | some (needed, low, high) =>
          let found := continuation needed low high rest
          if found = needed then
            trouble? (start + 1 + needed) steps (rest.drop needed)
          else if found = rest.length then
            some ⟨start, start + 1 + found, "unexpected end of data"⟩
          else some ⟨start, start + 1 + found, "invalid continuation byte"⟩

/-- The text of bytes. -/
def decode (codec : Codec) (bytes : List UInt8) : Except Trouble String :=
  let codes := bytes.map UInt8.toNat
  match codec with
  | .utf =>
      match trouble? 0 codes.length codes with
      | some trouble => .error trouble
      | none => .ok ((String.fromUTF8? (ByteArray.mk bytes.toArray)).getD "")
  | codec =>
      let start := (codes.takeWhile (· < codec.limit)).length
      if start < codes.length then .error ⟨start, start + 1, codec.limitReason⟩
      else .ok (String.ofList (codes.map Char.ofNat))

end Codec

end DeferredSpec
