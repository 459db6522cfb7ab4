/-
# How numbers are written and read

Doubles are written with the shortest digits that read back: positionally while
the leading digit stands between 10⁻⁴ and 10¹⁵, in scientific notation outside,
always with a point or an exponent. Texts are read by the matching grammar, and
what they say is rounded once.
-/

import DeferredSpec.Number.Shortest

namespace DeferredSpec

namespace Decimal

/-- The exponents of the leading digit from `plainFrom` up to, and without,
`plainBelow` are written positionally. -/
structure Layout where
  plainFrom : Int
  plainBelow : Int
  exponentWidth : Nat
  nan : String
  infinity : String

/-- The layout of displayed values: `0.0001`, `1e-05`, `1000000000000000.0`, `1e+16`. -/
def displayed : Layout := ⟨-4, 16, 2, "nan", "inf"⟩

/-- The layout of values rendered as JSON text, which differs in the special values. -/
def rendered : Layout := ⟨-4, 16, 2, "NaN", "Infinity"⟩

/-- A text of `count` zeros. -/
def zeros (count : Nat) : String := String.ofList (List.replicate count '0')

/-- Digits padded on the left with zeros to a least width. -/
def padded (width : Nat) (value : Nat) : String :=
  let digits := toString value
  zeros (width - digits.length) ++ digits

/-- Digits with a point before, inside or behind them; `leading` is the exponent
of the first digit. -/
def positional (digits : String) (leading : Int) : String :=
  if leading < 0 then "0." ++ zeros (-leading - 1).toNat ++ digits
  else
    let whole := leading.toNat + 1
    if digits.length ≤ whole then digits ++ zeros (whole - digits.length) ++ ".0"
    else
      String.ofList (digits.toList.take whole) ++ "." ++ String.ofList (digits.toList.drop whole)

/-- One digit before the point, none but needed ones behind it, a signed exponent. -/
def scientific (layout : Layout) (digits : String) (leading : Int) : String :=
  let mantissa :=
    match digits.toList with
    | first :: second :: rest => String.ofList (first :: '.' :: second :: rest)
    | short => String.ofList short
  let sign := if leading < 0 then "-" else "+"
  mantissa ++ "e" ++ sign ++ padded layout.exponentWidth leading.natAbs

/-- The text of a positive decimal. -/
def layOut (layout : Layout) (decimal : Decimal) : String :=
  let digits := toString decimal.digits
  let leading : Int := decimal.exponent + digits.length - 1
  if layout.plainFrom ≤ leading && leading < layout.plainBelow then positional digits leading
  else scientific layout digits leading

end Decimal

namespace Binary64

/-- The text of a double. -/
def text (layout : Decimal.Layout) : Binary64 → String
  | .nan _ => layout.nan
  | .infinite negative => (if negative then "-" else "") ++ layout.infinity
  | .finite negative significand exponent =>
      (if negative then "-" else "") ++
        if significand = 0 then "0.0"
        else (Decimal.shortest significand exponent).layOut layout

end Binary64

namespace NumberReader

/-- The longest run of digits, with single underscores allowed between two of
them, and the text behind it. `inside` says whether a digit stands before. -/
def digitRun (inside : Bool) : List Char → List Char × List Char
  | [] => ([], [])
  | '_' :: next :: rest =>
      if inside && next.isDigit then
        let (digits, tail) := digitRun true rest
        (next :: digits, tail)
      else ([], '_' :: next :: rest)
  | next :: rest =>
      if next.isDigit then
        let (digits, tail) := digitRun true rest
        (next :: digits, tail)
      else ([], next :: rest)

/-- The number that a list of digits denotes. -/
def ofDigits (digits : List Char) : Nat :=
  digits.foldl (fun total digit => 10 * total + (digit.toNat - '0'.toNat)) 0

/-- A leading sign and the text behind it. -/
def sign : List Char → Bool × List Char
  | '-' :: rest => (true, rest)
  | '+' :: rest => (false, rest)
  | rest => (false, rest)

/-- Whitespace as number texts allow it around them; the information separators
are none. -/
def isBlank (c : Char) : Bool :=
  let n := c.toNat
  (9 ≤ n && n ≤ 13) || n == 0x20 || n == 0x85 || n == 0xA0 || n == 0x1680
    || (0x2000 ≤ n && n ≤ 0x200A) || n == 0x2028 || n == 0x2029 || n == 0x202F || n == 0x205F
    || n == 0x3000

/-- The text without the blanks around it. -/
def trim (text : List Char) : List Char :=
  ((text.dropWhile isBlank).reverse.dropWhile isBlank).reverse

/-- An exponent part: a mark, a sign and digits. Absent it is zero. -/
def exponent? : List Char → Option Int
  | [] => some 0
  | mark :: rest =>
      if mark == 'e' || mark == 'E' then
        let (negative, body) := sign rest
        match digitRun false body with
        | (first :: more, []) =>
            let magnitude : Int := ofDigits (first :: more)
            some (if negative then -magnitude else magnitude)
        | _ => none
      else none

/-- The double nearest to `mantissa * 10 ^ exponent`, where the mantissa has the given
number of digits, no zeros before it counted. Outside the range of the finite doubles the
power of ten is not computed. -/
def nearest (negative : Bool) (mantissa digits : Nat) (exponent : Int) : Binary64 :=
  if mantissa = 0 then Binary64.zero negative
  else if exponent + digits > 400 then .infinite negative
  else if exponent + digits < -400 then Binary64.zero negative
  else
    Binary64.ofQuotient negative (mantissa * Nat.pow 10 exponent.toNat)
      (Nat.pow 10 (-exponent).toNat)

/-- A decimal number with an optional fraction and exponent. -/
def decimal? (negative : Bool) (text : List Char) : Option Binary64 :=
  let (whole, afterWhole) := digitRun false text
  let (fraction, tail) :=
    match afterWhole with
    | '.' :: rest => digitRun false rest
    | rest => ([], rest)
  match whole ++ fraction, exponent? tail with
  | [], _ => none
  | _, none => none
  | digits, some exponent =>
      let significant := digits.dropWhile (· == '0')
      some (nearest negative (ofDigits significant) significant.length
        (exponent - fraction.length))

/-- A double: blanks around, a sign, then a decimal number or the name of a
special value in any case. A NaN gets the given payload. -/
def double? (payload : Nat) (text : String) : Option Binary64 :=
  let (negative, body) := sign (trim text.toList)
  match String.ofList (body.map Char.toLower) with
  | "nan" => some (.nan payload)
  | "inf" => some (.infinite negative)
  | "infinity" => some (.infinite negative)
  | _ => decimal? negative body

end NumberReader

end DeferredSpec
