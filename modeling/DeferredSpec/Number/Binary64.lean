/-
# Double-precision numbers, exactly

A double is kept as the exact number it stands for: a sign, a significand and a
power of two. Every operation computes in the rationals and rounds once, so no
machine arithmetic is involved and every comparison is decided exactly. A NaN
carries a payload, which is all that tells one NaN from another.
-/

namespace DeferredSpec

/-- A double: a signed dyadic number, an infinity, or a NaN with a payload. -/
inductive Binary64
  | finite (negative : Bool) (significand : Nat) (exponent : Int)
  | infinite (negative : Bool)
  | nan (payload : Nat)
  deriving DecidableEq, Repr, Inhabited

/-- A point of the extended rational line. -/
inductive Extended
  | bottom
  | rational (value : Rat)
  | top
  deriving DecidableEq, Repr

namespace Extended

/-- The strict order of the extended rational line. -/
def lt : Extended → Extended → Bool
  | .bottom, .bottom => false
  | .bottom, _ => true
  | .rational _, .bottom => false
  | .rational a, .rational b => decide (a < b)
  | .rational _, .top => true
  | .top, _ => false

@[simp] theorem lt_rational (a b : Rat) :
    lt (.rational a) (.rational b) = decide (a < b) := rfl

end Extended

namespace Binary64

/-- The number of bits of a significand. -/
def precision : Nat := 53

/-- The exponent of the least positive double. -/
def leastExponent : Int := -1074

/-- The largest exponent of a finite double. -/
def greatestExponent : Int := 971

/-- Zero with a sign. -/
def zero (negative : Bool) : Binary64 := .finite negative 0 leastExponent

/-- `significand * 2 ^ exponent`, exactly. -/
def scaled (significand : Nat) (exponent : Int) : Rat :=
  if exponent < 0 then mkRat significand (Nat.pow 2 (-exponent).toNat)
  else mkRat (significand * Nat.pow 2 exponent.toNat) 1

/-- The exact value of a finite double. -/
def finiteValue (negative : Bool) (significand : Nat) (exponent : Int) : Rat :=
  if negative then -scaled significand exponent else scaled significand exponent

/-- Where a double lies on the extended line; a NaN lies nowhere. -/
def toExtended? : Binary64 → Option Extended
  | .finite negative significand exponent =>
      some (.rational (finiteValue negative significand exponent))
  | .infinite true => some .bottom
  | .infinite false => some .top
  | .nan _ => none

/-- The quotient rounded to the nearest natural number, a half going to the even one. -/
def divideHalfEven (numerator denominator : Nat) : Nat :=
  let quotient := numerator / denominator
  let twice := 2 * (numerator % denominator)
  if twice < denominator then quotient
  else if denominator < twice then quotient + 1
  else quotient + quotient % 2

/-- The exponent at which a positive quotient has a significand of full
precision, never below the least exponent. -/
def exponentFor (numerator denominator : Nat) : Int :=
  let estimate : Int := (numerator.log2 : Int) - denominator.log2 - 52
  let fits : Bool :=
    if estimate < 0 then Nat.pow 2 52 * denominator ≤ numerator * Nat.pow 2 (-estimate).toNat
    else Nat.pow 2 52 * denominator * Nat.pow 2 estimate.toNat ≤ numerator
  max (if fits then estimate else estimate - 1) leastExponent

/-- The double nearest to a quotient of naturals, ties to the even significand;
beyond the largest finite double it is an infinity. -/
def ofQuotient (negative : Bool) (numerator denominator : Nat) : Binary64 :=
  if numerator = 0 then zero negative
  else
    let exponent := exponentFor numerator denominator
    let rounded :=
      if exponent < 0 then divideHalfEven (numerator * Nat.pow 2 (-exponent).toNat) denominator
      else divideHalfEven numerator (denominator * Nat.pow 2 exponent.toNat)
    let carried := rounded = Nat.pow 2 precision
    let significand := if carried then Nat.pow 2 52 else rounded
    let exponent := if carried then exponent + 1 else exponent
    if exponent > greatestExponent then .infinite negative
    else .finite negative significand exponent

/-- The double nearest to a rational; zero takes the given sign. -/
def ofRat (value : Rat) (negativeZero : Bool) : Binary64 :=
  ofQuotient (if value.num = 0 then negativeZero else value.num < 0) value.num.natAbs value.den

/-- The double nearest to an integer, which overflows to nothing. -/
def ofInt? (value : Int) : Option Binary64 :=
  match ofQuotient (value < 0) value.natAbs 1 with
  | .infinite _ => none
  | double => some double

/-- Zero of either sign. -/
def isZero : Binary64 → Bool
  | .finite _ significand _ => significand == 0
  | _ => false

/-- The sum, rounded once; where no sum exists the NaN with the given payload. -/
def add (payload : Nat) : Binary64 → Binary64 → Binary64
  | .nan p, _ => .nan p
  | _, .nan p => .nan p
  | .infinite a, .infinite b => if a = b then .infinite a else .nan payload
  | .infinite a, .finite .. => .infinite a
  | .finite .., .infinite b => .infinite b
  | .finite a m e, .finite b n f =>
      ofRat (finiteValue a m e + finiteValue b n f) (a && b)

/-- The product, rounded once; where no product exists the NaN with the given payload. -/
def mul (payload : Nat) : Binary64 → Binary64 → Binary64
  | .nan p, _ => .nan p
  | _, .nan p => .nan p
  | .infinite a, .infinite b => .infinite (a != b)
  | .infinite a, .finite b n _ => if n = 0 then .nan payload else .infinite (a != b)
  | .finite a m _, .infinite b => if m = 0 then .nan payload else .infinite (a != b)
  | .finite a m e, .finite b n f =>
      ofRat (finiteValue a m e * finiteValue b n f) (a != b)

/-- The number without its sign. -/
def abs : Binary64 → Binary64
  | .finite _ significand exponent => .finite false significand exponent
  | .infinite _ => .infinite false
  | .nan payload => .nan payload

/-- The integer a finite double stands for, if it stands for one. -/
def toInt? : Binary64 → Option Int
  | .finite negative significand exponent =>
      let value := finiteValue negative significand exponent
      if value.den = 1 then some value.num else none
  | _ => none

/-- The integer part, toward zero, of a finite double. -/
def truncate? : Binary64 → Option Int
  | .finite negative significand exponent =>
      let value := finiteValue negative significand exponent
      some (value.num.tdiv value.den)
  | _ => none

end Binary64

end DeferredSpec
