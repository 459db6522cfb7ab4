/-
# The shortest decimal that reads back

A finite double stands for an interval of reals: those that round to it. Its
shortest decimal is the one with the fewest digits inside that interval, and of
two such the one nearer to the double, a tie going to the even digit. The search
tries one decimal grid after another in exact natural arithmetic.
-/

import DeferredSpec.Number.Binary64

namespace DeferredSpec

/-- `digits * 10 ^ exponent`. -/
structure Decimal where
  digits : Nat
  exponent : Int
  deriving DecidableEq, Repr

namespace Decimal

/-- Compare `a * 10 ^ i` with `n * 2 ^ j`, exactly. -/
def compareScaled (a : Nat) (i : Int) (n : Nat) (j : Int) : Ordering :=
  compare (a * Nat.pow 10 i.toNat * Nat.pow 2 (-j).toNat)
    (n * Nat.pow 2 j.toNat * Nat.pow 10 (-i).toNat)

/-- Whether a decimal lies among the reals that round to
`significand * 2 ^ exponent`; the ends belong to it when the significand is even. -/
def readsBackTo (significand : Nat) (exponent : Int) (decimal : Decimal) : Bool :=
  let narrowBelow := significand == Nat.pow 2 52 && exponent > Binary64.leastExponent
  let low := if narrowBelow then 4 * significand - 1 else 4 * significand - 2
  let high := 4 * significand + 2
  let inclusive := significand % 2 == 0
  let below := compareScaled decimal.digits decimal.exponent low (exponent - 2)
  let above := compareScaled decimal.digits decimal.exponent high (exponent - 2)
  (below == .gt || (inclusive && below == .eq)) && (above == .lt || (inclusive && above == .eq))

/-- The first power of ten from `10 ^ k` on that exceeds the number, looking at
most `steps` powers further. -/
def scaleFrom (significand : Nat) (exponent : Int) : Nat → Int → Int
  | 0, k => k
  | steps + 1, k =>
      if compareScaled 1 k significand exponent == .gt then k
      else scaleFrom significand exponent steps (k + 1)

/-- The least `k` for which the positive number lies below `10 ^ k`. The binary
logarithm gives a power that is not too large and misses by at most three. -/
def scale (significand : Nat) (exponent : Int) : Int :=
  scaleFrom significand exponent 4 ((((significand.log2 : Int) + exponent) * 30103) / 100000 - 1)

/-- Of the two neighbours of the number on the grid of `10 ^ grid`, the one that
reads back; if both do, the nearer one. -/
def onGrid? (significand : Nat) (exponent grid : Int) : Option Decimal :=
  let numerator := significand * Nat.pow 2 exponent.toNat * Nat.pow 10 (-grid).toNat
  let denominator := Nat.pow 2 (-exponent).toNat * Nat.pow 10 grid.toNat
  let lower := numerator / denominator
  let below : Decimal := ⟨lower, grid⟩
  let above : Decimal := ⟨lower + 1, grid⟩
  match readsBackTo significand exponent below, readsBackTo significand exponent above with
  | true, false => some below
  | false, true => some above
  | false, false => none
  | true, true =>
      match compare (2 * numerator) ((2 * lower + 1) * denominator) with
      | .lt => some below
      | .gt => some above
      | .eq => some (if lower % 2 = 0 then below else above)

/-- Move trailing zeros of the digits into the exponent, at most `steps` of them. -/
def stripZeros : Nat → Decimal → Decimal
  | 0, decimal => decimal
  | steps + 1, decimal =>
      if decimal.digits % 10 = 0 then stripZeros steps ⟨decimal.digits / 10, decimal.exponent + 1⟩
      else decimal

/-- The exact decimal value of `significand * 2 ^ exponent`. -/
def exact (significand : Nat) (exponent : Int) : Decimal :=
  ⟨significand * Nat.pow 2 exponent.toNat * Nat.pow 5 (-exponent).toNat, min exponent 0⟩

/-- The shortest decimal that reads back to a positive number: the first hit on
the grids of one to seventeen digits. -/
def shortest (significand : Nat) (exponent : Int) : Decimal :=
  let k := scale significand exponent
  let found := (List.range 17).findSome? fun n =>
    onGrid? significand exponent (k - (n + 1 : Nat))
  stripZeros 17 (found.getD (exact significand exponent))

end Decimal

end DeferredSpec
