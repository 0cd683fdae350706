import Phrasebook.Decimal.Binary64

/-!
# The shortest decimal of a double

The reals that round to a finite double form an interval, which holds its ends exactly when the
mantissa is even. The shortest decimal is the one with the fewest digits in that interval; of two
with equally many digits the nearer one counts, and on a tie the format decides.
-/
namespace Phrasebook.Decimal

/-- Which of two equally near decimals is taken. -/
inductive Tie where
  | toEven
  | away
  deriving DecidableEq, Repr

/-- The decimal `digits * 10 ^ exponent`. -/
structure Numeral where
  digits : Nat
  exponent : Int
  deriving DecidableEq, Repr

namespace Numeral

/-- Compares a decimal with `mantissa * 2 ^ exponent`, without rounding. -/
def compareBinary (d : Numeral) (mantissa : Nat) (exponent : Int) : Ordering :=
  let decimal := scaled d.digits 10 d.exponent
  let binary := scaled mantissa 2 exponent
  compare (decimal.1 * binary.2) (binary.1 * decimal.2)

/-- The digits without the zeros at their end. -/
def stripZeros (d : Numeral) : Numeral :=
  if d.digits = 0 then d
  else if d.digits % 10 = 0 then stripZeros ⟨d.digits / 10, d.exponent + 1⟩
  else d
termination_by d.digits
decreasing_by show d.digits / 10 < d.digits; omega

end Numeral

namespace Binary64

/-- The gap below a power of two is half the gap above it, except at the least exponent. -/
def hasNarrowGap (x : Binary64) : Bool :=
  x.mantissa == span && -1074 < x.exponent

/-- Whether a decimal lies among the reals that round to the magnitude of `x`. The ends of the
interval are counted in quarters of the last place. -/
def readsBack (x : Binary64) (d : Numeral) : Bool :=
  let low := 4 * x.mantissa - if x.hasNarrowGap then 1 else 2
  let high := 4 * x.mantissa + 2
  let closed := x.mantissa % 2 == 0
  let fromLow := d.compareBinary low (x.exponent - 2)
  let fromHigh := d.compareBinary high (x.exponent - 2)
  (fromLow == .gt || (closed && fromLow == .eq)) && (fromHigh == .lt || (closed && fromHigh == .eq))

/-- The number of decimal digits, none for zero. -/
def decimalLength (n : Nat) : Nat :=
  if n = 0 then 0 else (Nat.toDigits 10 n).length

/-- The exponent of the leading decimal digit of `num / den`. Below one it is counted on the
reciprocal, rounded up and less one, so an exact power of ten keeps its own exponent. -/
def leadingExponent (num den : Nat) : Int :=
  if den ≤ num then (decimalLength (num / den) : Int) - 1
  else -(decimalLength ((den - 1) / num) : Int)

/-- The decimal of `count` digits that reads back, if there is one: of the two neighbours of the
magnitude on the grid of that many digits, the nearer that does. -/
def neighbour (tie : Tie) (x : Binary64) (count : Nat) : Option Numeral :=
  let ratio := scaled x.mantissa 2 x.exponent
  let place := leadingExponent ratio.1 ratio.2 - count + 1
  let units := scaled ratio.1 10 (-place)
  let lower : Numeral := ⟨units.1 / (ratio.2 * units.2), place⟩
  let upper : Numeral := ⟨lower.digits + 1, place⟩
  let twiceMiddle : Numeral := ⟨lower.digits + upper.digits, place⟩
  match x.readsBack lower, x.readsBack upper with
  | false, false => none
  | true, false => some lower
  | false, true => some upper
  | true, true =>
    match twiceMiddle.compareBinary (2 * x.mantissa) x.exponent with
    | .gt => some lower
    | .lt => some upper
    | .eq =>
      match tie with
      | .away => some upper
      | .toEven => some (if lower.digits % 2 = 0 then lower else upper)

def exactDecimal (x : Binary64) : Numeral :=
  ⟨(scaled x.mantissa 2 x.exponent).1 * Nat.pow 5 (-x.exponent).toNat, min x.exponent 0⟩

/-- The shortest decimal of the magnitude of a finite double that is not zero. Seventeen digits
always suffice; were they not to, the exact decimal would stand in. -/
def shortest (tie : Tie) (x : Binary64) : Numeral :=
  (((List.range' 1 17).findSome? (neighbour tie x)).getD x.exactDecimal).stripZeros

end Binary64

end Phrasebook.Decimal
