/-!
# Double-precision numbers

A double is its 64 bits. Below the sign bit stands its magnitude code: counted upwards from zero,
it numbers the finite magnitudes in ascending order, so the codes of neighbours differ by one and
rounding up at a power of two needs no case of its own. All arithmetic here is exact until its one
rounding, to the nearest double and on a tie to the even one.
-/
namespace Phrasebook.Decimal

/-- A double, by its bits. -/
structure Binary64 where
  bits : UInt64
  deriving DecidableEq, Repr

/-- The numerator and the denominator of `mantissa * base ^ exponent`. -/
def scaled (mantissa base : Nat) (exponent : Int) : Nat × Nat :=
  (mantissa * base.pow exponent.toNat, base.pow (-exponent).toNat)

/-- The quotient rounded to the nearest whole number, and on a tie to the even one. -/
def roundHalfEven (num den : Nat) : Nat :=
  let quotient := num / den
  let twice := 2 * (num % den)
  if den < twice || (twice == den && quotient % 2 == 1) then quotient + 1 else quotient

namespace Binary64

/-- The place of the sign, `2 ^ 63`. -/
def signPlace : Nat := 0x8000000000000000

/-- The number of magnitude codes of one exponent, `2 ^ 52`. -/
def span : Nat := 0x10000000000000

/-- The magnitude code of infinity; greater ones are not numbers. -/
def infinityCode : Nat := 2047 * span

def isNegative (x : Binary64) : Bool :=
  signPlace ≤ x.bits.toNat

/-- The bits below the sign. -/
def code (x : Binary64) : Nat :=
  x.bits.toNat % signPlace

def isNaN (x : Binary64) : Bool :=
  infinityCode < x.code

def isFinite (x : Binary64) : Bool :=
  x.code < infinityCode

def isZero (x : Binary64) : Bool :=
  x.code == 0

def ofCode (negative : Bool) (code : Nat) : Binary64 :=
  ⟨UInt64.ofNat (code + if negative then signPlace else 0)⟩

def zero (negative : Bool) : Binary64 := ofCode negative 0

def infinity (negative : Bool) : Binary64 := ofCode negative infinityCode

def nan : Binary64 := ofCode false (infinityCode + span / 2)

def negate (x : Binary64) : Binary64 :=
  ofCode (!x.isNegative) x.code

/-- The whole number whose product with a power of two is the magnitude. -/
def mantissa (x : Binary64) : Nat :=
  if x.code < span then x.code else x.code % span + span

/-- The exponent of that power of two. -/
def exponent (x : Binary64) : Int :=
  if x.code < span then -1074 else (x.code / span : Nat) - 1075

/-- The double nearest to `num / den`. The first exponent tried leaves a quotient of 52 or 53
bits, and one of 52 bits gets the exponent below; no exponent passes the least one. -/
def ofRatio (negative : Bool) (num den : Nat) : Binary64 :=
  if num = 0 then zero negative
  else
    let estimate : Int := max ((num.log2 : Int) - den.log2 - 52) (-1074)
    let units (exponent : Int) := scaled num 2 (-exponent)
    let quotient := (units estimate).1 / (den * (units estimate).2)
    let chosen := if quotient < span then max (estimate - 1) (-1074) else estimate
    let rounded := roundHalfEven (units chosen).1 (den * (units chosen).2)
    let code := (chosen + 1074).toNat * span + rounded
    ofCode negative (min code infinityCode)

def ofInt (n : Int) : Binary64 :=
  ofRatio (n < 0) n.natAbs 1

def product (x y : Binary64) : Binary64 :=
  let ratio := scaled (x.mantissa * y.mantissa) 2 (x.exponent + y.exponent)
  ofRatio (x.isNegative != y.isNegative) ratio.1 ratio.2

/-- The double nearest to the quotient of two finite ones, the second not zero. -/
def quotient (x y : Binary64) : Binary64 :=
  let ratio := scaled x.mantissa 2 (x.exponent - y.exponent)
  ofRatio (x.isNegative != y.isNegative) ratio.1 (ratio.2 * y.mantissa)

/-- The double nearest to `digits * 10 ^ exponent`. Powers that no finite double comes near are
settled by the number of digits, before any power is computed. -/
def ofDecimal (negative : Bool) (digits : Nat) (exponent : Int) : Binary64 :=
  let top := exponent + (Nat.toDigits 10 digits).length
  if digits = 0 || top < -400 then zero negative
  else if 400 < top then infinity negative
  else
    let ratio := scaled digits 10 exponent
    ofRatio negative ratio.1 ratio.2

end Binary64

end Phrasebook.Decimal
