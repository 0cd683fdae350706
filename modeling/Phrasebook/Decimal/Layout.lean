import Phrasebook.Decimal.Shortest

/-!
# Written forms of doubles

A layout records the decisions of a number format; `Layout.write` applies them to the shortest
digits. The formats themselves stand with the data that they write.
-/
namespace Phrasebook.Decimal

/-- The decisions of a format for doubles. -/
structure Layout where
  /-- Which of two equally near decimals is written. -/
  tie : Tie
  /-- The least exponent of the leading digit that is written without an exponent; none when all
  are. -/
  lowest : Option Int
  /-- The greatest such exponent. -/
  highest : Option Int
  /-- Whether a whole number written without an exponent ends in a point and a zero. -/
  keepsPoint : Bool
  /-- Whether an exponent that is not negative has a plus sign. -/
  signsExponent : Bool
  deriving Repr

namespace Layout

def isPlain (layout : Layout) (leading : Int) : Bool :=
  (layout.lowest.all (· ≤ leading)) && (layout.highest.all (leading ≤ ·))

/-- The digits with the point where the exponent of the leading digit puts it. -/
def plain (layout : Layout) (digits : List Char) (leading : Int) : List Char :=
  if leading < 0 then
    '0' :: '.' :: List.replicate (-leading - 1).toNat '0' ++ digits
  else
    let whole := leading.toNat + 1
    if digits.length ≤ whole then
      digits ++ List.replicate (whole - digits.length) '0' ++
        if layout.keepsPoint then ['.', '0'] else []
    else digits.take whole ++ '.' :: digits.drop whole

/-- The digits with a point behind the first, and the exponent. -/
def scientific (layout : Layout) (digits : List Char) (leading : Int) : List Char :=
  let point := if digits.length = 1 then digits else digits.take 1 ++ '.' :: digits.drop 1
  let sign := if leading < 0 then ['-'] else if layout.signsExponent then ['+'] else []
  point ++ 'e' :: sign ++ Nat.toDigits 10 leading.natAbs

def magnitude (layout : Layout) (x : Binary64) : List Char :=
  if x.isZero then layout.plain ['0'] 0
  else
    let numeral := x.shortest layout.tie
    let digits := Nat.toDigits 10 numeral.digits
    let leading := numeral.exponent + digits.length - 1
    if layout.isPlain leading then layout.plain digits leading
    else layout.scientific digits leading

/-- The text of a double. A negative zero keeps its sign, and a number that is none has no sign. -/
def write (layout : Layout) (x : Binary64) : List Char :=
  if x.isNaN then ['N', 'a', 'N']
  else
    (if x.isNegative then ['-'] else []) ++
      if x.isFinite then layout.magnitude x else ['i', 'n', 'f']

end Layout

end Phrasebook.Decimal
