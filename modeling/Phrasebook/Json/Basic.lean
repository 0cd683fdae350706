import Phrasebook.Decimal.Layout
import Phrasebook.NameMap

/-!
# JSON values

A value keeps what a text says: numbers written as integers stay apart from the others, and an
object is the list of its members as written, repeated names included.
-/
namespace Phrasebook

open Decimal

/-- A JSON number. A reader gives integers only from `-2 ^ 63` up to `2 ^ 64 - 1`. -/
inductive Json.Number where
  | integer (n : Int)
  | float (x : Binary64)
  deriving DecidableEq, Repr

inductive Json where
  | null
  | bool (b : Bool)
  | number (n : Json.Number)
  | string (s : String)
  | array (items : List Json)
  | object (members : List (String × Json))
  deriving Repr

namespace Json

/-- Floats in JSON: without an exponent from a hundred-thousandth up to below ten to the
sixteenth, always with a point there, and with a signed exponent elsewhere. -/
def floatLayout : Layout where
  tie := .toEven
  lowest := some (-5)
  highest := some 15
  keepsPoint := true
  signsExponent := true

/-- The decimal digits of a whole number, with a minus sign in front of a negative one. -/
def writeInteger (n : Int) : List Char :=
  (if n < 0 then ['-'] else []) ++ Nat.toDigits 10 n.natAbs

def Number.write : Number → List Char
  | integer n => writeInteger n
  | float x => floatLayout.write x

end Json

end Phrasebook
