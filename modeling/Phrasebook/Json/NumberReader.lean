import Phrasebook.Json.Scan

/-!
# Reading JSON numbers

A number without fraction and exponent that fits is an integer. Every other one is a float, made
from a significand below `2 ^ 64` and a power of ten. Digits that do not fit the significand any
more count as zeros in front of the point and are dropped behind it. The significand is rounded to
a double, and multiplied with or divided by the double nearest to the power of ten: the result is
rounded twice, so it is not always the double nearest to the text.
-/
namespace Phrasebook.Json

open Decimal

def significandBound : Nat := 0x10000000000000000

def integerBound : Nat := 0x8000000000000000

def digitValue (c : Char) : Nat := c.toNat - '0'.toNat

/-- Takes digits into a significand until the first that does not fit; gives the significand and
the number of digits left over. -/
def takeDigits (significand : Nat) : List Char → Nat × Nat
  | [] => (significand, 0)
  | c :: digits =>
    if significand * 10 + digitValue c < significandBound then
      takeDigits (significand * 10 + digitValue c) digits
    else (significand, digits.length + 1)

/-- The greatest power of ten that a double is multiplied with or divided by in one step. -/
def greatestPower : Nat := 308

def powerOfTen (k : Nat) : Binary64 :=
  Binary64.ofRatio false (Nat.pow 10 k) 1

/-- Divides by `10 ^ k`, in steps of the greatest power. -/
def divideByPower (x : Binary64) (k : Nat) : Binary64 :=
  if k ≤ greatestPower then x.quotient (powerOfTen k)
  else if x.isZero then x
  else divideByPower (x.quotient (powerOfTen greatestPower)) (k - greatestPower)
termination_by k
decreasing_by simp only [greatestPower] at *; omega

/-- The magnitude `significand * 10 ^ exponent`; none when it is too great for a double. -/
def magnitude? (significand : Nat) (exponent : Int) : Option Binary64 :=
  let x := Binary64.ofRatio false significand 1
  if exponent < 0 then some (divideByPower x exponent.natAbs)
  else if exponent.toNat ≤ greatestPower then
    let scaled := x.product (powerOfTen exponent.toNat)
    if scaled.isFinite then some scaled else none
  else if x.isZero then some x
  else none

/-- The float of a significand and an exponent, given that `rest` is left of the text. -/
def floatNumber (negative : Bool) (significand : Nat) (exponent : Int) (rest : List Char) :
    Except Fault (Number × List Char) :=
  match magnitude? significand exponent with
  | none => .error (.before rest .numberOutOfRange)
  | some x => .ok (.float (if negative then x.negate else x), rest)

def exponentBound : Nat := 0x80000000

/-- Takes digits into an exponent; fails with what is left behind the digit that passes the
bound. -/
def exponentDigits (exponent : Nat) : List Char → Except (List Char) (Nat × List Char)
  | [] => .ok (exponent, [])
  | c :: rest =>
    if c.isDigit then
      if exponent * 10 + digitValue c < exponentBound then
        exponentDigits (exponent * 10 + digitValue c) rest
      else .error rest
    else .ok (exponent, c :: rest)

/-- Reads an exponent from behind its letter. An exponent past the bound leaves nothing of a
significand when it is negative, and is out of range otherwise unless the significand is zero. -/
def exponentPart (negative : Bool) (significand : Nat) (scale : Int) (s : List Char) :
    Except Fault (Number × List Char) :=
  let (minus, s) : Bool × List Char :=
    match s with
    | '+' :: rest => (false, rest)
    | '-' :: rest => (true, rest)
    | other => (false, other)
  match s with
  | [] => .error (.before [] .unfinishedValue)
  | c :: rest =>
    if c.isDigit then
      match exponentDigits 0 (c :: rest) with
      | .ok (exponent, rest) =>
        floatNumber negative significand (if minus then scale - exponent else scale + exponent) rest
      | .error behind =>
        if significand ≠ 0 ∧ !minus then .error (.before behind .numberOutOfRange)
        else .ok (.float (Binary64.zero negative), behind.dropWhile Char.isDigit)
    else .error (.on (c :: rest) .invalidNumber)

/-- What stands behind the digits of a float: an exponent or the end of the number. -/
def floatEnd (negative : Bool) (significand : Nat) (scale : Int) (s : List Char) :
    Except Fault (Number × List Char) :=
  match s with
  | [] => floatNumber negative significand scale []
  | c :: rest =>
    if c = 'e' ∨ c = 'E' then exponentPart negative significand scale rest
    else floatNumber negative significand scale (c :: rest)

/-- Reads the digits behind a point. There must be one; those that do not fit are dropped. -/
def fractionPart (negative : Bool) (significand : Nat) (scale : Int) (s : List Char) :
    Except Fault (Number × List Char) :=
  let digits := s.takeWhile Char.isDigit
  match digits, s with
  | [], [] => .error (.on [] .unfinishedValue)
  | [], other => .error (.on other .invalidNumber)
  | _ :: _, _ =>
    let (taken, left) := takeDigits significand digits
    floatEnd negative taken (scale - (digits.length - left : Nat)) (s.dropWhile Char.isDigit)

/-- The integer of a significand. A negative zero and what lies below the least integer are
floats. -/
def integerNumber (negative : Bool) (significand : Nat) : Number :=
  if !negative then .integer significand
  else if significand = 0 ∨ integerBound < significand then
    .float (Binary64.ofRatio true significand 1)
  else .integer (-significand)

/-- Reads a number from behind its sign. A zero in front of another digit is refused. -/
def unsignedNumber (negative : Bool) (s : List Char) : Except Fault (Number × List Char) :=
  match s.takeWhile Char.isDigit with
  | [] =>
    match s with
    | [] => .error (.before [] .unfinishedValue)
    | other => .error (.on other .invalidNumber)
  | '0' :: _ :: _ => .error (.on (s.drop 1) .invalidNumber)
  | digits =>
    let (significand, left) := takeDigits 0 digits
    match s.dropWhile Char.isDigit with
    | '.' :: rest => fractionPart negative significand left rest
    | rest =>
      if rest.head? = some 'e' ∨ rest.head? = some 'E' ∨ left ≠ 0 then
        floatEnd negative significand left rest
      else .ok (integerNumber negative significand, rest)

def numberText (s : List Char) : Except Fault (Number × List Char) :=
  match s with
  | '-' :: rest => unsignedNumber true rest
  | other => unsignedNumber false other

end Phrasebook.Json
