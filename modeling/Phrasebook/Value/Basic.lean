import Phrasebook.Json.Printer
import Phrasebook.Text.Blank
import Phrasebook.Text.Cut

/-!
# Values of parameters and tag arguments

A value is what a template passes to a tag: the locale, the parameters, and whatever the
parameters hold. Maps have ascending names. A value is shown as text inside a translation; lists
and maps are shown as compact JSON.
-/
namespace Phrasebook

open Decimal Text

/-- A value that flows through the tag. -/
inductive Value where
  | null
  | bool (b : Bool)
  | number (n : Int64)
  | float (x : Binary64)
  | string (s : String)
  | list (items : List Value)
  | map (entries : List (String × Value))
  deriving Inhabited, Repr

/-- Named parameters of a translation. -/
abbrev Params := NameMap Value

namespace Value

def isNull : Value → Bool
  | null => true
  | _ => false

def asNumber? : Value → Option Int64
  | number n => some n
  | _ => none

/-- The value as a float; a whole number counts as the nearest one. -/
def asFloat? : Value → Option Binary64
  | float x => some x
  | number n => some (.ofInt n.toInt)
  | _ => none

def asString? : Value → Option String
  | string s => some s
  | _ => none

def asMap? : Value → Option (NameMap Value)
  | map entries => some entries
  | _ => none

/-- The locale that a value names: the trimmed text of a string that is not blank. Every other
value names none. -/
def asLocale? : Value → Option String
  | string s => if trim s = "" then none else some (trim s)
  | _ => none

def field? (v : Value) (name : String) : Option Value :=
  match v with
  | map entries => NameMap.get? entries name
  | _ => none

/-- Walks through nested maps along the names of a dotted path. -/
def getPath? (v : Value) (path : String) : Option Value :=
  (pieces '.' path).foldlM field? v

/-- The parameters that a value gives: the entries of a map, none for every other value. -/
def toParams : Value → Params
  | map entries => entries
  | _ => []

/-- Floats in shown text: never an exponent, and no point behind a whole number. -/
def floatLayout : Layout where
  tie := .away
  lowest := none
  highest := none
  keepsPoint := false
  signsExponent := false

/-- A whole number within the bounds of 64 bits, otherwise the nearest float. -/
def ofInt (n : Int) : Value :=
  if Int64.minValue.toInt ≤ n ∧ n ≤ Int64.maxValue.toInt then number (.ofInt n)
  else float (.ofInt n)

mutual

/-- The JSON form of a value. A float that is not finite has none and becomes null. -/
def toJson : Value → Json
  | null => .null
  | bool b => .bool b
  | number n => .number (.integer n.toInt)
  | float x => if x.isFinite then .number (.float x) else .null
  | string s => .string s
  | list items => .array (itemsToJson items)
  | map entries => .object (entriesToJson entries)

def itemsToJson : List Value → List Json
  | [] => []
  | item :: rest => toJson item :: itemsToJson rest

def entriesToJson : List (String × Value) → List (String × Json)
  | [] => []
  | (name, value) :: rest => (name, toJson value) :: entriesToJson rest

end

mutual

/-- The value of a JSON text. Of members with one name the last counts. -/
def ofJson : Json → Value
  | .null => null
  | .bool b => bool b
  | .number (.integer n) => ofInt n
  | .number (.float x) => float x
  | .string s => string s
  | .array items => list (itemsOfJson items)
  | .object members => map (NameMap.ofList (entriesOfJson members))

def itemsOfJson : List Json → List Value
  | [] => []
  | item :: rest => ofJson item :: itemsOfJson rest

def entriesOfJson : List (String × Json) → List (String × Value)
  | [] => []
  | (name, value) :: rest => (name, ofJson value) :: entriesOfJson rest

end

/-- The text that a value is shown as. -/
def display : Value → String
  | null => ""
  | bool b => if b then "true" else "false"
  | number n => String.ofList (Json.writeInteger n.toInt)
  | float x => String.ofList (floatLayout.write x)
  | string s => s
  | list items => (toJson (list items)).compact
  | map entries => (toJson (map entries)).compact

end Value

end Phrasebook
