import Phrasebook.Text.Quoted
import Phrasebook.Value.Basic

/-!
# Inspecting values

The inspected form of a value names its kind, so values that are shown alike can be told apart in
a log.
-/
namespace Phrasebook.Value

open Decimal Text

/-- Floats in inspected values: without an exponent from a ten-thousandth up to below ten to the
sixteenth, always with a point there, and with an exponent elsewhere. -/
def inspectedFloat : Layout where
  tie := .away
  lowest := some (-4)
  highest := some 15
  keepsPoint := true
  signsExponent := false

mutual

def inspect : Value → String
  | null => "Null"
  | bool b => if b then "Bool(true)" else "Bool(false)"
  | number n => "Number(" ++ String.ofList (Json.writeInteger n.toInt) ++ ")"
  | float x => "Float(" ++ String.ofList (inspectedFloat.write x) ++ ")"
  | string s => "String(" ++ quoted s ++ ")"
  | list items => "List([" ++ ", ".intercalate (inspectItems items) ++ "])"
  | map entries => "Map(\x7b" ++ ", ".intercalate (inspectEntries entries) ++ "\x7d)"

def inspectItems : List Value → List String
  | [] => []
  | item :: rest => inspect item :: inspectItems rest

def inspectEntries : List (String × Value) → List String
  | [] => []
  | (name, value) :: rest => (quoted name ++ ": " ++ inspect value) :: inspectEntries rest

end

end Phrasebook.Value
