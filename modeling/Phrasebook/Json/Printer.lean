import Phrasebook.Json.Basic

/-!
# Writing JSON

Two written forms: the compact one without blanks, and the indented one with two blanks for each
level and one item or member to a line. Both share the forms of strings and numbers.
-/
namespace Phrasebook.Json

/-- A character inside a JSON string: only the quote, the backslash and the controls below the
blank are escaped. -/
def escapeChar (c : Char) : List Char :=
  if c = '"' then ['\\', '"']
  else if c = '\\' then ['\\', '\\']
  else if c.toNat = 0x08 then ['\\', 'b']
  else if c.toNat = 0x09 then ['\\', 't']
  else if c.toNat = 0x0A then ['\\', 'n']
  else if c.toNat = 0x0C then ['\\', 'f']
  else if c.toNat = 0x0D then ['\\', 'r']
  else if c.toNat < 0x10 then '\\' :: 'u' :: '0' :: '0' :: '0' :: Nat.toDigits 16 c.toNat
  else if c.toNat < 0x20 then '\\' :: 'u' :: '0' :: '0' :: Nat.toDigits 16 c.toNat
  else [c]

def writeString (s : String) : List Char :=
  '"' :: s.toList.flatMap escapeChar ++ ['"']

/-- Values without structure are written alike in both forms. -/
def writeScalar : Json → List Char
  | bool b => if b then "true".toList else "false".toList
  | number n => n.write
  | string s => writeString s
  | _ => "null".toList

mutual

/-- The compact form. -/
def write : Json → List Char
  | array items => '[' :: writeItems items ++ [']']
  | object members => '\x7b' :: writeMembers members ++ ['\x7d']
  | scalar => writeScalar scalar

def writeItems : List Json → List Char
  | [] => []
  | [item] => write item
  | item :: rest => write item ++ ',' :: writeItems rest

def writeMembers : List (String × Json) → List Char
  | [] => []
  | [(name, value)] => writeString name ++ ':' :: write value
  | (name, value) :: rest => writeString name ++ ':' :: write value ++ ',' :: writeMembers rest

end

def compact (j : Json) : String :=
  String.ofList j.write

/-- A new line, indented for a level. -/
def newline (level : Nat) : List Char :=
  '\n' :: List.replicate (2 * level) ' '

mutual

/-- The indented form of a value that stands at `level`; empty containers stay on one line. -/
def layOut (level : Nat) : Json → List Char
  | array [] => ['[', ']']
  | object [] => ['\x7b', '\x7d']
  | array items => '[' :: layOutItems (level + 1) items ++ newline level ++ [']']
  | object members =>
    '\x7b' :: layOutMembers (level + 1) members ++ newline level ++ ['\x7d']
  | scalar => writeScalar scalar

def layOutItems (level : Nat) : List Json → List Char
  | [] => []
  | [item] => newline level ++ layOut level item
  | item :: rest => newline level ++ layOut level item ++ ',' :: layOutItems level rest

def layOutMembers (level : Nat) : List (String × Json) → List Char
  | [] => []
  | [(name, value)] => newline level ++ writeString name ++ ':' :: ' ' :: layOut level value
  | (name, value) :: rest =>
    newline level ++ writeString name ++ ':' :: ' ' :: layOut level value ++
      ',' :: layOutMembers level rest

end

def pretty (j : Json) : String :=
  String.ofList (j.layOut 0)

end Phrasebook.Json
