import Phrasebook.Json.Reader

/-!
# Reading values of a wanted shape

A reader for one shape refuses every other value. A scalar of the wrong kind is read first, so a
fault inside it wins over the mismatch, which is then found behind it. A container of the wrong
kind is refused in front of its opening mark.
-/
namespace Phrasebook.Json

/-- The fault of a value at `s` that is not of the wanted shape. -/
def wrongShape (expected : String) (s : List Char) : Fault :=
  match s with
  | '[' :: _ => .before s (.wrongType .sequence expected)
  | '\x7b' :: _ => .before s (.wrongType .map expected)
  | _ =>
    match value 0 s with
    | .error fault => fault
    | .ok (.bool b, rest) => .before rest (.wrongType (.boolean b) expected)
    | .ok (.number n, rest) => .before rest (.wrongType (.number n) expected)
    | .ok (.string text, rest) => .before rest (.wrongType (.string text) expected)
    | .ok (_, rest) => .before rest (.wrongType .null expected)

def stringValue : Reader String := fun s =>
  match skipSpace s with
  | '"' :: rest => stringBody rest
  | other => .error (wrongShape "a string" other)

def boolValue : Reader Bool := fun s =>
  match skipSpace s with
  | 't' :: rest => (word ['r', 'u', 'e'] rest).map (true, ·)
  | 'f' :: rest => (word ['a', 'l', 's', 'e'] rest).map (false, ·)
  | other => .error (wrongShape "a boolean" other)

/-- An array whose items are all of one shape. -/
def arrayOf {α : Type} (item : Reader α) : Reader (List α) := fun s =>
  match skipSpace s with
  | '[' :: rest => items item rest
  | other => .error (wrongShape "a sequence" other)

/-- An object whose values are all of one shape; of members with one name the last counts. -/
def mapOf {α : Type} (value : Reader α) : Reader (NameMap α) := fun s =>
  match skipSpace s with
  | '\x7b' :: rest => (members value rest).map fun (found, rest) => (NameMap.ofList found, rest)
  | other => .error (wrongShape "a map" other)

/-- What is left once the object around has been closed, if it closes at once. A mismatch that is
noticed among the members of an object is placed there. -/
def behindClose (s : List Char) : List Char :=
  match skipSpace s with
  | '\x7d' :: rest => rest
  | other => other

end Phrasebook.Json
