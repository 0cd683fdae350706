import Phrasebook.Json.NumberReader

/-!
# Reading JSON

Arrays and objects are read by one loop each, for items and members of any kind. The loops take
the length of what is left as a bound, which every item and every member lowers. Values nest as
deep as the reader is told; the first container beyond is a fault.
-/
namespace Phrasebook.Json

/-- The items of an array from `s` on, in at most `bound` steps. -/
def itemsWithin {α : Type} (item : Reader α) :
    (bound : Nat) → (first : Bool) → Reader (List α)
  | 0, _, s => .error (.on s .unfinishedList)
  | bound + 1, first, s => do
    let (more, s) ← nextItem first s
    if more then
      let (a, s) ← item s
      let (rest, s) ← itemsWithin item bound false s
      return (a :: rest, s)
    else return ([], s)

def items {α : Type} (item : Reader α) : Reader (List α) :=
  fun s => itemsWithin item (s.length + 1) true s

/-- The members of an object from `s` on, in at most `bound` steps. -/
def membersWithin {α : Type} (value : Reader α) :
    (bound : Nat) → (first : Bool) → Reader (List (String × α))
  | 0, _, s => .error (.on s .unfinishedObject)
  | bound + 1, first, s => do
    match ← nextKey first s with
    | (none, s) => return ([], s)
    | (some name, s) =>
      let (a, s) ← value (← colon s)
      let (rest, s) ← membersWithin value bound false s
      return ((name, a) :: rest, s)

def members {α : Type} (value : Reader α) : Reader (List (String × α)) :=
  fun s => membersWithin value (s.length + 1) true s

/-- A value whose arrays and objects are read, from behind their opening marks, as given. -/
def valueWith (array : Reader (List Json)) (object : Reader (List (String × Json))) :
    Reader Json := fun s =>
  match skipSpace s with
  | [] => .error (.before [] .unfinishedValue)
  | 'n' :: rest => (word ['u', 'l', 'l'] rest).map (.null, ·)
  | 't' :: rest => (word ['r', 'u', 'e'] rest).map (.bool true, ·)
  | 'f' :: rest => (word ['a', 'l', 's', 'e'] rest).map (.bool false, ·)
  | '"' :: rest => (stringBody rest).map fun (text, rest) => (.string text, rest)
  | '[' :: rest => (array rest).map fun (items, rest) => (.array items, rest)
  | '\x7b' :: rest => (object rest).map fun (members, rest) => (.object members, rest)
  | c :: rest =>
    if c = '-' ∨ c.isDigit then
      (numberText (c :: rest)).map fun (n, rest) => (.number n, rest)
    else .error (.on (c :: rest) .noValue)

/-- A value that nests at most `depth` containers. -/
def value : (depth : Nat) → Reader Json
  | 0, s =>
    valueWith (fun inner => .error (.before inner .tooDeep))
      (fun inner => .error (.before inner .tooDeep)) s
  | depth + 1, s => valueWith (items (value depth)) (members (value depth)) s

/-- The number of nested containers that are read. -/
def depthLimit : Nat := 127

/-- Reads a whole text: nothing but blanks may stand behind the value. -/
def whole {α : Type} (reader : Reader α) (text : String) : Except Fault α := do
  let (a, rest) ← reader text.toList
  match skipSpace rest with
  | [] => return a
  | other => throw (.on other .trailingCharacters)

def read (text : String) : Except Fault Json :=
  whole (value depthLimit) text

end Phrasebook.Json
