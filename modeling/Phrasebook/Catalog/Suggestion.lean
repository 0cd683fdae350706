import Phrasebook.Text.Place

/-!
# Suggestions for misspelt keys

The distance of two texts is the least number of characters to insert, delete or replace. It is
computed row by row: a row holds the distances of one text to every ending of the other, and the
row of a text with one more character in front follows from the row before.
-/
namespace Phrasebook.Suggestion

/-- The distances of the empty text to every ending of a text, the longest ending first. -/
def baseRow : List Char → List Nat
  | [] => [0]
  | _ :: rest => (rest.length + 1) :: baseRow rest

/-- The distances of `a` and what follows it to every ending of a text, from the distances of what
follows alone. -/
def nextRow (a : Char) : List Char → List Nat → List Nat
  | [], below => [below.headD 0 + 1]
  | b :: rest, below =>
    let right := nextRow a rest below.tail
    let kept := below.tail.headD 0 + if a = b then 0 else 1
    min (min (below.headD 0 + 1) (right.headD 0 + 1)) kept :: right

/-- The least number of edits between two texts. -/
def distance (a b : List Char) : Nat :=
  (a.foldr (fun c row => nextRow c b row) (baseRow b)).headD 0

/-- A text of at most three bytes tolerates one edit, a longer one two. -/
def tolerance (target : String) : Nat :=
  if target.utf8ByteSize ≤ 3 then 1 else 2

/-- The order of candidates: by distance, then by name. -/
def precedes (a b : Nat × String) : Bool :=
  a.1 < b.1 || (a.1 == b.1 && !decide (b.2 < a.2))

def limit : Nat := 3

def suggest (target : String) (available : List String) : List String :=
  let scored := available.map fun name => (distance target.toList name.toList, name)
  let close := scored.filter fun candidate => candidate.1 ≤ tolerance target
  ((close.mergeSort precedes).take limit).map Prod.snd

end Phrasebook.Suggestion
