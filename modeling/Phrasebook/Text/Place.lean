/-!
# Places in a text

A place is a line and a column, both counted from one, columns in bytes of the UTF-8 form. The
place of a byte offset counts newline characters. The offset of a place counts the lines that a
line reader yields, so a carriage return before a newline belongs to no line and the offset falls
short by one for each such line above the place. A place that is shown to a reader counts all line
ends.
-/
namespace Phrasebook.Text

def byteLength : List Char → Nat
  | [] => 0
  | c :: rest => c.utf8Size + byteLength rest

theorem byteLength_append (s t : List Char) :
    byteLength (s ++ t) = byteLength s + byteLength t := by
  induction s with
  | nil => simp [byteLength]
  | cons c rest ih => simp only [List.cons_append, byteLength, ih]; omega

/-- The length of a string is that of its characters. -/
theorem byteLength_toList (s : String) : byteLength s.toList = s.utf8ByteSize := by
  suffices general : ∀ l : List Char, byteLength l = (String.ofList l).utf8ByteSize by
    rw [general, String.ofList_toList]
  intro l
  induction l with
  | nil => rfl
  | cons c rest ih =>
    have apart : String.ofList (c :: rest) = String.singleton c ++ String.ofList rest := by
      rw [String.singleton_eq_ofList, ← String.ofList_append]
      rfl
    rw [byteLength, ih, apart, String.utf8ByteSize_append, String.utf8ByteSize_singleton]

/-- A line and a byte column, both counted from one. -/
structure Place where
  line : Nat
  column : Nat
  deriving DecidableEq, Repr

namespace Place

/-- Walks on from `place` through the first `offset` bytes of a text; an offset inside a character
counts the bytes of that character before it. -/
def advance (place : Place) : List Char → Nat → Place
  | [], _ => place
  | c :: rest, offset =>
    if offset = 0 then place
    else if c = '\n' then advance ⟨place.line + 1, 1⟩ rest (offset - 1)
    else advance ⟨place.line, place.column + min c.utf8Size offset⟩ rest (offset - c.utf8Size)

/-- The place of a byte offset in a text. -/
def ofOffset (text : List Char) (offset : Nat) : Place :=
  advance ⟨1, 1⟩ text offset

/-- Walks on from `place` as a reader sees the lines: a newline, a carriage return and both together
are one line end each. The two together are passed only as a whole, so an offset between them stays
in front of both. -/
def advanceShown (place : Place) : List Char → Nat → Place
  | [], _ => place
  | '\r' :: '\n' :: rest, offset =>
    if offset ≤ 1 then place else advanceShown ⟨place.line + 1, 1⟩ rest (offset - 2)
  | c :: rest, offset =>
    if offset = 0 then place
    else if c = '\n' ∨ c = '\r' then advanceShown ⟨place.line + 1, 1⟩ rest (offset - 1)
    else
      advanceShown ⟨place.line, place.column + min c.utf8Size offset⟩ rest (offset - c.utf8Size)

/-- The place of a byte offset as it is shown to a reader of the text. -/
def shown (text : List Char) (offset : Nat) : Place :=
  advanceShown ⟨1, 1⟩ text offset

/-- Without carriage returns a reader counts the same lines. -/
theorem shown_eq_ofOffset {text : List Char} (plain : '\r' ∉ text) (offset : Nat) :
    shown text offset = ofOffset text offset := by
  suffices general : ∀ place, advanceShown place text offset = advance place text offset from
    general ⟨1, 1⟩
  intro place
  induction text generalizing place offset with
  | nil => rfl
  | cons c rest ih =>
    have apart : c ≠ '\r' := fun h => plain (by simp [h])
    have behind : '\r' ∉ rest := fun h => plain (List.mem_cons_of_mem c h)
    rw [advanceShown, advance]
    · simp only [apart, or_false, ih behind]
    · intro tail h
      exact absurd h apart

/-- A line without the carriage return that ends it. -/
def withoutReturn (line : List Char) : List Char :=
  if line.getLast? = some '\r' then line.dropLast else line

/-- The lines that a newline ends, without their line ends. -/
def endedLines (text : List Char) : List (List Char) :=
  (text.splitOn '\n').dropLast.map withoutReturn

/-- The lines of a text, as a line reader yields them: an empty one behind the last newline does
not count. -/
def lines (text : List Char) : List (List Char) :=
  endedLines text ++ (text.splitOn '\n').getLast?.toList.filter (· ≠ [])

/-- The number of bytes that lines take up with one more for the end of each. -/
def linesLength : List (List Char) → Nat
  | [] => 0
  | line :: rest => byteLength line + 1 + linesLength rest

/-- The byte offset of a place: what the lines above it take up, and the columns in front of it.
The offset never passes the end of the text. -/
def offsetIn (place : Place) (text : List Char) : Nat :=
  let above := (lines text).take (place.line - 1)
  min (linesLength above + (place.column - 1)) (byteLength text)

end Place

end Phrasebook.Text
