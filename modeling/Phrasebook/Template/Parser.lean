import Phrasebook.Template.Basic
import Phrasebook.Text.Blank
import Phrasebook.Text.Place

/-!
# Taking texts apart

Two opening braces begin a placeholder, which ends at the first two closing braces behind them.
What stands between names the path: it is trimmed, a leading minus sign marks the placeholder as
raw, and a comma begins a format, which is dropped. Braces that begin no placeholder in this way
are malformed. The strict reading refuses them and says where it stood behind them; the lenient
one takes the first of the two braces as text and goes on with the second. A single brace is text.
-/
namespace Phrasebook

open Text

/-- What stands in front of the first two closing braces and behind them. -/
def splitAtClosing : List Char → Option (List Char × List Char)
  | [] => none
  | '\x7d' :: '\x7d' :: rest => some ([], rest)
  | c :: rest => (splitAtClosing rest).map fun (inner, behind) => (c :: inner, behind)

theorem splitAtClosing_length {s inner rest : List Char}
    (found : splitAtClosing s = some (inner, rest)) : rest.length < s.length := by
  induction s generalizing inner rest with
  | nil => simp [splitAtClosing] at found
  | cons c tail ih =>
    unfold splitAtClosing at found
    split at found
    · cases found
    · rename_i same
      cases same
      cases found
      simp only [List.length_cons]
      omega
    · rename_i same
      cases same
      simp only [Option.map_eq_some_iff, Prod.mk.injEq] at found
      obtain ⟨⟨_, behind⟩, deeper, _, rfl⟩ := found
      have shorter := ih deeper
      simp only [List.length_cons]
      omega

namespace Segment

/-- The placeholder of the text between its braces, if that names a path. -/
def ofInner? (inner : List Char) : Option Segment :=
  let body := trimmed inner
  let (raw, body) : Bool × List Char :=
    match body with
    | '-' :: rest => (true, rest)
    | other => (false, other)
  let path := trimmed (body.takeWhile (· ≠ ','))
  if path = [] then none else some (placeholder (String.ofList path) raw)

/-- The placeholder at the front of a text, read from behind its opening braces, and what stands
behind its closing ones. -/
def atOpening? (s : List Char) : Option (Segment × List Char) := do
  let (inner, rest) ← splitAtClosing s
  return (← ofInner? inner, rest)

theorem atOpening?_length {s rest : List Char} {segment : Segment}
    (found : atOpening? s = some (segment, rest)) : rest.length < s.length := by
  simp only [atOpening?, bind, Option.bind_eq_some_iff, pure, Option.some.injEq] at found
  obtain ⟨⟨inner, behind⟩, closing, named, _, same⟩ := found
  cases same
  exact splitAtClosing_length closing

/-- Puts a character in front of segments, into the literal there if there is one. -/
def consLiteral (c : Char) : List Segment → List Segment
  | literal text :: rest => literal (String.singleton c ++ text) :: rest
  | other => literal (String.singleton c) :: other

end Segment

open Segment

namespace Template

/-- The segments of a text, read leniently. -/
def lenientSegments (s : List Char) : List Segment :=
  match s with
  | [] => []
  | '\x7b' :: '\x7b' :: rest =>
    match found : atOpening? rest with
    | some (segment, behind) =>
      have : behind.length < rest.length := atOpening?_length found
      segment :: lenientSegments behind
    | none => consLiteral '\x7b' (lenientSegments ('\x7b' :: rest))
  | c :: rest => consLiteral c (lenientSegments rest)
termination_by s.length

/-- The segments of a text, read strictly. A malformed placeholder is reported by what stands
behind its opening braces. -/
def strictSegments (s : List Char) : Except (List Char) (List Segment) :=
  match s with
  | [] => .ok []
  | '\x7b' :: '\x7b' :: rest =>
    match found : atOpening? rest with
    | some (segment, behind) =>
      have : behind.length < rest.length := atOpening?_length found
      (strictSegments behind).map (segment :: ·)
    | none => .error rest
  | c :: rest => (strictSegments rest).map (consLiteral c)
termination_by s.length

/-- A malformed placeholder, by the place behind its opening braces. -/
structure Malformed where
  place : Place
  deriving DecidableEq, Repr

namespace Malformed

def reason (_ : Malformed) : String :=
  "unterminated or malformed placeholder"

def message (fault : Malformed) : String :=
  s!"syntax error at {fault.place.line}:{fault.place.column}: {fault.reason}"

end Malformed

/-- Takes a text apart; malformed placeholders stay text. -/
def parseLenient (text : String) : Template :=
  ⟨lenientSegments text.toList⟩

/-- Takes a text apart that has no malformed placeholder. -/
def parse (text : String) : Except Malformed Template :=
  match strictSegments text.toList with
  | .ok segments => .ok ⟨segments⟩
  | .error behind =>
    .error ⟨Place.ofOffset text.toList (text.utf8ByteSize - byteLength behind)⟩

end Template

end Phrasebook
