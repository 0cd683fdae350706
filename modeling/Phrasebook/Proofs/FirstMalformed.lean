import Mathlib.Data.List.DropRight
import Phrasebook.Proofs.PartReaders

/-!
# A rejected text is rejected at its first malformed placeholder

The strict reading stops at the first opening braces that begin no placeholder. What stands in
front of them is a text that it accepts, and the reading of that text is where the lenient reading
of the whole begins. The place that is reported counts the newlines in front of the braces, and
the bytes from the last newline on to the end of the braces.
-/
namespace Phrasebook

namespace Text

/-- What stands behind the last newline of a text. -/
def lastLine (s : List Char) : List Char :=
  s.rtakeWhile (· ≠ '\n')

theorem lastLine_concat (s : List Char) (c : Char) :
    lastLine (s ++ [c]) = if c = '\n' then [] else lastLine s ++ [c] := by
  by_cases newline : c = '\n'
  · simp [lastLine, newline]
  · simp [lastLine, newline]

namespace Place

def next (place : Place) (c : Char) : Place :=
  if c = '\n' then ⟨place.line + 1, 1⟩ else ⟨place.line, place.column + c.utf8Size⟩

theorem advance_zero (place : Place) (s : List Char) : advance place s 0 = place := by
  cases s <;> simp [advance]

/-- Walking through a text steps over its characters one by one. -/
theorem advance_append (place : Place) (before behind : List Char) :
    advance place (before ++ behind) (byteLength before) = before.foldl next place := by
  induction before generalizing place with
  | nil => exact advance_zero place behind
  | cons c rest ih =>
    have size : 0 < c.utf8Size := c.utf8Size_pos
    have ahead : c.utf8Size + byteLength rest ≠ 0 := by omega
    rw [List.cons_append, byteLength, advance, if_neg ahead, List.foldl_cons, next]
    by_cases newline : c = '\n'
    · subst newline
      rw [if_pos rfl, if_pos rfl, ← ih]
      congr 1
      change 1 + byteLength rest - 1 = byteLength rest
      omega
    · have within : min c.utf8Size (c.utf8Size + byteLength rest) = c.utf8Size := by omega
      rw [if_neg newline, if_neg newline, ← ih, within, Nat.add_sub_cancel_left]

/-- The place behind a text counts its newlines, and the bytes of its last line. -/
theorem ofOffset_append (before behind : List Char) :
    ofOffset (before ++ behind) (byteLength before) =
      ⟨1 + before.count '\n', 1 + byteLength (lastLine before)⟩ := by
  rw [ofOffset, advance_append]
  -- From the end: one more character moves on a place that is known already.
  induction before using List.reverseRecOn with
  | nil => rfl
  | append_singleton front c ih =>
    rw [List.foldl_append, ih, lastLine_concat, List.count_append]
    by_cases newline : c = '\n'
    · subst newline
      rfl
    · simp [next, newline, byteLength_append, byteLength]
      omega

end Place

end Text

namespace Template

open Text Segment

/-- Segments that are the first ones of others; the last literal may go on there. -/
inductive ContinuedBy : List Segment → List Segment → Prop
  | behind (front others : List Segment) : ContinuedBy front (front ++ others)
  | within (front : List Segment) (text more : String) (others : List Segment) :
      ContinuedBy (front ++ [literal text]) (front ++ literal (text ++ more) :: others)

theorem ContinuedBy.cons {front whole : List Segment} (segment : Segment)
    (continued : ContinuedBy front whole) : ContinuedBy (segment :: front) (segment :: whole) := by
  cases continued with
  | behind front others => exact .behind (segment :: front) others
  | within front text more others => exact .within (segment :: front) text more others

theorem ContinuedBy.consLiteral {front whole : List Segment} (c : Char)
    (continued : ContinuedBy front whole) :
    ContinuedBy (Segment.consLiteral c front) (Segment.consLiteral c whole) := by
  cases continued with
  | behind front others =>
    match front, others with
    | [], [] => exact .behind [_] []
    | [], literal text :: rest => exact .within [] (String.singleton c) text rest
    | [], placeholder path raw :: rest => exact .behind [_] (placeholder path raw :: rest)
    | literal text :: rest, others => exact .behind (_ :: rest) others
    | placeholder path raw :: rest, others =>
      exact .behind (_ :: placeholder path raw :: rest) others
  | within front text more others =>
    match front with
    | [] =>
      have joins : String.singleton c ++ (text ++ more) = String.singleton c ++ text ++ more :=
        (String.append_assoc ..).symm
      simpa only [List.nil_append, Segment.consLiteral, joins] using
        ContinuedBy.within [] (String.singleton c ++ text) more others
    | literal first :: rest => exact .within (_ :: rest) text more others
    | placeholder path raw :: rest =>
      exact .within (_ :: placeholder path raw :: rest) text more others

/-- The first opening braces of a text that begin no placeholder stand between `before` and
`rest`. -/
structure FirstMalformed (s before rest : List Char) : Prop where
  parts : s = before ++ opening ++ rest
  beginsNothing : OpensNothing rest
  accepted : strictSegments before = .ok (lenientSegments before)
  continued : ContinuedBy (lenientSegments before) (lenientSegments s)

/-- The text in front of the first malformed placeholder is accepted. -/
theorem FirstMalformed.parse_before {s before rest : List Char}
    (first : FirstMalformed s before rest) :
    parse (String.ofList before) = .ok ⟨lenientSegments before⟩ := by
  unfold parse
  rw [String.toList_ofList, first.accepted]

/-- Closing braces that are the first ones of a text are so in front of a shorter rest. -/
theorem FirstClosing.shorten {s inner behind shorter : List Char}
    (closed : FirstClosing s inner behind) (front : shorter <+: behind) :
    FirstClosing (inner ++ closing ++ shorter) inner shorter := by
  refine ⟨rfl, fun earlier within => closed.first earlier (within.trans ?_)⟩
  rw [closed.parts]
  exact (List.prefix_append_right_inj _).mpr front

/-- A placeholder in front of the first malformed opening keeps it the first. -/
theorem FirstMalformed.behind_placeholder {inside behind before rest : List Char}
    {segment : Segment} (found : atOpening? inside = some (segment, behind))
    (first : FirstMalformed behind before rest) :
    ∃ whole, FirstMalformed (opening ++ inside) whole rest := by
  obtain ⟨inner, closed, named⟩ := (atOpening?_eq_some_iff _ _ _).mp found
  -- The placeholder is read in front of the shorter text as well, since no closing braces come
  -- earlier there.
  have front : before <+: behind := by
    rw [first.parts, List.append_assoc]
    exact List.prefix_append before _
  have same := (atOpening?_eq_some_iff _ _ _).mpr ⟨inner, closed.shorten front, named⟩
  refine ⟨opening ++ (inner ++ closing ++ before), ?_, first.beginsNothing, ?_, ?_⟩
  · rw [closed.parts, first.parts]
    simp only [List.append_assoc]
  · rw [strictSegments_placeholder same, lenientSegments_placeholder same, first.accepted]
    rfl
  · rw [lenientSegments_placeholder same, lenientSegments_placeholder found]
    exact first.continued.cons segment

theorem FirstMalformed.behind_character {c : Char} {s before rest : List Char}
    (none : NoneBegins (c :: s)) (apart : ¬ opening <+: c :: s)
    (first : FirstMalformed s before rest) : FirstMalformed (c :: s) (c :: before) rest := by
  have front : c :: before <+: c :: s := by
    rw [first.parts, List.append_assoc]
    exact List.prefix_append (c :: before) _
  have apart' : ¬ opening <+: c :: before := fun opened => apart (opened.trans front)
  have none' : NoneBegins (c :: before) := by
    rintro behind same
    exact absurd ⟨behind, same.symm⟩ apart'
  refine ⟨by rw [first.parts]; rfl, first.beginsNothing, ?_, ?_⟩
  · rw [strictSegments_character apart', lenientSegments_character none', first.accepted]
    rfl
  · rw [lenientSegments_character none', lenientSegments_character none]
    exact first.continued.consLiteral c

/-- The strict reading fails at the first malformed placeholder. -/
theorem firstMalformed_of_error {s rest : List Char} (failed : strictSegments s = .error rest) :
    ∃ before, FirstMalformed s before rest := by
  induction s using reading_induction with
  | nil => simp [strictSegments] at failed
  | placeholder inside path raw behind found ih =>
    rw [strictSegments_placeholder found] at failed
    obtain ⟨before, first⟩ := ih (map_eq_error_iff.mp failed)
    exact first.behind_placeholder found
  | character c s none ih =>
    by_cases opened : opening <+: c :: s
    · obtain ⟨inside, whole⟩ := opened
      have begins : OpensNothing inside := none inside whole.symm
      rw [← whole, strictSegments_malformed begins] at failed
      cases failed
      refine ⟨[], whole.symm, begins, ?_, ?_⟩
      · simp [strictSegments, lenientSegments]
      · simpa [lenientSegments] using ContinuedBy.behind [] (lenientSegments (c :: s))
    · rw [strictSegments_character opened] at failed
      obtain ⟨before, first⟩ := ih (map_eq_error_iff.mp failed)
      exact ⟨c :: before, first.behind_character none opened⟩

/-- A rejected text has a first malformed placeholder, and the fault stands behind its braces. -/
theorem exists_firstMalformed {text : String} {fault : Malformed}
    (rejected : parse text = .error fault) :
    ∃ before rest, FirstMalformed text.toList before rest ∧
      fault.place = Place.ofOffset text.toList (byteLength (before ++ opening)) := by
  unfold parse at rejected
  cases read : strictSegments text.toList with
  | ok segments =>
    rw [read] at rejected
    cases rejected
  | error rest =>
    rw [read] at rejected
    obtain ⟨before, first⟩ := firstMalformed_of_error read
    refine ⟨before, rest, first, ?_⟩
    have size : text.utf8ByteSize = byteLength (before ++ opening) + byteLength rest := by
      rw [← byteLength_toList, first.parts, byteLength_append]
    cases rejected
    simp only [size, Nat.add_sub_cancel]

theorem append_opening (before : List Char) :
    before ++ opening = before ++ ['\x7b'] ++ ['\x7b'] := by
  simp [opening]

/-- The place behind opening braces: two columns on from what stands in front of them. -/
theorem ofOffset_opening (before rest : List Char) :
    Place.ofOffset (before ++ opening ++ rest) (byteLength (before ++ opening)) =
      ⟨1 + before.count '\n', 1 + (byteLength (lastLine before) + 2)⟩ := by
  have braces : lastLine (before ++ opening) = lastLine before ++ opening := by
    rw [append_opening, lastLine_concat, lastLine_concat]
    simp [opening]
  have newlines : (before ++ opening).count '\n' = before.count '\n' := by
    simp [opening]
  rw [Place.ofOffset_append, braces, newlines, byteLength_append]
  rfl

/-- A text is rejected for a malformed placeholder only, also when it is read by its parts. The
fault is that of the first one: the text in front of it is accepted, and the reading of that is
where the lenient reading of the whole begins. The line counts the newlines in front of it, and
the column the bytes from the last of them to the end of its opening braces. -/
theorem rejected_at_first_malformed (wording text : String) :
    readParts wording text =
      ((parse text).mapError fun fault =>
        ⟨fault.place, "unterminated or malformed placeholder"⟩) ∧
    ∀ fault, parse text = .error fault →
      ∃ before rest read,
        text.toList = before ++ opening ++ rest ∧ OpensNothing rest ∧
        parse (String.ofList before) = .ok read ∧
        ContinuedBy read.segments (parseLenient text).segments ∧
        fault.place.line = 1 + before.count '\n' ∧
        fault.place.column = 1 + (byteLength (lastLine before) + 2) := by
  refine ⟨readParts_eq wording text, ?_⟩
  intro fault rejected
  obtain ⟨before, rest, first, place⟩ := exists_firstMalformed rejected
  rw [first.parts, ofOffset_opening] at place
  refine ⟨before, rest, ⟨lenientSegments before⟩, first.parts, first.beginsNothing,
    first.parse_before, first.continued, ?_, ?_⟩
  · rw [place]
  · rw [place]

theorem rejected_at_first_malformed_of_debt :
    let text := "Dear \x7b\x7bname\x7d\x7d,\nyou owe \x7b\x7b,\x7d\x7d and \x7b\x7b"
    let fault : Malformed := ⟨⟨2, 11⟩⟩
    parse text = .error fault ∧
    readParts "" text = .error ⟨⟨2, 11⟩, "unterminated or malformed placeholder"⟩ ∧
    ∃ before rest read,
      text.toList = before ++ opening ++ rest ∧ OpensNothing rest ∧
      parse (String.ofList before) = .ok read ∧
      ContinuedBy read.segments (parseLenient text).segments ∧
      fault.place.line = 1 + before.count '\n' ∧
      fault.place.column = 1 + (byteLength (lastLine before) + 2) := by
  intro text fault
  have rejected : parse text = .error fault := by decide +kernel
  obtain ⟨parts, first⟩ := rejected_at_first_malformed "" text
  refine ⟨rejected, ?_, first fault rejected⟩
  rw [parts, rejected]
  rfl

end Template

end Phrasebook
