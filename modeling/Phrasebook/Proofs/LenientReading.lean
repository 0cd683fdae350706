import Mathlib.Data.List.Chain
import Phrasebook.Proofs.Placeholder

/-!
# The lenient reading splits its text greedily

A text is cut into pieces, one for each segment. The pieces make up the text again, every
placeholder ends at the first closing braces it could end at, and no literal holds braces that
could begin a placeholder. The lenient reading is the only split of this kind.
-/
namespace Phrasebook

/-- No literal is empty and no path is. -/
def Segment.Filled : Segment → Prop
  | .literal text => text ≠ ""
  | .placeholder path _ => path ≠ ""

/-- Which segment may stand directly in front of which: no literal stands in front of a literal,
and none that ends in an opening brace in front of a placeholder. -/
def Segment.MayPrecede : Segment → Segment → Prop
  | .literal _, .literal _ => False
  | .literal text, .placeholder _ _ => text.toList.getLast? ≠ some '\x7b'
  | .placeholder _ _, _ => True

/-- Of two segments at least one is a placeholder. -/
def Segment.Apart (one next : Segment) : Prop :=
  ¬ (one.isLiteral = true ∧ next.isLiteral = true)

theorem Segment.MayPrecede.apart {one next : Segment} (step : one.MayPrecede next) :
    one.Apart next := by
  rintro ⟨first, second⟩
  cases one with
  | placeholder path raw => cases first
  | literal text =>
    cases next with
    | placeholder path raw => cases second
    | literal text' => exact step

namespace Template

open Segment

/-- A stretch of a text with the segment that it is read as. -/
structure Piece where
  source : List Char
  segment : Segment

/-- What a piece is when `behind` follows it. A literal is its own source, and none of its
characters begins a placeholder. A placeholder is what the text between its opening braces and
the first closing ones names. -/
def Piece.ReadBefore (piece : Piece) (behind : List Char) : Prop :=
  match piece.segment with
  | literal text =>
    piece.source = text.toList ∧
      ∀ front back, piece.source = front ++ back → back ≠ [] → NoneBegins (back ++ behind)
  | placeholder path raw =>
    ∃ inner, piece.source = opening ++ inner ++ closing ∧ inner ≠ [] ∧
      FirstClosing (inner ++ closing ++ behind) inner behind ∧
      ofInner? inner = some (placeholder path raw)

def sources (pieces : List Piece) : List Char :=
  pieces.flatMap Piece.source

def AllRead : List Piece → Prop
  | [] => True
  | piece :: behind => piece.ReadBefore (sources behind) ∧ AllRead behind

/-- A split of a text into one piece for each segment, with nothing lost, added or reordered, in
which every piece is read as its segment, literals take only what begins no placeholder, and no
two of them are adjacent. -/
structure GreedySplit (text : List Char) (segments : List Segment) (pieces : List Piece) :
    Prop where
  one_each : pieces.map Piece.segment = segments
  covers : sources pieces = text
  read : AllRead pieces
  filled : ∀ segment ∈ segments, segment.Filled
  apart : segments.IsChain Apart

/-! The lenient reader by cases: nothing is left, a placeholder begins, or none begins. -/

theorem lenientSegments_placeholder {rest behind : List Char} {segment : Segment}
    (found : atOpening? rest = some (segment, behind)) :
    lenientSegments (opening ++ rest) = segment :: lenientSegments behind := by
  change lenientSegments ('\x7b' :: '\x7b' :: rest) = _
  rw [lenientSegments]
  split
  · rename_i found'
    rw [found] at found'
    cases found'
    rfl
  · rename_i nothing
    rw [found] at nothing
    cases nothing

theorem lenientSegments_character {c : Char} {s : List Char} (none : NoneBegins (c :: s)) :
    lenientSegments (c :: s) = consLiteral c (lenientSegments s) := by
  rw [lenientSegments.eq_def]
  split
  · rename_i empty
    cases empty
  · rename_i rest same
    cases same
    have nothing := (atOpening?_eq_none_iff rest).mpr (none rest rfl)
    split
    · rename_i found
      rw [nothing] at found
      cases found
    · rfl
  · rename_i same
    cases same
    rfl

/-- Induction along the reader. The two ways in which it takes a character as text, braces that
begin nothing and everything else, are one case. -/
theorem reading_induction {motive : List Char → Prop} (nil : motive [])
    (placeholder : ∀ rest path raw behind, atOpening? rest = some (.placeholder path raw, behind) →
      motive behind → motive (opening ++ rest))
    (character : ∀ c s, NoneBegins (c :: s) → motive s → motive (c :: s)) (s : List Char) :
    motive s := by
  induction s using lenientSegments.induct with
  | case1 => exact nil
  | case2 rest segment behind found _ ih =>
    obtain ⟨inner, -, named⟩ := (atOpening?_eq_some_iff _ _ _).mp found
    obtain ⟨-, rfl⟩ := (ofInner?_eq_some_iff _ _).mp named
    exact placeholder rest _ _ behind found ih
  | case3 rest nothing ih =>
    refine character _ _ ?_ ih
    intro rest' same
    cases same
    exact (atOpening?_eq_none_iff _).mp nothing
  | case4 c rest apart ih =>
    refine character _ _ ?_ ih
    intro rest' same
    cases same
    exact (apart _ rfl rfl).elim

/-- Where no placeholder begins, the reading does not begin with one. -/
theorem lenientSegments_ne_placeholder {s : List Char} (none : NoneBegins s) (path : String)
    (raw : Bool) (behind : List Segment) : lenientSegments s ≠ placeholder path raw :: behind := by
  cases s with
  | nil => simp [lenientSegments]
  | cons c s =>
    rw [lenientSegments_character none]
    unfold consLiteral
    split <;> simp

theorem filled_of_atOpening? {rest behind : List Char} {segment : Segment}
    (found : atOpening? rest = some (segment, behind)) : segment.Filled := by
  obtain ⟨inner, -, named⟩ := (atOpening?_eq_some_iff _ _ _).mp found
  obtain ⟨path, rfl⟩ := (ofInner?_eq_some_iff _ _).mp named
  simpa [Filled] using path

theorem filled_consLiteral {segments : List Segment} (c : Char)
    (filled : ∀ segment ∈ segments, segment.Filled) :
    ∀ segment ∈ consLiteral c segments, segment.Filled := by
  unfold consLiteral
  split
  · simp_all [Filled]
  · simp_all [Filled]

theorem lenientSegments_filled (s : List Char) :
    ∀ segment ∈ lenientSegments s, segment.Filled := by
  induction s using reading_induction with
  | nil => simp [lenientSegments]
  | placeholder rest path raw behind found ih =>
    rw [lenientSegments_placeholder found]
    intro other member
    rcases List.mem_cons.mp member with rfl | member
    · exact filled_of_atOpening? found
    · exact ih other member
  | character c s none ih =>
    rw [lenientSegments_character none]
    exact filled_consLiteral c ih

theorem isChain_consLiteral {segments : List Segment} {c : Char}
    (chain : segments.IsChain MayPrecede) (filled : ∀ segment ∈ segments, segment.Filled)
    (clear : c = '\x7b' → ∀ path raw behind, segments ≠ placeholder path raw :: behind) :
    (consLiteral c segments).IsChain MayPrecede := by
  match segments with
  | [] => simp [consLiteral]
  | placeholder path raw :: behind =>
    have other : c ≠ '\x7b' := fun same => clear same path raw behind rfl
    simp [consLiteral, MayPrecede, other, chain]
  | [literal text] => simp [consLiteral]
  | literal text :: next :: behind =>
    obtain ⟨step, chain⟩ := List.isChain_cons_cons.mp chain
    refine List.isChain_cons_cons.mpr ⟨?_, chain⟩
    cases next with
    | literal text' => exact step
    | placeholder path raw =>
      -- The last character stays the last one, because the literal is not empty.
      have shown : text ≠ "" := filled (literal text) (by simp)
      have characters : text.toList ≠ [] := by simpa using shown
      obtain ⟨first, others, same⟩ := List.exists_cons_of_ne_nil characters
      simpa [MayPrecede, same] using step

/-- No literal read stands in front of another, nor ends in an opening brace in front of a
placeholder. -/
theorem lenientSegments_chain (s : List Char) :
    (lenientSegments s).IsChain MayPrecede := by
  induction s using reading_induction with
  | nil => simp [lenientSegments]
  | placeholder rest path raw behind found ih =>
    rw [lenientSegments_placeholder found]
    cases after : lenientSegments behind with
    | nil => simp
    | cons next others => exact List.isChain_cons_cons.mpr ⟨trivial, after ▸ ih⟩
  | character c s none ih =>
    rw [lenientSegments_character none]
    refine isChain_consLiteral ih (lenientSegments_filled s) ?_
    rintro rfl
    exact lenientSegments_ne_placeholder none.behind_brace

/-! The pieces of the lenient reading. -/

/-- Puts a character in front of pieces, into the literal there if there is one. -/
def extend (c : Char) : List Piece → List Piece
  | ⟨source, .literal text⟩ :: behind =>
    ⟨c :: source, literal (String.singleton c ++ text)⟩ :: behind
  | other => ⟨[c], literal (String.singleton c)⟩ :: other

theorem map_segment_extend (c : Char) (pieces : List Piece) :
    (extend c pieces).map Piece.segment = consLiteral c (pieces.map Piece.segment) := by
  match pieces with
  | [] => rfl
  | ⟨_, .literal _⟩ :: _ => rfl
  | ⟨_, .placeholder _ _⟩ :: _ => rfl

@[simp] theorem sources_cons (piece : Piece) (behind : List Piece) :
    sources (piece :: behind) = piece.source ++ sources behind := List.flatMap_cons

theorem sources_extend (c : Char) (pieces : List Piece) :
    sources (extend c pieces) = c :: sources pieces := by
  match pieces with
  | [] => rfl
  | ⟨_, .literal _⟩ :: _ => rfl
  | ⟨_, .placeholder _ _⟩ :: _ => rfl

/-- A literal of one character. -/
theorem readBefore_singleton {c : Char} {behind : List Char} (none : NoneBegins (c :: behind)) :
    (⟨[c], literal (String.singleton c)⟩ : Piece).ReadBefore behind := by
  refine ⟨by simp, ?_⟩
  intro front back cut shown
  cases front with
  | nil =>
    subst cut
    exact none
  | cons d front =>
    have empty : back = [] := by simp_all
    exact absurd empty shown

/-- A literal with one more character in front. -/
theorem readBefore_cons {c : Char} {source behind : List Char} {text : String}
    (read : (⟨source, literal text⟩ : Piece).ReadBefore behind)
    (none : NoneBegins (c :: (source ++ behind))) :
    (⟨c :: source, literal (String.singleton c ++ text)⟩ : Piece).ReadBefore behind := by
  obtain ⟨same, inside⟩ := read
  refine ⟨by simpa using same, ?_⟩
  intro front back cut shown
  cases front with
  | nil =>
    subst cut
    exact none
  | cons d front =>
    exact inside front back (List.cons.inj cut).2 shown

theorem allRead_extend {c : Char} {pieces : List Piece} (read : AllRead pieces)
    (none : NoneBegins (c :: sources pieces)) : AllRead (extend c pieces) := by
  match pieces with
  | [] => exact ⟨readBefore_singleton none, read⟩
  | ⟨_, .placeholder _ _⟩ :: _ => exact ⟨readBefore_singleton none, read⟩
  | ⟨_, .literal _⟩ :: _ => exact ⟨readBefore_cons read.1 (by simpa using none), read.2⟩

/-- Every text is made up of pieces that are read as its segments. -/
theorem exists_pieces (s : List Char) :
    ∃ pieces, pieces.map Piece.segment = lenientSegments s ∧ sources pieces = s ∧
      AllRead pieces := by
  induction s using reading_induction with
  | nil => exact ⟨[], by simp [lenientSegments], rfl, trivial⟩
  | placeholder rest path raw behind found ih =>
    obtain ⟨pieces, each, covers, read⟩ := ih
    obtain ⟨inner, closed, named⟩ := (atOpening?_eq_some_iff _ _ _).mp found
    refine ⟨⟨opening ++ inner ++ closing, placeholder path raw⟩ :: pieces, ?_, ?_, ?_, read⟩
    · rw [List.map_cons, each, lenientSegments_placeholder found]
    · rw [sources_cons, covers, closed.parts]
      simp [List.append_assoc]
    · refine ⟨inner, rfl, inner_ne_nil_of_ofInner? named, ?_, named⟩
      rw [covers, ← closed.parts]
      exact closed
  | character c s none ih =>
    obtain ⟨pieces, each, covers, read⟩ := ih
    subst covers
    refine ⟨extend c pieces, ?_, sources_extend c pieces, allRead_extend read none⟩
    rw [map_segment_extend, each, lenientSegments_character none]

/-! A greedy split determines the segments. -/

/-- A text in which no placeholder begins is read as one literal, unless a literal follows. -/
theorem lenientSegments_literal {text behind : List Char} (shown : text ≠ [])
    (inside : ∀ front back, text = front ++ back → back ≠ [] → NoneBegins (back ++ behind))
    (apart : ∀ text' others, lenientSegments behind ≠ literal text' :: others) :
    lenientSegments (text ++ behind) =
      literal (String.ofList text) :: lenientSegments behind := by
  induction text with
  | nil => exact absurd rfl shown
  | cons c rest ih =>
    have none : NoneBegins (c :: (rest ++ behind)) := inside [] (c :: rest) rfl shown
    rw [List.cons_append, lenientSegments_character none]
    by_cases empty : rest = []
    · subst empty
      rw [List.nil_append, consLiteral]
      · rfl
      · exact apart
    · have tail := ih empty (fun front back cut => inside (c :: front) back (by rw [cut]; rfl))
      have joined : String.singleton c ++ String.ofList rest = String.ofList (c :: rest) := by
        rw [← String.toList_inj]
        simp
      rw [tail, consLiteral, joined]

/-- Pieces that are read as their segments are what the lenient reader makes of their text. -/
theorem lenientSegments_sources {pieces : List Piece} (read : AllRead pieces)
    (filled : ∀ segment ∈ pieces.map Piece.segment, segment.Filled)
    (apart : (pieces.map Piece.segment).IsChain Apart) :
    lenientSegments (sources pieces) = pieces.map Piece.segment := by
  induction pieces with
  | nil => simp [sources, lenientSegments]
  | cons piece behind ih =>
    have tail := ih read.2 (fun segment member => filled segment (by simp [member])) apart.tail
    obtain ⟨source, segment⟩ := piece
    have reading := read.1
    rw [sources_cons, List.map_cons, ← tail]
    cases segment with
    | literal text =>
      obtain ⟨rfl, inside⟩ := reading
      have characters : text.toList ≠ [] := by
        simpa [Filled] using filled (literal text) (by simp)
      have next : ∀ text' others, lenientSegments (sources behind) ≠ literal text' :: others := by
        intro text' others same
        rw [List.map_cons, ← tail, same] at apart
        exact (List.isChain_cons_cons.mp apart).1 ⟨rfl, rfl⟩
      rw [lenientSegments_literal characters inside next, String.ofList_toList]
    | placeholder path raw =>
      obtain ⟨inner, rfl, -, closed, named⟩ := reading
      have found := (atOpening?_eq_some_iff _ _ _).mpr ⟨inner, closed, named⟩
      rw [← lenientSegments_placeholder found]
      simp only [List.append_assoc]

/-- The lenient reading of a text is its one greedy split: the pieces make up the text, each
literal piece is the literal, each placeholder piece ends at the first closing braces and is what
the text between its braces names, braces inside literals begin no placeholder, and no literal and
no path is empty, nor are two literals adjacent. -/
theorem parseLenient_iff_greedySplit (text : String) (segments : List Segment) :
    (parseLenient text).segments = segments ↔
      ∃ pieces, GreedySplit text.toList segments pieces := by
  constructor
  · rintro rfl
    obtain ⟨pieces, each, covers, read⟩ := exists_pieces text.toList
    refine ⟨pieces, each, covers, read, lenientSegments_filled _, ?_⟩
    exact (lenientSegments_chain text.toList).imp fun _ _ => MayPrecede.apart
  · rintro ⟨pieces, split⟩
    obtain ⟨rfl, covers, read, filled, apart⟩ := split
    rw [parseLenient, ← covers, lenientSegments_sources read filled apart]

/-- The braces in front of the comma begin nothing, as no path stands before it; the next two do. -/
example : (parseLenient "\x7b\x7b,\x7b\x7ba\x7d\x7d").segments =
    [literal "\x7b\x7b,", placeholder "a" false] := by decide +kernel

end Template

end Phrasebook
