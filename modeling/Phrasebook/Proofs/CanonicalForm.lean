import Phrasebook.Proofs.StrictReading

/-!
# The canonical form of templates

A template is printed with its literals as they are and its paths between blanks. The strict
reading gives back what was printed exactly for the canonical templates, and canonical templates
are all that it gives.
-/
namespace Phrasebook

open Text Template

/-- The text between the braces of a printed placeholder. -/
def Segment.printedInner (path : String) (raw : Bool) : List Char :=
  (if raw then ['-', ' '] else [' ']) ++ path.toList ++ [' ']

def Segment.print : Segment → List Char
  | .literal text => text.toList
  | .placeholder path raw => opening ++ printedInner path raw ++ closing

/-- A literal is not empty and holds no opening braces. A path is not empty, is trimmed and holds
neither commas nor closing braces; without the mark of raw placeholders it begins with no minus. -/
def Segment.Canonical : Segment → Prop
  | .literal text => text ≠ "" ∧ ¬ opening <:+: text.toList
  | .placeholder path raw =>
    path ≠ "" ∧ trim path = path ∧ ',' ∉ path.toList ∧ ¬ closing <:+: path.toList ∧
      (raw = false → path.toList.head? ≠ some '-')

namespace Template

open Segment

def print (t : Template) : String :=
  String.ofList (t.segments.flatMap Segment.print)

structure Canonical (t : Template) : Prop where
  each : ∀ segment ∈ t.segments, segment.Canonical
  order : t.segments.IsChain MayPrecede

/-! Printed placeholders. -/

/-- Closing braces behind an inner text that neither holds nor begins any are the first ones. -/
theorem firstClosing_of_absent {inner : List Char} (behind : List Char)
    (absent : ¬ closing <:+: inner ++ ['\x7d']) :
    FirstClosing (inner ++ closing ++ behind) inner behind := by
  induction inner with
  | nil => exact firstClosing_nil behind
  | cons c inner ih =>
    rw [List.cons_append, closing_infix_cons_iff, not_or] at absent
    obtain ⟨first, later⟩ := absent
    refine (ih later).cons ?_
    rw [closing_prefix_cons_iff]
    rintro ⟨brace, next⟩
    apply first
    refine ⟨brace, ?_⟩
    cases inner with
    | nil => rfl
    | cons d inner => exact next

theorem closing_infix_blank_iff (s : List Char) :
    closing <:+: s ++ [' ', '\x7d'] ↔ closing <:+: s := by
  induction s with
  | nil => simp [closing_infix_cons_iff]
  | cons c s ih =>
    have next : (s ++ [' ', '\x7d']).head? = some '\x7d' ↔ s.head? = some '\x7d' := by
      cases s <;> simp
    rw [List.cons_append, closing_infix_cons_iff, closing_infix_cons_iff, ih, next]

theorem closing_infix_printedInner_iff (path : String) (raw : Bool) :
    closing <:+: printedInner path raw ++ ['\x7d'] ↔ closing <:+: path.toList := by
  rw [← closing_infix_blank_iff path.toList]
  cases raw <;> simp [printedInner, closing_infix_cons_iff]

theorem trimmed_printedInner {path : String} {raw : Bool} (shown : path ≠ "")
    (same : trim path = path) :
    trimmed (printedInner path raw) = (if raw then ['-', ' '] else []) ++ path.toList := by
  rw [printedInner, trimmed_concat_blank (by decide)]
  cases raw with
  | false =>
    simpa [trimmed_cons_blank (show isBlank ' ' = true by decide)] using
      (trim_eq_self_iff path).mp same
  | true =>
    apply trimmed_eq_self
    · intro c first
      cases first
      decide
    · intro c last
      apply getLast?_trimmed_not_blank (s := path.toList)
      rw [(trim_eq_self_iff path).mp same]
      have characters : path.toList ≠ [] := by simpa using shown
      obtain ⟨d, rest, path'⟩ := List.exists_cons_of_ne_nil characters
      rw [path'] at last ⊢
      simpa using last

theorem withoutMinus_of_head? {s : List Char} (other : s.head? ≠ some '-') :
    withoutMinus s = s := by
  unfold withoutMinus
  split
  · simp at other
  · rfl

theorem namedPath_printedInner {path : String} {raw : Bool}
    (canonical : (placeholder path raw).Canonical) :
    namedPath (printedInner path raw) = path.toList := by
  obtain ⟨shown, same, noComma, -, noMinus⟩ := canonical
  have whole : path.toList.takeWhile (· ≠ ',') = path.toList := by
    rw [List.takeWhile_eq_self_iff]
    intro c member
    have other : c ≠ ',' := fun comma => noComma (comma ▸ member)
    simpa using other
  have fixed : trimmed path.toList = path.toList := (trim_eq_self_iff path).mp same
  rw [namedPath, trimmed_printedInner shown same]
  cases raw with
  | false =>
    change trimmed ((withoutMinus path.toList).takeWhile (· ≠ ',')) = path.toList
    rw [withoutMinus_of_head? (noMinus rfl), whole, fixed]
  | true =>
    change trimmed ((' ' :: path.toList).takeWhile (· ≠ ',')) = path.toList
    rw [List.takeWhile_cons_of_pos (by decide), whole, trimmed_cons_blank (by decide), fixed]

theorem ofInner?_printedInner {path : String} {raw : Bool}
    (canonical : (placeholder path raw).Canonical) :
    ofInner? (printedInner path raw) = some (placeholder path raw) := by
  have path' := namedPath_printedInner canonical
  obtain ⟨shown, same, -, -, noMinus⟩ := canonical
  have marked : marksRaw (printedInner path raw) = raw := by
    rw [marksRaw, trimmed_printedInner shown same]
    cases raw with
    | false => simpa using noMinus rfl
    | true => simp
  rw [ofInner?_eq_some_iff, path', marked, String.ofList_toList]
  exact ⟨by simpa using shown, rfl⟩

/-! A canonical template is the greedy split of its print. -/

def printedPieces (segments : List Segment) : List Piece :=
  segments.map fun segment => ⟨segment.print, segment⟩

theorem sources_printedPieces (segments : List Segment) :
    sources (printedPieces segments) = segments.flatMap Segment.print := by
  simp [sources, printedPieces, List.flatMap_map]

/-- Opening braces cannot begin in a canonical literal: they are not inside it, and its last
character is no opening brace if a placeholder follows. -/
theorem noneBegins_in_literal {text : String} {behind : List Segment} {front back : List Char}
    (clear : ¬ opening <:+: text.toList) (order : (literal text :: behind).IsChain MayPrecede)
    (cut : text.toList = front ++ back) (shown : back ≠ []) :
    NoneBegins (back ++ behind.flatMap Segment.print) := by
  intro rest whole
  cases back with
  | nil => exact absurd rfl shown
  | cons c back =>
    cases back with
    | cons d back =>
      have inside : opening <+: c :: d :: back := by
        simp only [opening, List.cons_append, List.nil_append, List.cons.injEq] at whole
        simp [opening, whole.1, whole.2.1]
      exact absurd (inside.isInfix.trans ⟨front, [], by simp [cut]⟩) clear
    | nil =>
      simp only [opening, List.cons_append, List.nil_append, List.cons.injEq] at whole
      cases behind with
      | nil => simp at whole
      | cons next others =>
        have step := (List.isChain_cons_cons.mp order).1
        cases next with
        | literal text' => exact step.elim
        | placeholder path raw =>
          have last : text.toList.getLast? = some '\x7b' := by simp [cut, whole.1]
          exact absurd last step

theorem allRead_printedPieces {segments : List Segment}
    (canonical : ∀ segment ∈ segments, segment.Canonical)
    (order : segments.IsChain MayPrecede) : AllRead (printedPieces segments) := by
  induction segments with
  | nil => trivial
  | cons segment behind ih =>
    have this := canonical segment (by simp)
    refine ⟨?_, ih (fun other member => canonical other (by simp [member])) order.tail⟩
    change Piece.ReadBefore ⟨segment.print, segment⟩ (sources (printedPieces behind))
    rw [sources_printedPieces]
    cases segment with
    | literal text =>
      exact ⟨rfl, fun front back cut shown => noneBegins_in_literal this.2 order cut shown⟩
    | placeholder path raw =>
      have absent : ¬ closing <:+: printedInner path raw ++ ['\x7d'] := by
        rw [closing_infix_printedInner_iff]
        exact this.2.2.2.1
      refine ⟨printedInner path raw, rfl, ?_, firstClosing_of_absent _ absent,
        ofInner?_printedInner this⟩
      simp [printedInner]

/-! What the reader makes of a placeholder is canonical. -/

theorem FirstClosing.absent {s inner behind : List Char} (closed : FirstClosing s inner behind) :
    ¬ closing <:+: inner := by
  rintro ⟨earlier, later, whole⟩
  have within : earlier ++ closing <+: s := by
    refine ⟨later ++ closing ++ behind, ?_⟩
    rw [closed.parts, ← whole]
    simp only [List.append_assoc]
  have bound := closed.first earlier within
  rw [← whole] at bound
  simp only [List.length_append, closing, List.length_cons, List.length_nil] at bound
  omega

theorem withoutMinus_behind (s : List Char) : withoutMinus s <:+ s := by
  unfold withoutMinus
  split
  · exact List.suffix_cons _ _
  · exact List.suffix_rfl

theorem namedPath_within (inner : List Char) : namedPath inner <:+: inner := by
  have cut : (withoutMinus (trimmed inner)).takeWhile (· ≠ ',') <:+: trimmed inner :=
    (List.takeWhile_prefix _).isInfix.trans (withoutMinus_behind _).isInfix
  exact ((trimmed_within _).trans cut).trans (trimmed_within inner)

theorem comma_not_mem_namedPath (inner : List Char) : ',' ∉ namedPath inner := by
  intro member
  have kept := (trimmed_within _).subset member
  simpa using List.mem_takeWhile_imp kept

/-- A path that no minus sign marks as raw begins with the first character of the trimmed text. -/
theorem head?_namedPath {inner : List Char} (unmarked : (trimmed inner).head? ≠ some '-')
    (named : namedPath inner ≠ []) : (namedPath inner).head? = (trimmed inner).head? := by
  rw [namedPath, withoutMinus_of_head? unmarked] at named ⊢
  cases body : trimmed inner with
  | nil => rfl
  | cons c rest =>
    rw [body] at named
    have shown : isBlank c = false := head?_trimmed_not_blank (by rw [body]; rfl)
    by_cases comma : c = ','
    · subst comma
      exact absurd rfl named
    · rw [List.takeWhile_cons_of_pos (by simpa using comma)]
      exact head?_trimmed_cons shown _

/-- Every placeholder that is read is canonical. -/
theorem canonical_of_ofInner? {s inner behind : List Char} {segment : Segment}
    (closed : FirstClosing s inner behind) (read : ofInner? inner = some segment) :
    segment.Canonical := by
  obtain ⟨named, rfl⟩ := (ofInner?_eq_some_iff _ _).mp read
  refine ⟨by simpa using named, ?_, ?_, ?_, ?_⟩
  · rw [trim_eq_self_iff, String.toList_ofList, namedPath, trimmed_trimmed]
  · rw [String.toList_ofList]
    exact comma_not_mem_namedPath inner
  · rw [String.toList_ofList]
    exact fun held => closed.absent (held.trans (namedPath_within inner))
  · intro unmarked
    have other : (trimmed inner).head? ≠ some '-' := by simpa [marksRaw] using unmarked
    rw [String.toList_ofList, head?_namedPath other named]
    exact other

theorem canonical_of_placeholder_mem {s : List Char} {path : String} {raw : Bool}
    (member : placeholder path raw ∈ lenientSegments s) : (placeholder path raw).Canonical := by
  induction s using reading_induction with
  | nil => simp [lenientSegments] at member
  | placeholder rest path' raw' behind found ih =>
    rw [lenientSegments_placeholder found] at member
    rcases List.mem_cons.mp member with same | member
    · obtain ⟨inner, closed, read⟩ := (atOpening?_eq_some_iff _ _ _).mp found
      rw [same]
      exact canonical_of_ofInner? closed read
    · exact ih member
  | character c s none ih =>
    rw [lenientSegments_character none] at member
    apply ih
    unfold consLiteral at member
    split at member <;> simp_all

/-- Only opening braces left in a literal keep a text that is read leniently from being canonical.
-/
theorem canonical_parseLenient_iff (text : String) :
    (parseLenient text).Canonical ↔ ¬ (parseLenient text).HoldsOpening := by
  rw [not_holdsOpening_iff]
  constructor
  · intro canonical segment member
    cases segment with
    | literal text' => exact (canonical.each _ member).2
    | placeholder path raw => trivial
  · intro clear
    refine ⟨?_, lenientSegments_chain _⟩
    intro segment member
    cases segment with
    | literal text' => exact ⟨lenientSegments_filled _ _ member, clear _ member⟩
    | placeholder path raw => exact canonical_of_placeholder_mem member

/-- A canonical template is read back from its print. -/
theorem parseLenient_print {t : Template} (canonical : t.Canonical) :
    parseLenient t.print = t := by
  have read := allRead_printedPieces canonical.each canonical.order
  have same : (printedPieces t.segments).map Piece.segment = t.segments := by
    simp [printedPieces, Function.comp_def]
  have segments := lenientSegments_sources read
    (by
      rw [same]
      intro segment member
      cases segment <;> exact (canonical.each _ member).1)
    (by
      rw [same]
      exact canonical.order.imp fun _ _ => MayPrecede.apart)
  rw [sources_printedPieces, same] at segments
  rw [parseLenient, print, String.toList_ofList, segments]

theorem parse_print {t : Template} (canonical : t.Canonical) : parse t.print = .ok t := by
  have lenient := parseLenient_print canonical
  rw [parse_eq_ok_iff, ← canonical_parseLenient_iff, lenient]
  exact ⟨rfl, canonical⟩

theorem canonical_of_parse {text : String} {t : Template} (read : parse text = .ok t) :
    t.Canonical := by
  obtain ⟨rfl, clear⟩ := (parse_eq_ok_iff text t).mp read
  exact (canonical_parseLenient_iff text).mpr clear

/-- The canonical templates are the ones that are read back from their print, and the ones that
the strict reading gives. So printing and reading again changes no reading. -/
theorem canonical_iff_parse_print :
    (∀ t : Template, t.Canonical ↔ parse t.print = .ok t) ∧
    (∀ t : Template, t.Canonical ↔ ∃ text, parse text = .ok t) ∧
    ∀ text, ((parse text).bind fun t => parse t.print) = parse text := by
  refine ⟨fun t => ⟨parse_print, canonical_of_parse⟩, fun t => ⟨?_, ?_⟩, fun text => ?_⟩
  · intro canonical
    exact ⟨t.print, parse_print canonical⟩
  · rintro ⟨text, read⟩
    exact canonical_of_parse read
  · cases read : parse text with
    | error fault => rfl
    | ok t => exact parse_print (canonical_of_parse read)

end Template

end Phrasebook
