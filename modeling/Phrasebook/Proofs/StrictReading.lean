import Phrasebook.Catalog.Entry
import Phrasebook.Proofs.LenientReading
import Phrasebook.Proofs.Results

/-!
# The strict reading agrees with the lenient one

The two readings take the same steps until the strict one meets opening braces that begin no
placeholder. The lenient one takes both of these braces into one literal, since a malformed
placeholder never hides a well-formed one behind its first brace. So the literals of the lenient
reading show whether the strict one succeeds.
-/
namespace Phrasebook

/-- A literal that holds no opening braces, or a placeholder. -/
def Segment.Clear : Segment → Prop
  | .literal text => ¬ Template.opening <:+: text.toList
  | .placeholder _ _ => True

namespace Template

open Segment

/-- Some literal of a template holds opening braces. -/
def HoldsOpening (t : Template) : Prop :=
  ∃ text, literal text ∈ t.segments ∧ opening <:+: text.toList

theorem not_holdsOpening_iff (t : Template) :
    ¬ t.HoldsOpening ↔ ∀ segment ∈ t.segments, segment.Clear := by
  constructor
  · intro absent segment member
    cases segment with
    | literal text => exact fun held => absent ⟨text, member, held⟩
    | placeholder path raw => trivial
  · rintro clear ⟨text, member, held⟩
    exact clear _ member held

theorem strictSegments_placeholder {rest behind : List Char} {segment : Segment}
    (found : atOpening? rest = some (segment, behind)) :
    strictSegments (opening ++ rest) = (strictSegments behind).map (segment :: ·) := by
  change strictSegments ('\x7b' :: '\x7b' :: rest) = _
  rw [strictSegments]
  split
  · rename_i found'
    rw [found] at found'
    cases found'
    rfl
  · rename_i nothing
    rw [found] at nothing
    cases nothing

/-- Strict reading stops at the first opening that begins no placeholder. -/
theorem strictSegments_malformed {rest : List Char} (nothing : OpensNothing rest) :
    strictSegments (opening ++ rest) = .error rest := by
  have unread := (atOpening?_eq_none_iff rest).mpr nothing
  change strictSegments ('\x7b' :: '\x7b' :: rest) = _
  rw [strictSegments]
  split
  · rename_i found
    rw [unread] at found
    cases found
  · rfl

theorem strictSegments_character {c : Char} {s : List Char} (apart : ¬ opening <+: c :: s) :
    strictSegments (c :: s) = (strictSegments s).map (consLiteral c) := by
  apply strictSegments.eq_3
  rintro rest rfl rfl
  exact apart ⟨rest, rfl⟩

def leading? : List Segment → Option Char
  | literal text :: _ => text.toList.head?
  | _ => none

theorem leading?_consLiteral (c : Char) (segments : List Segment) :
    leading? (consLiteral c segments) = some c := by
  unfold consLiteral
  split <;> simp [leading?]

/-- A literal at the front of a reading begins as the text does. -/
theorem head?_of_leading?_lenientSegments {s : List Char} {c : Char}
    (led : leading? (lenientSegments s) = some c) : s.head? = some c := by
  cases s using reading_induction with
  | nil => simp [lenientSegments, leading?] at led
  | placeholder rest path raw behind found =>
    rw [lenientSegments_placeholder found] at led
    cases led
  | character d s none =>
    rw [lenientSegments_character none, leading?_consLiteral] at led
    exact led

theorem clear_singleton (c : Char) : (literal (String.singleton c)).Clear := by
  have absent : ¬ opening <:+: [c] := by
    rw [opening_infix_cons_iff]
    simp [opening]
  simpa [Clear] using absent

theorem clear_consLiteral_iff (c : Char) (segments : List Segment) :
    (∀ segment ∈ consLiteral c segments, segment.Clear) ↔
      (∀ segment ∈ segments, segment.Clear) ∧
        ¬ (c = '\x7b' ∧ leading? segments = some '\x7b') := by
  match segments with
  | [] => simp [consLiteral, clear_singleton, leading?]
  | placeholder path raw :: behind => simp [consLiteral, clear_singleton, leading?]
  | literal text :: behind =>
    simp only [consLiteral, Clear, leading?, List.forall_mem_cons, String.toList_append,
      String.toList_singleton, List.singleton_append, opening_infix_cons_iff, not_or]
    tauto

/-- Both braces that begin nothing go into one literal, as the second begins nothing either. -/
theorem not_clear_of_malformed {rest : List Char} (none : NoneBegins (opening ++ rest)) :
    ¬ ∀ segment ∈ lenientSegments (opening ++ rest), segment.Clear := by
  have first : NoneBegins ('\x7b' :: '\x7b' :: rest) := none
  have second : NoneBegins ('\x7b' :: rest) := first.behind_brace
  change ¬ ∀ segment ∈ lenientSegments ('\x7b' :: '\x7b' :: rest), segment.Clear
  rw [lenientSegments_character first, clear_consLiteral_iff, lenientSegments_character second,
    leading?_consLiteral]
  rintro ⟨-, apart⟩
  exact apart ⟨rfl, rfl⟩

/-- A character that is not the first of two opening braces leaves literals clear. -/
theorem clear_consLiteral_lenientSegments_iff {c : Char} {s : List Char}
    (apart : ¬ opening <+: c :: s) :
    (∀ segment ∈ consLiteral c (lenientSegments s), segment.Clear) ↔
      ∀ segment ∈ lenientSegments s, segment.Clear := by
  rw [clear_consLiteral_iff]
  constructor
  · rintro ⟨clear, -⟩
    exact clear
  · intro clear
    refine ⟨clear, ?_⟩
    rintro ⟨brace, led⟩
    exact apart ((opening_prefix_cons_iff c s).mpr
      ⟨brace, head?_of_leading?_lenientSegments led⟩)

/-- The strict reading succeeds exactly where the lenient one has clear literals, and then is the
same. -/
theorem strictSegments_eq_ok_iff (s : List Char) (segments : List Segment) :
    strictSegments s = .ok segments ↔
      segments = lenientSegments s ∧ ∀ segment ∈ lenientSegments s, segment.Clear := by
  induction s using reading_induction generalizing segments with
  | nil => simp [strictSegments, lenientSegments, eq_comm]
  | placeholder rest path raw behind found ih =>
    rw [strictSegments_placeholder found, lenientSegments_placeholder found, map_eq_ok_iff,
      List.forall_mem_cons]
    constructor
    · rintro ⟨others, read, rfl⟩
      obtain ⟨rfl, clear⟩ := (ih others).mp read
      exact ⟨rfl, trivial, clear⟩
    · rintro ⟨rfl, -, clear⟩
      exact ⟨_, (ih _).mpr ⟨rfl, clear⟩, rfl⟩
  | character c s none ih =>
    by_cases opened : opening <+: c :: s
    · obtain ⟨rest, whole⟩ := opened
      rw [← whole] at none ⊢
      rw [strictSegments_malformed (none rest rfl)]
      constructor
      · intro failed
        cases failed
      · rintro ⟨-, clear⟩
        exact absurd clear (not_clear_of_malformed none)
    · rw [strictSegments_character opened, lenientSegments_character none, map_eq_ok_iff,
        clear_consLiteral_lenientSegments_iff opened]
      constructor
      · rintro ⟨others, read, rfl⟩
        obtain ⟨rfl, clear⟩ := (ih others).mp read
        exact ⟨rfl, clear⟩
      · rintro ⟨rfl, clear⟩
        exact ⟨_, (ih _).mpr ⟨rfl, clear⟩, rfl⟩

/-- Strict reading accepts a text when lenient reading leaves no opening braces in a literal, and
both then give the same template. -/
theorem parse_eq_ok_iff (text : String) (t : Template) :
    parse text = .ok t ↔ t = parseLenient text ∧ ¬ (parseLenient text).HoldsOpening := by
  rw [not_holdsOpening_iff]
  unfold parse parseLenient
  cases read : strictSegments text.toList with
  | ok segments =>
    obtain ⟨rfl, clear⟩ := (strictSegments_eq_ok_iff _ _).mp read
    simp only [Except.ok.injEq]
    constructor
    · rintro rfl
      exact ⟨rfl, clear⟩
    · rintro ⟨rfl, -⟩
      rfl
  | error behind =>
    constructor
    · intro failed
      cases failed
    · rintro ⟨-, clear⟩
      rw [(strictSegments_eq_ok_iff _ _).mpr ⟨rfl, clear⟩] at read
      cases read

theorem malformed_ofText_iff (text : String) :
    (Entry.ofText text).malformed = true ↔ (Entry.ofText text).template.HoldsOpening := by
  unfold Entry.ofText
  cases read : parse text with
  | ok t =>
    obtain ⟨rfl, clear⟩ := (parse_eq_ok_iff text t).mp read
    simp [clear]
  | error fault =>
    simp only [true_iff]
    by_contra clear
    rw [(parse_eq_ok_iff text _).mpr ⟨rfl, clear⟩] at read
    cases read

/-- The strict reading succeeds on the texts whose lenient reading has no opening braces in a
literal, and is the lenient reading there. An entry is malformed if a literal of its template holds
opening braces. -/
theorem parse_agrees_with_parseLenient (text : String) :
    ((∃ t, parse text = .ok t) ↔ ¬ (parseLenient text).HoldsOpening) ∧
    (∀ t, parse text = .ok t ↔ t = parseLenient text ∧ ¬ (parseLenient text).HoldsOpening) ∧
    ((Entry.ofText text).malformed = true ↔ (Entry.ofText text).template.HoldsOpening) := by
  refine ⟨?_, parse_eq_ok_iff text, malformed_ofText_iff text⟩
  constructor
  · rintro ⟨t, read⟩
    exact ((parse_eq_ok_iff text t).mp read).2
  · intro clear
    exact ⟨_, (parse_eq_ok_iff text _).mpr ⟨rfl, clear⟩⟩

end Template

end Phrasebook
