import Mathlib.Data.List.Infix
import Phrasebook.CommandLine.Report
import Phrasebook.Proofs.FirstMalformed

/-!
# From a place back to its offset

The offset of a place is found by adding up the lines above it, each with one byte for its end. A
line that ends in a carriage return and a newline has two, so the offset falls short of the one
that the place was taken at by one byte for each such line above. A report on a malformed
placeholder points right behind its braces exactly if no line above ends in this way.
-/
namespace Phrasebook

namespace Text

/-- How often a carriage return stands in front of a newline. -/
def returnCount (s : List Char) : Nat :=
  s.tails.countP fun tail => ['\r', '\n'] <+: tail

theorem returnCount_eq_zero_iff (s : List Char) :
    returnCount s = 0 ↔ ¬ ['\r', '\n'] <:+: s := by
  simp only [returnCount, List.countP_eq_zero, List.mem_tails, decide_eq_true_eq,
    List.infix_iff_prefix_suffix]
  constructor
  · rintro none ⟨tail, front, behind⟩
    exact none tail behind front
  · intro none tail behind front
    exact none ⟨tail, front, behind⟩

theorem returnCount_cons (c : Char) (s : List Char) :
    returnCount (c :: s) = returnCount s + if c = '\r' ∧ s.head? = some '\n' then 1 else 0 := by
  have front : ['\r', '\n'] <+: c :: s ↔ c = '\r' ∧ s.head? = some '\n' := by
    cases s with
    | nil => simp
    | cons d rest => simp [eq_comm]
  simp only [returnCount, List.tails_cons, List.countP_cons, decide_eq_true_eq, front]

theorem returnCount_concat (s : List Char) (c : Char) :
    returnCount (s ++ [c]) =
      returnCount s + if s.getLast? = some '\r' ∧ c = '\n' then 1 else 0 := by
  induction s with
  | nil => simp [returnCount_cons]
  | cons d rest ih =>
    rw [List.cons_append, returnCount_cons, returnCount_cons, ih]
    cases rest with
    | nil => simp [returnCount]
    | cons e others =>
      rw [List.getLast?_cons_cons, List.cons_append, List.head?_cons, List.head?_cons]
      exact Nat.add_right_comm _ _ _

/-- A text has no newline, or its last line stands behind one. -/
theorem lastLine_cases (s : List Char) :
    ('\n' ∉ s ∧ lastLine s = s) ∨
      ∃ front, s = front ++ '\n' :: lastLine s ∧ '\n' ∉ lastLine s := by
  induction s using List.reverseRecOn with
  | nil => exact .inl ⟨by simp, rfl⟩
  | append_singleton s c ih =>
    rw [lastLine_concat]
    by_cases newline : c = '\n'
    · subst newline
      exact .inr ⟨s, by simp⟩
    · rw [if_neg newline]
      rcases ih with ⟨absent, same⟩ | ⟨front, same, absent⟩
      · refine .inl ⟨?_, by rw [same]⟩
        simp [absent, Ne.symm newline]
      · refine .inr ⟨front, ?_, ?_⟩
        · conv_lhs => rw [same]
          simp
        · simp [absent, Ne.symm newline]

namespace Place

/-- What goes on without a newline goes on in the last line. -/
theorem splitOn_append_of_not_mem (s : List Char) {more : List Char} (plain : '\n' ∉ more) :
    (s ++ more).splitOn '\n' = (s.splitOn '\n').dropLast ++ [lastLine s ++ more] := by
  rcases lastLine_cases s with ⟨absent, same⟩ | ⟨front, same, absent⟩
  · have still : '\n' ∉ s ++ more := by simp [absent, plain]
    rw [List.splitOn_eq_singleton absent, List.splitOn_eq_singleton still, same]
    rfl
  · have still : '\n' ∉ lastLine s ++ more := by simp [absent, plain]
    have whole : s ++ more = front ++ '\n' :: (lastLine s ++ more) := by
      conv_lhs => rw [same]
      simp
    have pieces : s.splitOn '\n' = front.splitOn '\n' ++ [lastLine s] := by
      conv_lhs => rw [same]
      rw [List.splitOn_append_cons_self, List.splitOn_eq_singleton absent]
    rw [whole, List.splitOn_append_cons_self, List.splitOn_eq_singleton still, pieces,
      List.dropLast_concat]

/-- A newline ends the last line, and another character ends none. -/
theorem endedLines_concat (s : List Char) (c : Char) :
    endedLines (s ++ [c]) =
      if c = '\n' then endedLines s ++ [withoutReturn (lastLine s)] else endedLines s := by
  unfold endedLines
  by_cases newline : c = '\n'
  · subst newline
    have pieces := splitOn_append_of_not_mem s (List.not_mem_nil (a := '\n'))
    rw [List.append_nil, List.append_nil] at pieces
    rw [if_pos rfl, List.splitOn_append_cons_self, List.splitOn_nil, List.dropLast_concat]
    conv_lhs => rw [pieces]
    simp
  · have plain : '\n' ∉ [c] := by simp [Ne.symm newline]
    rw [if_neg newline, splitOn_append_of_not_mem s plain, List.dropLast_concat]

theorem length_endedLines (s : List Char) : (endedLines s).length = s.count '\n' := by
  induction s using List.reverseRecOn with
  | nil => rfl
  | append_singleton s c ih =>
    rw [endedLines_concat]
    by_cases newline : c = '\n'
    · simp [newline, ih]
    · simp [newline, ih]

/-- The lines that a text has ended stay the first ones of it. -/
theorem endedLines_front (before behind : List Char) :
    endedLines before <+: endedLines (before ++ behind) := by
  induction behind using List.reverseRecOn with
  | nil => rw [List.append_nil]
  | append_singleton front c ih =>
    rw [← List.append_assoc, endedLines_concat]
    split
    · exact ih.trans (List.prefix_append _ _)
    · exact ih

/-- The lines above a place are those that end in front of it. -/
theorem take_lines (before behind : List Char) :
    (lines (before ++ behind)).take (before.count '\n') = endedLines before := by
  have front : endedLines before <+: lines (before ++ behind) :=
    (endedLines_front before behind).trans (List.prefix_append _ _)
  rw [← length_endedLines]
  exact (List.prefix_iff_eq_take.mp front).symm

theorem linesLength_concat (lines : List (List Char)) (line : List Char) :
    linesLength (lines ++ [line]) = linesLength lines + (byteLength line + 1) := by
  induction lines with
  | nil => simp [linesLength]
  | cons first rest ih =>
    simp only [List.cons_append, linesLength, ih]
    omega

/-- A line loses one byte if it ends in a carriage return. -/
theorem byteLength_withoutReturn (line : List Char) :
    byteLength (withoutReturn line) + (if line.getLast? = some '\r' then 1 else 0) =
      byteLength line := by
  unfold withoutReturn
  split
  · rename_i last
    obtain ⟨front, rfl⟩ := List.getLast?_eq_some_iff.mp last
    rw [List.dropLast_concat, byteLength_append]
    rfl
  · rfl

/-- A text ends in a carriage return if its last line does. -/
theorem getLast?_lastLine_iff (s : List Char) :
    (lastLine s).getLast? = some '\r' ↔ s.getLast? = some '\r' := by
  rcases List.eq_nil_or_concat s with rfl | ⟨front, c, rfl⟩
  · rfl
  · rw [List.concat_eq_append, lastLine_concat]
    by_cases newline : c = '\n'
    · simp [newline]
    · simp [newline]

/-- The lines that a text has ended and its last line make up its bytes, but for the carriage
returns in front of newlines. -/
theorem linesLength_endedLines (s : List Char) :
    linesLength (endedLines s) + byteLength (lastLine s) + returnCount s = byteLength s := by
  induction s using List.reverseRecOn with
  | nil => rfl
  | append_singleton s c ih =>
    rw [endedLines_concat, lastLine_concat, returnCount_concat, byteLength_append]
    by_cases newline : c = '\n'
    · subst newline
      -- The return in front of the newline is the byte that the ended line has lost.
      have line := byteLength_withoutReturn (lastLine s)
      simp only [getLast?_lastLine_iff] at line
      simp only [if_true, and_true, linesLength_concat, byteLength]
      have one : Char.utf8Size '\n' = 1 := rfl
      omega
    · simp only [newline, if_false, and_false, byteLength_append]
      omega

/-- The offset of the place behind a text is its length, less one byte for each carriage return
in front of a newline. -/
theorem offsetIn_ofOffset (before behind : List Char) :
    (ofOffset (before ++ behind) (byteLength before)).offsetIn (before ++ behind) +
      returnCount before = byteLength before := by
  have bytes := linesLength_endedLines before
  have within : byteLength before ≤ byteLength (before ++ behind) := by
    rw [byteLength_append]
    omega
  rw [ofOffset_append, offsetIn]
  simp only [Nat.add_sub_cancel_left, take_lines]
  omega

end Place

end Text

namespace Template

open Text CommandLine

theorem returnCount_opening (before : List Char) :
    returnCount (before ++ opening) = returnCount before := by
  rw [append_opening, returnCount_concat, returnCount_concat]
  simp

/-- Where a text has no carriage return, a notice shows the place that it is given. -/
theorem pointAt_ofOffset {text : String} (plain : '\r' ∉ text.toList) {before behind : List Char}
    (whole : text.toList = before ++ behind) (source message : String) :
    let place := Place.ofOffset text.toList (byteLength before)
    Notice.pointAt source text place message = .pointer source place message := by
  intro place
  have absent : ¬ ['\r', '\n'] <:+: before := by
    intro inside
    have held : '\r' ∈ before := inside.subset (by simp)
    exact plain (by simp [whole, held])
  have offset := Place.offsetIn_ofOffset before behind
  rw [(returnCount_eq_zero_iff before).mpr absent, Nat.add_zero, ← whole] at offset
  rw [Notice.pointAt, Place.shown_eq_ofOffset plain, offset]

/-- The offset of the place behind a text is its length, less one byte for each carriage return
in front of a newline. So the offset found for a rejected text is that behind the braces of its
first malformed placeholder exactly if no line above them ends in a carriage return, and a notice
on a text without carriage returns shows the place that was reported. -/
theorem pointing_back_loses_returns (text : String) :
    (∀ before behind, text.toList = before ++ behind →
      (Place.ofOffset text.toList (byteLength before)).offsetIn text.toList + returnCount before =
        byteLength before) ∧
    ∀ fault, parse text = .error fault →
      ∃ before rest,
        text.toList = before ++ opening ++ rest ∧ OpensNothing rest ∧
        (∃ read, parse (String.ofList before) = .ok read) ∧
        fault.place.offsetIn text.toList + returnCount before = byteLength (before ++ opening) ∧
        (fault.place.offsetIn text.toList = byteLength (before ++ opening) ↔
          ¬ ['\r', '\n'] <:+: before) ∧
        ('\r' ∉ text.toList → ∀ source message,
          Notice.pointAt source text fault.place message =
            .pointer source fault.place message) := by
  constructor
  · intro before behind whole
    rw [whole, Place.offsetIn_ofOffset]
  intro fault rejected
  obtain ⟨before, rest, first, place⟩ := exists_firstMalformed rejected
  have offset := Place.offsetIn_ofOffset (before ++ opening) rest
  rw [← first.parts, ← place, returnCount_opening] at offset
  refine ⟨before, rest, first.parts, first.beginsNothing, ⟨_, first.parse_before⟩, offset,
    ?_, ?_⟩
  · rw [← returnCount_eq_zero_iff]
    omega
  · intro plain source message
    rw [place]
    exact pointAt_ofOffset plain first.parts source message

/-- Lines of both kinds above a placeholder without a name. -/
theorem pointing_back_loses_returns_of_mixed_lines :
    let text := "é\r\nb\n\x7b\x7b \x7d\x7d"
    let fault : Malformed := ⟨⟨3, 3⟩⟩
    parse text = .error fault ∧ fault.place.offsetIn text.toList = 7 ∧
    ∃ before rest,
      text.toList = before ++ opening ++ rest ∧ OpensNothing rest ∧
      fault.place.offsetIn text.toList + returnCount before = byteLength (before ++ opening) := by
  intro text fault
  have rejected : parse text = .error fault := by decide +kernel
  obtain ⟨before, rest, parts, begins, -, offset, -⟩ :=
    (pointing_back_loses_returns text).2 fault rejected
  exact ⟨rejected, by decide +kernel, before, rest, parts, begins, offset⟩

/-- The braces end at the fifth byte, and the offset of their place is that of the fourth. -/
theorem offset_behind_return :
    let text := "a\r\n\x7b\x7b"
    parse text = .error ⟨⟨2, 3⟩⟩ ∧ text.toList = "a\r\n".toList ++ opening ∧
    byteLength ("a\r\n".toList ++ opening) = 5 ∧
    (⟨2, 3⟩ : Place).offsetIn text.toList = 4 := by
  decide +kernel

end Template

end Phrasebook
