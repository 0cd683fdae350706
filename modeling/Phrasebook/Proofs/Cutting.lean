import Mathlib.Data.List.TakeWhile
import Phrasebook.Text.Cut

/-!
# Laws of cutting

A text is cut at the first separating character and nowhere else, so the parts of a cut determine
the text and the text determines the parts. The pieces of a text are the part in front of its first
separator and the pieces of what stands behind.
-/
namespace Phrasebook.Text

theorem cutChars_append {p : Char → Bool} {front behind : List Char} {c : Char}
    (clear : ∀ d ∈ front, p d = false) (stop : p c = true) :
    cutChars p (front ++ c :: behind) = some (front, behind) := by
  have kept : ∀ d ∈ front, (!p d) = true := fun d member => by simp [clear d member]
  simp [cutChars, List.dropWhile_append_of_pos kept, List.takeWhile_append_of_pos kept, stop]

/-- What is cut off has no stop in front. -/
theorem cutChars_sound {p : Char → Bool} {s front behind : List Char}
    (found : cutChars p s = some (front, behind)) :
    ∃ c, p c = true ∧ s = front ++ c :: behind ∧ ∀ d ∈ front, p d = false := by
  unfold cutChars at found
  split at found
  · cases found
  · rename_i c rest dropped
    cases found
    refine ⟨c, ?_, ?_, ?_⟩
    · have stop := List.head?_dropWhile_not (!p ·) s
      simpa [dropped] using stop
    · rw [← dropped, List.takeWhile_append_dropWhile]
    · intro d member
      simpa using List.mem_takeWhile_imp member

theorem cutChars_eq_none_iff {p : Char → Bool} {s : List Char} :
    cutChars p s = none ↔ ∀ c ∈ s, p c = false := by
  have kept : s.dropWhile (!p ·) = [] ↔ ∀ c ∈ s, p c = false := by
    simp [List.dropWhile_eq_nil_iff]
  rw [← kept, cutChars]
  cases s.dropWhile (!p ·) <;> simp

/-- A cut at a character gives what stands before and behind its first occurrence. -/
theorem cut_eq_some_iff {c : Char} {s before behind : String} :
    cut (· = c) s = some (before, behind) ↔
      s.toList = before.toList ++ c :: behind.toList ∧ c ∉ before.toList := by
  unfold cut
  rw [Option.map_eq_some_iff]
  constructor
  · rintro ⟨⟨front, rest⟩, found, same⟩
    cases same
    obtain ⟨d, stop, whole, clear⟩ := cutChars_sound found
    have equal : d = c := by simpa using stop
    subst equal
    refine ⟨by simpa using whole, fun member => ?_⟩
    simpa using clear d (by simpa using member)
  · rintro ⟨whole, clear⟩
    refine ⟨(before.toList, behind.toList), ?_, by simp⟩
    rw [whole]
    apply cutChars_append
    · intro d member
      have different : d ≠ c := fun equal => clear (equal ▸ member)
      simpa using different
    · simp

theorem cut_eq_none_iff {c : Char} {s : String} : cut (· = c) s = none ↔ c ∉ s.toList := by
  unfold cut
  rw [Option.map_eq_none_iff, cutChars_eq_none_iff]
  constructor
  · intro clear member
    simpa using clear c member
  · intro absent d member
    have different : d ≠ c := fun equal => absent (equal ▸ member)
    simpa using different

theorem pieces_of_cut {c : Char} {s before behind : String}
    (found : cut (· = c) s = some (before, behind)) :
    pieces c s = before :: pieces c behind := by
  obtain ⟨whole, absent⟩ := cut_eq_some_iff.mp found
  rw [pieces, whole, List.splitOn_append_cons_self_of_not_mem absent]
  simp [pieces]

theorem pieces_of_uncut {c : Char} {s : String} (absent : cut (· = c) s = none) :
    pieces c s = [s] := by
  rw [pieces, List.splitOn_eq_singleton (cut_eq_none_iff.mp absent)]
  simp

/-- What stands behind the first separator is shorter than the whole text. -/
theorem length_lt_of_cut {c : Char} {s before behind : String}
    (found : cut (· = c) s = some (before, behind)) :
    behind.toList.length < s.toList.length := by
  rw [(cut_eq_some_iff.mp found).1]
  simp only [List.length_append, List.length_cons]
  omega

end Phrasebook.Text
