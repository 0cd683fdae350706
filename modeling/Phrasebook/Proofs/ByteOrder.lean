import Mathlib.Data.String.Basic
import Mathlib.Tactic.SplitIfs

/-!
# The order of texts and of their bytes

Texts are compared by the code points of their characters. In UTF-8 a character with a greater code
point has the greater bytes at the first place where the two forms differ, so the bytes of two
texts are in the same order as the texts.
-/
namespace Phrasebook.Text

def bytes (s : String) : List UInt8 :=
  s.toUTF8.data.toList

theorem bytes_eq_flatMap (s : String) : bytes s = s.toList.flatMap String.utf8EncodeChar := by
  rw [bytes, String.toUTF8_eq_toByteArray, ← String.utf8Encode_toList, List.utf8Encode,
    List.data_toByteArray]

/-- Of two characters the smaller one has the smaller bytes, whatever stands behind them. -/
theorem utf8EncodeChar_append_lt {c d : Char} (less : c < d) (behind behind' : List UInt8) :
    String.utf8EncodeChar c ++ behind < String.utf8EncodeChar d ++ behind' := by
  have points : c.val.toNat < d.val.toNat := less
  have bound : d.val.toNat < 0x110000 := by
    rcases d.valid with low | high
    · exact Nat.lt_trans low (by decide)
    · exact high.2
  simp only [String.utf8EncodeChar]
  generalize c.val.toNat = m at *
  generalize d.val.toNat = n at *
  have third (n : Nat) : n / 4096 = n / 64 / 64 := by omega
  have fourth (n : Nat) : n / 262144 = n / 64 / 64 / 64 := by omega
  simp only [third, fourth]
  -- The first byte tells the number of bytes, so only forms of one length share it.
  split_ifs <;>
    simp only [List.cons_append, List.nil_append, List.cons_lt_cons_iff, UInt8.lt_iff_toNat_lt,
      ← UInt8.toNat_inj, UInt8.toNat_ofNat'] <;>
    omega

/-- Texts are ordered by their characters as by the bytes of their UTF-8 forms. -/
theorem flatMap_utf8EncodeChar_lt {a b : List Char} (less : a < b) :
    a.flatMap String.utf8EncodeChar < b.flatMap String.utf8EncodeChar := by
  induction less with
  | @nil d b =>
    have some : String.utf8EncodeChar d ≠ [] := by
      apply List.ne_nil_of_length_pos
      rw [String.length_utf8EncodeChar]
      exact d.utf8Size_pos
    obtain ⟨byte, others, shown⟩ := List.exists_cons_of_ne_nil some
    rw [List.flatMap_nil, List.flatMap_cons, shown]
    exact List.nil_lt_cons _ _
  | rel less => exact utf8EncodeChar_append_lt less _ _
  | cons _ ih => exact List.append_left_lt ih

/-- Texts are in the order of their bytes. -/
theorem bytes_lt_iff {a b : String} : bytes a < bytes b ↔ a < b := by
  have forward {a b : String} (less : a < b) : bytes a < bytes b := by
    rw [bytes_eq_flatMap, bytes_eq_flatMap]
    exact flatMap_utf8EncodeChar_lt (String.lt_iff.mp less)
  constructor
  · intro less
    rcases lt_trichotomy a b with smaller | rfl | greater
    · exact smaller
    · exact absurd less (List.lt_irrefl _)
    · exact absurd (forward greater) (List.lt_asymm less)
  · exact forward

end Phrasebook.Text
