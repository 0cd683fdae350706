import Mathlib.Tactic.SplitIfs
import Phrasebook.Json.Printer
import Phrasebook.Json.Reader

/-!
# Written tokens are read back

The reader takes a written string off the front of a text and leaves what stands behind. It does
the same with a written integer that fits, if nothing stands behind that would make the number
longer. All integers that are read fit.
-/
namespace Phrasebook.Json

/-! Strings. -/

theorem stringChars_plain {c : Char} (noQuote : c ≠ '"') (noBackslash : c ≠ '\\')
    (noControl : ¬ c.toNat < 0x20) (rest : List Char) :
    stringChars (c :: rest) =
      (stringChars rest).map fun (chars, behind) => (c :: chars, behind) := by
  rw [stringChars.eq_6 c rest noQuote (fun same _ => noBackslash same)
    (fun _ same _ => noBackslash same) (fun _ _ same _ => noBackslash same), if_neg noControl]

theorem stringChars_short {letter c : Char} (meant : shortEscape? letter = some c)
    (rest : List Char) :
    stringChars ('\\' :: letter :: rest) =
      (stringChars rest).map fun (chars, behind) => (c :: chars, behind) := by
  have noUnicode : letter ≠ 'u' := by
    rintro rfl
    cases meant
  rw [stringChars.eq_5 letter rest noUnicode, meant]

theorem stringChars_unicode {escape rest : List Char} {c : Char}
    (meant : unicodeEscape escape = .ok (c, rest)) :
    stringChars ('\\' :: 'u' :: escape) =
      (stringChars rest).map fun (chars, behind) => (c :: chars, behind) := by
  rw [stringChars.eq_4]
  split
  · rename_i failed
    cases meant.symm.trans failed
  · rename_i read
    cases meant.symm.trans read
    rfl

/-- The unicode escape of a character below 256. -/
theorem unicodeEscape_low {a b : Char} {x y : Nat} (high : hexDigit? a = some x)
    (low : hexDigit? b = some y) (small : x * 16 + y < 0x100) (rest : List Char) :
    unicodeEscape ('0' :: '0' :: a :: b :: rest) = .ok (Char.ofNat (x * 16 + y), rest) := by
  have zero : hexDigit? '0' = some 0 := rfl
  have enough : ¬ Text.byteLength (('0' :: '0' :: a :: b :: rest).take 4) < 4 := by
    have size : '0'.utf8Size = 1 := rfl
    have := a.utf8Size_pos
    have := b.utf8Size_pos
    simp only [List.take, Text.byteLength, size]
    omega
  have digits : fourHexDigits ('0' :: '0' :: a :: b :: rest) = .ok (x * 16 + y, rest) := by
    simp only [fourHexDigits, if_neg enough, zero, high, low, Nat.zero_mul, Nat.zero_add]
  have noTrailing : isTrailing (x * 16 + y) = false := by
    simp only [isTrailing, Bool.and_eq_false_iff, decide_eq_false_iff_not]
    omega
  have noLeading : isLeading (x * 16 + y) = false := by
    simp only [isLeading, Bool.and_eq_false_iff, decide_eq_false_iff_not]
    omega
  simp [unicodeEscape, digits, noTrailing, noLeading]

theorem hexDigit?_digitChar : ∀ n < 0x10, hexDigit? n.digitChar = some n := by decide

theorem toDigits_of_teen : ∀ n < 0x20, 0x10 ≤ n →
    Nat.toDigits 16 n = ['1', (n - 0x10).digitChar] := by decide

theorem eq_ofNat {c : Char} {n : Nat} (same : c.toNat = n) : c = Char.ofNat n := by
  rw [← same, Char.ofNat_toNat]

/-- An escaped character is read as the character. -/
theorem stringChars_escapeChar (c : Char) (rest : List Char) :
    stringChars (escapeChar c ++ rest) =
      (stringChars rest).map fun (chars, behind) => (c :: chars, behind) := by
  unfold escapeChar
  split_ifs with quote backslash backspace tab newline feed return' low control
  · subst quote
    exact stringChars_short rfl rest
  · subst backslash
    exact stringChars_short rfl rest
  · exact eq_ofNat backspace ▸ stringChars_short rfl rest
  · exact eq_ofNat tab ▸ stringChars_short rfl rest
  · exact eq_ofNat newline ▸ stringChars_short rfl rest
  · exact eq_ofNat feed ▸ stringChars_short rfl rest
  · exact eq_ofNat return' ▸ stringChars_short rfl rest
  · apply stringChars_unicode
    rw [Nat.toDigits_of_lt_base low]
    have read := unicodeEscape_low (a := '0') (x := 0) rfl (hexDigit?_digitChar c.toNat low)
      (by omega) rest
    rwa [Nat.zero_mul, Nat.zero_add, Char.ofNat_toNat] at read
  · apply stringChars_unicode
    rw [toDigits_of_teen c.toNat control (by omega)]
    have read := unicodeEscape_low (a := '1') (x := 1) rfl
      (hexDigit?_digitChar (c.toNat - 0x10) (by omega)) (by omega) rest
    rwa [show 1 * 16 + (c.toNat - 0x10) = c.toNat by omega, Char.ofNat_toNat] at read
  · exact stringChars_plain quote backslash control rest

theorem stringBody_escaped (s : String) (rest : List Char) :
    stringBody (s.toList.flatMap escapeChar ++ '"' :: rest) = .ok (s, rest) := by
  have chars : ∀ l : List Char,
      stringChars (l.flatMap escapeChar ++ '"' :: rest) = .ok (l, rest) := by
    intro l
    induction l with
    | nil => exact stringChars.eq_2 rest
    | cons c l ih =>
      rw [List.flatMap_cons, List.append_assoc, stringChars_escapeChar, ih]
      rfl
  rw [stringBody, chars]
  change Except.ok (String.ofList s.toList, rest) = _
  rw [String.ofList_toList]

/-! Integers. -/

/-- A number that the readers give: an integer within their bounds, or any float. -/
inductive Number.Fits : Number → Prop
  | integer {n : Int} (low : -integerBound ≤ n) (high : n < significandBound) : Fits (.integer n)
  | float (x : Decimal.Binary64) : Fits (.float x)

theorem takeDigits_lt {significand : Nat} (fits : significand < significandBound)
    (digits : List Char) : (takeDigits significand digits).1 < significandBound := by
  induction digits generalizing significand with
  | nil => exact fits
  | cons c digits ih =>
    rw [takeDigits]
    split
    · rename_i more
      exact ih more
    · exact fits

theorem fits_integerNumber (negative : Bool) {significand : Nat}
    (fits : significand < significandBound) : (integerNumber negative significand).Fits := by
  unfold integerNumber
  split
  · exact .integer (by simp only [integerBound]; omega) (by omega)
  · split
    · exact .float _
    · exact .integer (by omega) (by simp only [significandBound]; omega)

theorem fits_of_floatNumber {negative : Bool} {significand : Nat} {exponent : Int}
    {s rest : List Char} {n : Number}
    (read : floatNumber negative significand exponent s = .ok (n, rest)) : n.Fits := by
  unfold floatNumber at read
  split at read <;> cases read
  exact .float _

theorem fits_of_exponentPart {negative : Bool} {significand : Nat} {scale : Int}
    {s rest : List Char} {n : Number}
    (read : exponentPart negative significand scale s = .ok (n, rest)) : n.Fits := by
  unfold exponentPart at read
  -- The sign is taken off first.
  split at read
  split at read
  · cases read
  · split at read
    · split at read
      · exact fits_of_floatNumber read
      · split at read <;> cases read
        exact .float _
    · cases read

theorem fits_of_floatEnd {negative : Bool} {significand : Nat} {scale : Int}
    {s rest : List Char} {n : Number}
    (read : floatEnd negative significand scale s = .ok (n, rest)) : n.Fits := by
  unfold floatEnd at read
  split at read
  · exact fits_of_floatNumber read
  · split at read
    · exact fits_of_exponentPart read
    · exact fits_of_floatNumber read

theorem fits_of_fractionPart {negative : Bool} {significand : Nat} {scale : Int}
    {s rest : List Char} {n : Number}
    (read : fractionPart negative significand scale s = .ok (n, rest)) : n.Fits := by
  simp only [fractionPart] at read
  split at read
  · cases read
  · cases read
  · exact fits_of_floatEnd read

/-- No number is read that is beyond the bounds. -/
theorem fits_of_unsignedNumber {negative : Bool} {s rest : List Char} {n : Number}
    (read : unsignedNumber negative s = .ok (n, rest)) : n.Fits := by
  unfold unsignedNumber at read
  split at read
  · split at read <;> cases read
  · cases read
  · have nothing : 0 < significandBound := by decide
    have fits := takeDigits_lt nothing (s.takeWhile Char.isDigit)
    simp only at read
    split at read
    · exact fits_of_fractionPart read
    · split at read
      · exact fits_of_floatEnd read
      · cases read
        exact fits_integerNumber negative fits

/-- All numbers that are read fit. -/
theorem fits_of_numberText {s rest : List Char} {n : Number}
    (read : numberText s = .ok (n, rest)) : n.Fits := by
  unfold numberText at read
  split at read
  · exact fits_of_unsignedNumber read
  · exact fits_of_unsignedNumber read

theorem le_ofDigitChars (digits : List Char) (n : Nat) : n ≤ Nat.ofDigitChars 10 digits n := by
  induction digits generalizing n with
  | nil => exact Nat.le_refl n
  | cons c digits ih =>
    rw [Nat.ofDigitChars_cons]
    exact Nat.le_trans (by omega) (ih _)

/-- Digits whose number fits are all taken. -/
theorem takeDigits_of_lt {significand : Nat} {digits : List Char}
    (fits : Nat.ofDigitChars 10 digits significand < significandBound) :
    takeDigits significand digits = (Nat.ofDigitChars 10 digits significand, 0) := by
  induction digits generalizing significand with
  | nil => rfl
  | cons c digits ih =>
    rw [Nat.ofDigitChars_cons, Nat.mul_comm] at fits ⊢
    have taken : significand * 10 + digitValue c < significandBound :=
      Nat.lt_of_le_of_lt (le_ofDigitChars digits _) fits
    rw [takeDigits, if_pos taken]
    exact ih fits

/-- What stands behind a number and does not belong to it. -/
def Delimited : List Char → Prop
  | [] => True
  | c :: _ => c.isDigit = false ∧ c ≠ '.' ∧ c ≠ 'e' ∧ c ≠ 'E'

instance : (rest : List Char) → Decidable (Delimited rest)
  | [] => inferInstanceAs (Decidable True)
  | c :: _ => inferInstanceAs (Decidable (c.isDigit = false ∧ c ≠ '.' ∧ c ≠ 'e' ∧ c ≠ 'E'))

theorem takeWhile_isDigit_append {digits rest : List Char}
    (all : ∀ c ∈ digits, c.isDigit = true) (delimited : Delimited rest) :
    (digits ++ rest).takeWhile Char.isDigit = digits ∧
      (digits ++ rest).dropWhile Char.isDigit = rest := by
  rw [List.takeWhile_append_of_pos all, List.dropWhile_append_of_pos all]
  cases rest with
  | nil => simp
  | cons c rest =>
    have stop : c.isDigit = false := delimited.1
    simp [stop]

/-- No zero stands in front of the digits of a number. -/
theorem toDigits_ne_zero_cons (n : Nat) (c : Char) (more : List Char) :
    Nat.toDigits 10 n ≠ '0' :: c :: more := by
  induction n using Nat.strongRecOn generalizing c more with
  | ind n ih =>
    intro same
    by_cases small : n < 10
    · rw [Nat.toDigits_of_lt_base small] at same
      exact absurd (congrArg List.length same) (by simp)
    · have value : Nat.ofDigitChars 10 (Nat.toDigits 10 (n / 10)) 0 = n / 10 :=
        Nat.ofDigitChars_ten_toDigits
      rw [Nat.toDigits_of_base_le (by decide) (Nat.not_lt.mp small)] at same
      cases front : Nat.toDigits 10 (n / 10) with
      | nil => exact Nat.toDigits_ne_nil front
      | cons d others =>
        rw [front, List.cons_append] at same
        cases others with
        | nil =>
          obtain ⟨rfl, -⟩ := List.cons.inj same
          rw [front] at value
          simp [Nat.ofDigitChars_cons] at value
          omega
        | cons d' others =>
          obtain ⟨rfl, -⟩ := List.cons.inj same
          exact ih (n / 10) (by omega) _ _ front

/-- The digits of a number that fits are read as the number. -/
theorem unsignedNumber_toDigits (negative : Bool) {n : Nat} (fits : n < significandBound)
    {rest : List Char} (delimited : Delimited rest) :
    unsignedNumber negative (Nat.toDigits 10 n ++ rest) =
      .ok (integerNumber negative n, rest) := by
  have all : ∀ c ∈ Nat.toDigits 10 n, c.isDigit = true := fun c member =>
    Nat.isDigit_of_mem_toDigits (by decide) (by decide) member
  obtain ⟨taken, left⟩ := takeWhile_isDigit_append all delimited
  have value : Nat.ofDigitChars 10 (Nat.toDigits 10 n) 0 = n := Nat.ofDigitChars_ten_toDigits
  have digits : takeDigits 0 (Nat.toDigits 10 n) = (n, 0) := by
    rw [takeDigits_of_lt (value.symm ▸ fits), value]
  have ends : ¬ (rest.head? = some 'e' ∨ rest.head? = some 'E' ∨ (0 : Nat) ≠ 0) := by
    cases rest with
    | nil => simp
    | cons c rest =>
      obtain ⟨-, -, notLower, notUpper⟩ := delimited
      simp [notLower, notUpper]
  unfold unsignedNumber
  rw [taken, left]
  split
  · rename_i empty
    exact absurd empty Nat.toDigits_ne_nil
  · rename_i zero
    exact absurd zero (toDigits_ne_zero_cons n _ _)
  · rw [digits]
    simp only
    split
    · exact absurd rfl delimited.2.1
    · rw [if_neg ends]

theorem integerNumber_natAbs {n : Int} (low : -integerBound ≤ n) :
    integerNumber (decide (n < 0)) n.natAbs = .integer n := by
  have low : -0x8000000000000000 ≤ n := low
  unfold integerNumber
  by_cases negative : n < 0
  · have fits : ¬ (n.natAbs = 0 ∨ integerBound < n.natAbs) := by
      simp only [integerBound]
      omega
    simp only [negative, decide_true, Bool.not_true, Bool.false_eq_true, if_false, if_neg fits]
    congr 1
    omega
  · simp only [negative, decide_false, Bool.not_false, if_true]
    congr 1
    omega

/-- An integer within the bounds is read back from its digits. -/
theorem numberText_writeInteger {n : Int} (low : -integerBound ≤ n) (high : n < significandBound)
    {rest : List Char} (delimited : Delimited rest) :
    numberText (writeInteger n ++ rest) = .ok (.integer n, rest) := by
  have fits : n.natAbs < significandBound := by
    simp only [integerBound, significandBound] at low high ⊢
    omega
  have digits := unsignedNumber_toDigits (decide (n < 0)) fits delimited
  rw [integerNumber_natAbs low] at digits
  unfold writeInteger
  by_cases negative : n < 0
  · rw [decide_eq_true negative] at digits
    rw [if_pos negative]
    exact digits
  · rw [if_neg negative, List.nil_append]
    unfold numberText
    split
    · rename_i rest' same
      cases front : Nat.toDigits 10 n.natAbs with
      | nil => exact absurd front Nat.toDigits_ne_nil
      | cons c more =>
        rw [front] at same
        obtain ⟨rfl, -⟩ := List.cons.inj same
        have digit : '-'.isDigit = true :=
          Nat.isDigit_of_mem_toDigits (by decide) (by decide) (front ▸ List.mem_cons_self)
        cases digit
    · rw [decide_eq_false negative] at digits
      exact digits

end Phrasebook.Json
