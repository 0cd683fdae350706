import Mathlib.Data.List.DropRight
import Phrasebook.Text.Blank

/-!
# Laws of trimming

A trimmed text is a stretch of the text that begins and ends with characters that are not blank,
and a text of that kind is its own trimmed form. Blanks around a text do not change what trimming
gives.
-/
namespace Phrasebook.Text

theorem trimmed_within (s : List Char) : trimmed s <:+: s := by
  have front : trimmed s <+: s.dropWhile isBlank := List.rdropWhile_prefix isBlank _
  exact front.isInfix.trans (List.dropWhile_suffix isBlank).isInfix

theorem head?_trimmed_not_blank {s : List Char} {c : Char} (first : (trimmed s).head? = some c) :
    isBlank c = false := by
  have kept : (s.dropWhile isBlank).head? = some c := by
    obtain ⟨blanks, whole⟩ : trimmed s <+: s.dropWhile isBlank :=
      List.rdropWhile_prefix isBlank _
    rw [← whole, List.head?_append, first, Option.some_or]
  have stop := List.head?_dropWhile_not isBlank s
  rw [kept] at stop
  simpa using stop

theorem getLast?_trimmed_not_blank {s : List Char} {c : Char}
    (last : (trimmed s).getLast? = some c) : isBlank c = false := by
  have stop := List.head?_dropWhile_not isBlank (s.dropWhile isBlank).reverse
  rw [trimmed, List.getLast?_reverse] at last
  rw [last] at stop
  simpa using stop

/-- A text without a blank at either end is its own trimmed form. -/
theorem trimmed_eq_self {s : List Char} (first : ∀ c, s.head? = some c → isBlank c = false)
    (last : ∀ c, s.getLast? = some c → isBlank c = false) : trimmed s = s := by
  have dropNone : ∀ t : List Char, (∀ c, t.head? = some c → isBlank c = false) →
      t.dropWhile isBlank = t := by
    intro t shown
    cases t with
    | nil => rfl
    | cons c rest => simp [shown c rfl]
  rw [trimmed, dropNone s first, dropNone s.reverse (by simpa using last), List.reverse_reverse]

@[simp] theorem trimmed_trimmed (s : List Char) : trimmed (trimmed s) = trimmed s :=
  trimmed_eq_self (fun _ => head?_trimmed_not_blank) (fun _ => getLast?_trimmed_not_blank)

theorem trimmed_cons_blank {c : Char} (blank : isBlank c = true) (s : List Char) :
    trimmed (c :: s) = trimmed s := by
  simp [trimmed, blank]

theorem trimmed_concat_blank {c : Char} (blank : isBlank c = true) (s : List Char) :
    trimmed (s ++ [c]) = trimmed s := by
  by_cases empty : s.dropWhile isBlank = []
  · simp [trimmed, List.dropWhile_append, empty, blank]
  · simp [trimmed, List.dropWhile_append, empty, blank]

/-- Trimming keeps a first character that is not blank. -/
theorem head?_trimmed_cons {c : Char} (shown : isBlank c = false) (s : List Char) :
    (trimmed (c :: s)).head? = some c := by
  have kept : (c :: s).dropWhile isBlank = c :: s := by simp [shown]
  by_cases blanks : s.reverse.dropWhile isBlank = []
  · simp [trimmed, kept, List.dropWhile_append, blanks, shown]
  · simp [trimmed, kept, List.dropWhile_append, blanks]

theorem trim_eq_self_iff (text : String) :
    trim text = text ↔ trimmed text.toList = text.toList := by
  rw [trim, ← String.toList_inj, String.toList_ofList]

end Phrasebook.Text
