import Mathlib.Order.Bounds.Basic
import Phrasebook.Catalog.Suggestion

/-!
# The distance counts edits

A script leads from one text to another by inserting, deleting and replacing single characters,
anywhere and in any order. A single edit changes the distance to any text by at most one, so no
script is shorter than the distance of its two ends; and the rows of the distance tell which edits
to make, so there is a script of just that length.
-/
namespace Phrasebook.Suggestion

/-- One character of a text is inserted, deleted or replaced. -/
inductive Edit : List Char → List Char → Prop
  | insert (front behind : List Char) (c : Char) : Edit (front ++ behind) (front ++ c :: behind)
  | delete (front behind : List Char) (c : Char) : Edit (front ++ c :: behind) (front ++ behind)
  | replace (front behind : List Char) (c d : Char) :
      Edit (front ++ c :: behind) (front ++ d :: behind)

/-- So many edits, one after the other, lead from one text to another. -/
inductive Script : Nat → List Char → List Char → Prop
  | done (a : List Char) : Script 0 a a
  | edit {n : Nat} {a b c : List Char} (first : Edit a b) (others : Script n b c) :
      Script (n + 1) a c

/-! The distance, by the first characters of both texts. -/

/-- The row of a text without its first entry belongs to the other text without its first
character. -/
theorem row_cons (a rest : List Char) (b : Char) :
    (a.foldr (fun c row => nextRow c (b :: rest) row) (baseRow (b :: rest))).tail =
      a.foldr (fun c row => nextRow c rest row) (baseRow rest) := by
  induction a with
  | nil => rfl
  | cons c a ih =>
    rw [List.foldr_cons, List.foldr_cons, ← ih]
    rfl

@[simp] theorem distance_nil (b : List Char) : distance [] b = b.length := by
  cases b <;> rfl

@[simp] theorem distance_cons_nil (c : Char) (a : List Char) :
    distance (c :: a) [] = distance a [] + 1 := rfl

/-- The rows compute the usual recursion: delete, insert, or replace a character that differs. -/
theorem distance_cons_cons (c d : Char) (a b : List Char) :
    distance (c :: a) (d :: b) =
      min (min (distance a (d :: b) + 1) (distance (c :: a) b + 1))
        (distance a b + if c = d then 0 else 1) := by
  have kept := row_cons a b d
  unfold distance
  rw [List.foldr_cons, List.foldr_cons, ← kept]
  rfl

/-! No script is shorter than the distance. -/

@[simp] theorem distance_self (a : List Char) : distance a a = 0 := by
  induction a with
  | nil => rfl
  | cons c a ih =>
    rw [distance_cons_cons, ih, if_pos rfl]
    omega

theorem distance_longer (a b : List Char) (d : Char) : distance a (d :: b) ≤ distance a b + 1 := by
  cases a with
  | nil => simp
  | cons c a =>
    rw [distance_cons_cons]
    omega

theorem distance_deleted (c : Char) (a b : List Char) :
    distance (c :: a) b ≤ distance a b + 1 := by
  cases b with
  | nil => simp
  | cons d b =>
    rw [distance_cons_cons]
    omega

theorem distance_inserted (c : Char) (a b : List Char) :
    distance a b ≤ distance (c :: a) b + 1 := by
  induction b with
  | nil =>
    rw [distance_cons_nil]
    omega
  | cons d b ih =>
    have longer := distance_longer a b d
    rw [distance_cons_cons]
    omega

theorem distance_replaced (c d : Char) (a b : List Char) :
    distance (c :: a) b ≤ distance (d :: a) b + 1 := by
  induction b with
  | nil => simp
  | cons e b ih =>
    rw [distance_cons_cons, distance_cons_cons]
    split <;> split <;> omega

/-- Texts that are one apart for every other text stay so behind one more character. -/
theorem distance_cons_le {a b : List Char} (near : ∀ other, distance a other ≤ distance b other + 1)
    (c : Char) (other : List Char) : distance (c :: a) other ≤ distance (c :: b) other + 1 := by
  induction other with
  | nil =>
    have last := near []
    rw [distance_cons_nil, distance_cons_nil]
    omega
  | cons d other ih =>
    have whole := near (d :: other)
    have shorter := near other
    rw [distance_cons_cons, distance_cons_cons]
    omega

theorem distance_append_le {a b : List Char}
    (near : ∀ other, distance a other ≤ distance b other + 1) (front other : List Char) :
    distance (front ++ a) other ≤ distance (front ++ b) other + 1 := by
  induction front generalizing other with
  | nil => exact near other
  | cons c front ih => exact distance_cons_le ih c other

/-- An edit changes the distance to any text by at most one. -/
theorem distance_le_of_edit {a b : List Char} (edit : Edit a b) (other : List Char) :
    distance a other ≤ distance b other + 1 := by
  cases edit with
  | insert front behind c => exact distance_append_le (distance_inserted c behind) front other
  | delete front behind c => exact distance_append_le (distance_deleted c behind) front other
  | replace front behind c d =>
    exact distance_append_le (distance_replaced c d behind) front other

/-- No script is shorter than the distance. -/
theorem distance_le_of_script {n : Nat} {a b : List Char} (script : Script n a b) :
    distance a b ≤ n := by
  induction script with
  | done a => simp
  | edit first others ih =>
    have step := distance_le_of_edit first
    exact Nat.le_trans (step _) (Nat.succ_le_succ ih)

/-! A script of the length of the distance. -/

theorem Edit.cons {a b : List Char} (edit : Edit a b) (c : Char) : Edit (c :: a) (c :: b) := by
  cases edit with
  | insert front behind d => exact .insert (c :: front) behind d
  | delete front behind d => exact .delete (c :: front) behind d
  | replace front behind d e => exact .replace (c :: front) behind d e

/-- A script does its work behind a character as well. -/
theorem Script.cons {n : Nat} {a b : List Char} (script : Script n a b) (c : Char) :
    Script n (c :: a) (c :: b) := by
  induction script with
  | done a => exact .done (c :: a)
  | edit first others ih => exact .edit (first.cons c) ih

theorem Script.delete {n : Nat} {a b : List Char} (script : Script n a b) (c : Char) :
    Script (n + 1) (c :: a) b :=
  .edit (.delete [] a c) script

theorem Script.insert {n : Nat} {a b : List Char} (script : Script n a b) (d : Char) :
    Script (n + 1) a (d :: b) :=
  .edit (.insert [] a d) (script.cons d)

theorem Script.replace {n : Nat} {a b : List Char} (script : Script n a b) (c d : Char) :
    Script (n + if c = d then 0 else 1) (c :: a) (d :: b) := by
  split
  · rename_i same
    subst same
    exact script.cons c
  · exact .edit (.replace [] a c d) (script.cons d)

/-- The least of three ways to go on is one of the three. -/
theorem distance_cons_cons_cases (c d : Char) (a b : List Char) :
    distance (c :: a) (d :: b) = distance a (d :: b) + 1 ∨
      distance (c :: a) (d :: b) = distance (c :: a) b + 1 ∨
      distance (c :: a) (d :: b) = distance a b + if c = d then 0 else 1 := by
  rw [distance_cons_cons]
  omega

/-- Some script is as short as the distance. -/
theorem script_distance (a b : List Char) : Script (distance a b) a b := by
  induction a generalizing b with
  | nil =>
    rw [distance_nil]
    induction b with
    | nil => exact .done []
    | cons d b ih => exact ih.insert d
  | cons c a ihDeleted =>
    induction b with
    | nil => exact (ihDeleted []).delete c
    | cons d b ihInserted =>
      rcases distance_cons_cons_cases c d a b with deleted | inserted | replaced
      · rw [deleted]
        exact (ihDeleted (d :: b)).delete c
      · rw [inserted]
        exact ihInserted.insert d
      · rw [replaced]
        exact (ihDeleted b).replace c d

/-- The distance of two texts is the length of the shortest scripts from one to the other. -/
theorem distance_isLeast (a b : List Char) : IsLeast {n | Script n a b} (distance a b) := by
  refine ⟨script_distance a b, ?_⟩
  intro n script
  exact distance_le_of_script script

/-- Characters are counted, however many bytes they take. -/
example : distance "café".toList "cave".toList = 2 := by decide

end Phrasebook.Suggestion
