import Mathlib.Data.List.Forall2
import Phrasebook.Proofs.JsonReaders

/-!
# Written values are read back

A reader reads a text as a thing if it takes the text off the front of every longer text, where
nothing stands behind it that would make a number longer. Readers of arrays and objects read what
is written for their parts if the readers of the parts do, so every compact form without floats is
read as the value that it was written for.
-/
namespace Phrasebook.Json

open NameMap

/-- A reader reads `text`, which begins with no blank and no closing bracket, as `a`. -/
structure Reader.Reads {α : Type} (reader : Reader α) (text : List Char) (a : α) : Prop where
  opens : ∃ c more, text = c :: more ∧ isSpace c = false ∧ c ≠ ']'
  reads : ∀ rest, Delimited rest → reader (text ++ rest) = .ok (a, rest)

/-- The text of a member of an object: a name, and what the reader of the values reads. -/
def Reader.ReadsMember {α : Type} (value : Reader α) (text : List Char) (found : String × α) :
    Prop :=
  ∃ shown, text = writeString found.1 ++ ':' :: shown ∧ value.Reads shown found.2

def comma (first : Bool) : List Char := if first then [] else [',']

/-- The texts of items or members from the first, or from a later one. -/
def joined : (first : Bool) → List (List Char) → List Char
  | _, [] => []
  | first, text :: texts => comma first ++ (text ++ joined false texts)

theorem writeItems_eq (items : List Json) : writeItems items = joined true (items.map write) := by
  induction items with
  | nil => rfl
  | cons item rest ih =>
    cases rest with
    | nil => simp [writeItems, joined, comma]
    | cons next rest => simp [writeItems, joined, comma, ih]

theorem writeMembers_eq (members : List (String × Json)) :
    writeMembers members =
      joined true (members.map fun member => writeString member.1 ++ ':' :: member.2.write) := by
  induction members with
  | nil => rfl
  | cons member rest ih =>
    cases rest with
    | nil => simp [writeMembers, joined, comma]
    | cons next rest => simp [writeMembers, joined, comma, ih]

theorem length_le_joined (texts : List (List Char)) :
    texts.length ≤ (joined false texts).length := by
  induction texts with
  | nil => exact Nat.le_refl 0
  | cons text texts ih =>
    simp only [joined, comma, List.length_append, List.length_cons, List.length_nil,
      Bool.false_eq_true, if_false]
    omega

/-- The loops over items and members are given enough steps. -/
theorem length_lt_joined (texts : List (List Char)) (c : Char) (rest : List Char) :
    texts.length < (joined true texts ++ c :: rest).length + 1 := by
  cases texts with
  | nil => exact Nat.succ_pos _
  | cons text texts =>
    have others := length_le_joined texts
    simp only [joined, List.length_append, List.length_cons]
    omega

/-- What follows an item or a member: a comma and others, or the end. -/
theorem delimited_joined (texts : List (List Char)) {c : Char} (ends : Delimited [c])
    (rest : List Char) : Delimited (joined false texts ++ c :: rest) := by
  cases texts with
  | nil => exact ends
  | cons text texts =>
    have next : Delimited [','] := by decide
    exact next

theorem skipSpace_cons {c : Char} (shown : isSpace c = false) (rest : List Char) :
    skipSpace (c :: rest) = c :: rest := by
  simp [skipSpace, shown]

/-! Arrays. -/

variable {α : Type}

theorem nextItem_comma {item : Reader α} {text : List Char} {a : α} (reads : item.Reads text a)
    (first : Bool) (rest : List Char) :
    nextItem first (comma first ++ (text ++ rest)) = .ok (true, text ++ rest) := by
  obtain ⟨c, more, rfl, shown, apart⟩ := reads.opens
  cases first with
  | true =>
    rw [comma, if_pos rfl, List.nil_append, List.cons_append, nextItem, skipSpace_cons shown]
    simp
  | false =>
    have noBlank : isSpace ',' = false := by decide
    change nextItem false (',' :: (c :: more ++ rest)) = _
    rw [nextItem, skipSpace_cons noBlank, List.cons_append]
    simp [skipSpace_cons shown, apart]

theorem itemsWithin_step {item : Reader α} {bound : Nat} {first : Bool} {s t u rest : List Char}
    {a : α} {found : List α} (next : nextItem first s = .ok (true, t)) (read : item t = .ok (a, u))
    (others : itemsWithin item bound false u = .ok (found, rest)) :
    itemsWithin item (bound + 1) first s = .ok (a :: found, rest) := by
  rw [itemsWithin, next]
  change (item t >>= _) = _
  rw [read]
  change (itemsWithin item bound false u >>= _) = _
  rw [others]
  rfl

/-- An array is read back item by item, by induction on the items that are left. -/
theorem itemsWithin_joined {item : Reader α} {texts : List (List Char)} {found : List α}
    (each : List.Forall₂ item.Reads texts found) {bound : Nat} (enough : texts.length < bound)
    (first : Bool) (rest : List Char) :
    itemsWithin item bound first (joined first texts ++ ']' :: rest) = .ok (found, rest) := by
  induction each generalizing bound first with
  | nil =>
    obtain ⟨bound, rfl⟩ := Nat.exists_eq_add_of_lt enough
    cases first <;> rfl
  | @cons text a texts found reads _ ih =>
    obtain ⟨bound, rfl⟩ := Nat.exists_eq_succ_of_ne_zero (Nat.ne_zero_of_lt enough)
    have ends := delimited_joined texts (c := ']') (by decide) rest
    rw [joined, List.append_assoc, List.append_assoc]
    exact itemsWithin_step (nextItem_comma reads first _) (reads.reads _ ends)
      (ih (Nat.lt_of_succ_lt_succ enough) false)

theorem items_write {item : Reader α} {f : α → Json} {found : List α}
    (each : ∀ a ∈ found, item.Reads (f a).write a) (rest : List Char) :
    items item (writeItems (found.map f) ++ [']'] ++ rest) = .ok (found, rest) := by
  have texts : List.Forall₂ item.Reads (found.map fun a => (f a).write) found :=
    List.forall₂_map_left_iff.mpr (List.forall₂_same.mpr each)
  rw [List.append_assoc, writeItems_eq, List.map_map]
  exact itemsWithin_joined texts (length_lt_joined _ _ _) true rest

/-! Objects. -/

theorem stringBody_writeString (s : String) (rest : List Char) :
    stringBody (s.toList.flatMap escapeChar ++ ['"'] ++ rest) = .ok (s, rest) := by
  rw [List.append_assoc]
  exact stringBody_escaped s rest

theorem nextKey_comma (first : Bool) (name : String) (rest : List Char) :
    nextKey first (comma first ++ (writeString name ++ rest)) = .ok (some name, rest) := by
  have read := stringBody_writeString name rest
  cases first with
  | true =>
    change (stringBody (name.toList.flatMap escapeChar ++ ['"'] ++ rest)).map _ = _
    rw [read]
    rfl
  | false =>
    change (stringBody (name.toList.flatMap escapeChar ++ ['"'] ++ rest)).map _ = _
    rw [read]
    rfl

theorem membersWithin_step {value : Reader α} {bound : Nat} {first : Bool}
    {s t u rest : List Char} {name : String} {a : α} {found : List (String × α)}
    (next : nextKey first s = .ok (some name, ':' :: t)) (read : value t = .ok (a, u))
    (others : membersWithin value bound false u = .ok (found, rest)) :
    membersWithin value (bound + 1) first s = .ok ((name, a) :: found, rest) := by
  rw [membersWithin, next]
  change (value t >>= _) = _
  rw [read]
  change (membersWithin value bound false u >>= _) = _
  rw [others]
  rfl

theorem membersWithin_joined {value : Reader α} {texts : List (List Char)}
    {found : List (String × α)} (each : List.Forall₂ value.ReadsMember texts found) {bound : Nat}
    (enough : texts.length < bound) (first : Bool) (rest : List Char) :
    membersWithin value bound first (joined first texts ++ '\x7d' :: rest) =
      .ok (found, rest) := by
  induction each generalizing bound first with
  | nil =>
    obtain ⟨bound, rfl⟩ := Nat.exists_eq_add_of_lt enough
    cases first <;> rfl
  | @cons text pair texts found member _ ih =>
    obtain ⟨bound, rfl⟩ := Nat.exists_eq_succ_of_ne_zero (Nat.ne_zero_of_lt enough)
    obtain ⟨name, a⟩ := pair
    obtain ⟨shown, rfl, reads⟩ := member
    have ends := delimited_joined texts (c := '\x7d') (by decide) rest
    rw [joined, List.append_assoc, List.append_assoc, List.append_assoc]
    exact membersWithin_step (nextKey_comma first name _) (reads.reads _ ends)
      (ih (Nat.lt_of_succ_lt_succ enough) false)

theorem members_write {value : Reader α} {f : α → Json} {found : List (String × α)}
    (each : ∀ pair ∈ found, value.Reads (f pair.2).write pair.2) (rest : List Char) :
    members value (writeMembers (found.map fun pair => (pair.1, f pair.2)) ++ ['\x7d'] ++ rest) =
      .ok (found, rest) := by
  have texts : List.Forall₂ value.ReadsMember
      (found.map fun pair => writeString pair.1 ++ ':' :: (f pair.2).write) found :=
    List.forall₂_map_left_iff.mpr
      (List.forall₂_same.mpr fun pair inside => ⟨_, rfl, each pair inside⟩)
  rw [List.append_assoc, writeMembers_eq, List.map_map]
  exact membersWithin_joined texts (length_lt_joined _ _ _) true rest

/-! Values. -/

theorem reads_string (s : String) : stringValue.Reads (writeString s) s := by
  refine ⟨⟨'"', _, rfl, rfl, by decide⟩, fun rest _ => ?_⟩
  exact stringBody_writeString s rest

theorem reads_bool (b : Bool) : boolValue.Reads (bool b).write b := by
  cases b with
  | true => exact ⟨⟨'t', _, rfl, rfl, by decide⟩, fun rest _ => rfl⟩
  | false => exact ⟨⟨'f', _, rfl, rfl, by decide⟩, fun rest _ => rfl⟩

theorem reads_arrayOf {item : Reader α} {f : α → Json} {found : List α}
    (each : ∀ a ∈ found, item.Reads (f a).write a) :
    (arrayOf item).Reads (array (found.map f)).write found :=
  ⟨⟨'[', _, rfl, rfl, by decide⟩, fun rest _ => items_write each rest⟩

/-- A map whose things are read back is read back. -/
theorem reads_mapOf {value : Reader α} {f : α → Json} {found : NameMap α}
    (each : OrderedOf (fun a => value.Reads (f a).write a) found) :
    (mapOf value).Reads (object (found.map fun pair => (pair.1, f pair.2))).write found := by
  refine ⟨⟨'\x7b', _, rfl, rfl, by decide⟩, fun rest _ => ?_⟩
  change (members value (writeMembers (found.map _) ++ ['\x7d'] ++ rest)).map _ = _
  rw [members_write each.each]
  change Except.ok (NameMap.ofList found, rest) = _
  rw [ofList_of_ascending each.ascending]

/-- A value that is read back in front of anything is read back as a whole text. -/
theorem whole_of_reads {reader : Reader α} {text : List Char} {a : α}
    (reads : reader.Reads text a) : whole reader (String.ofList text) = .ok a := by
  have ends : Delimited [] := by decide
  have read := reads.reads [] ends
  rw [List.append_nil] at read
  rw [whole, String.toList_ofList, read]
  rfl

/-- A number that is written without a point and fits. -/
inductive Number.Whole : Number → Prop
  | integer {n : Int} (low : -integerBound ≤ n) (high : n < significandBound) : Whole (.integer n)

theorem writeInteger_front (n : Int) :
    ∃ c more, writeInteger n = c :: more ∧ (c = '-' ∨ c.isDigit = true) := by
  unfold writeInteger
  split
  · exact ⟨'-', _, rfl, .inl rfl⟩
  · cases front : Nat.toDigits 10 n.natAbs with
    | nil => exact absurd front Nat.toDigits_ne_nil
    | cons c more =>
      have digit : c.isDigit = true :=
        Nat.isDigit_of_mem_toDigits (by decide) (by decide) (front ▸ List.mem_cons_self)
      exact ⟨c, more, rfl, .inr digit⟩

theorem shown_of_front {c : Char} (front : c = '-' ∨ c.isDigit = true) : isSpace c = false := by
  cases blank : isSpace c with
  | false => rfl
  | true =>
    simp only [isSpace, Bool.or_eq_true, beq_iff_eq] at blank
    obtain ((rfl | rfl) | rfl) | rfl := blank <;> exact absurd front (by decide)

/-- No other value begins like a number. -/
theorem valueWith_number {array : Reader (List Json)} {object : Reader (List (String × Json))}
    {c : Char} (front : c = '-' ∨ c.isDigit = true) (rest : List Char) :
    valueWith array object (c :: rest) =
      (numberText (c :: rest)).map fun (n, rest) => (.number n, rest) := by
  rw [valueWith, skipSpace_cons (shown_of_front front)]
  split
  case h_8 c' rest' same =>
    cases same
    rw [if_pos front]
  case h_1 same => cases same
  all_goals
    rename_i same
    cases same
    exact absurd front (by decide)

variable (array : Reader (List Json)) (object : Reader (List (String × Json)))

theorem reads_null : (valueWith array object).Reads null.write null :=
  ⟨⟨'n', _, rfl, rfl, by decide⟩, fun _ _ => rfl⟩

theorem reads_truth (b : Bool) : (valueWith array object).Reads (bool b).write (bool b) := by
  cases b with
  | true => exact ⟨⟨'t', _, rfl, rfl, by decide⟩, fun _ _ => rfl⟩
  | false => exact ⟨⟨'f', _, rfl, rfl, by decide⟩, fun _ _ => rfl⟩

theorem reads_text (s : String) : (valueWith array object).Reads (string s).write (string s) := by
  refine ⟨⟨'"', _, rfl, rfl, by decide⟩, fun rest _ => ?_⟩
  change (stringBody (s.toList.flatMap escapeChar ++ ['"'] ++ rest)).map _ = _
  rw [stringBody_writeString]
  rfl

theorem reads_number {n : Number} (whole : n.Whole) :
    (valueWith array object).Reads (number n).write (number n) := by
  obtain @⟨n, low, high⟩ := whole
  obtain ⟨c, more, shown, front⟩ := writeInteger_front n
  have written : (number (.integer n)).write = c :: more := shown
  rw [written]
  refine ⟨⟨c, more, rfl, shown_of_front front, ?_⟩, fun rest delimited => ?_⟩
  · rintro rfl
    exact absurd front (by decide)
  · have read := numberText_writeInteger low high delimited
    rw [shown, List.cons_append] at read
    rw [List.cons_append, valueWith_number front, read]
    rfl

theorem reads_simple {text : List Char} {j : Json}
    (reads : ∀ array object, (valueWith array object).Reads text j) (depth : Nat) :
    (value depth).Reads text j := by
  cases depth with
  | zero => exact reads _ _
  | succ depth => exact reads _ _

/-- A value without floats is read back if it nests no deeper than the reader is told. -/
theorem reads_value {depth : Nat} {j : Json} (within : Within Number.Whole depth j) :
    (value depth).Reads j.write j := by
  induction within with
  | null => exact reads_simple reads_null _
  | bool b => exact reads_simple (fun array object => reads_truth array object b) _
  | number whole => exact reads_simple (fun array object => reads_number array object whole) _
  | string s => exact reads_simple (fun array object => reads_text array object s) _
  | @array depth items each ih =>
    refine ⟨⟨'[', _, rfl, rfl, by decide⟩, fun rest _ => ?_⟩
    have read := items_write (f := id) ih rest
    rw [List.map_id] at read
    change (Json.items (value depth) (writeItems items ++ [']'] ++ rest)).map _ = _
    rw [read]
    rfl
  | @object depth members each ih =>
    refine ⟨⟨'\x7b', _, rfl, rfl, by decide⟩, fun rest _ => ?_⟩
    have read := members_write (f := id) ih rest
    change Json.members (value depth) (writeMembers (members.map id) ++ ['\x7d'] ++ rest) = _
      at read
    rw [List.map_id] at read
    change (Json.members (value depth) (writeMembers members ++ ['\x7d'] ++ rest)).map _ = _
    rw [read]
    rfl

end Phrasebook.Json
