import Phrasebook.CommandLine.Eval
import Phrasebook.Proofs.JsonReadBack

/-!
# Shown values are read back

Booleans, whole numbers, lists and maps are shown as the compact form of their JSON, and without
floats nothing is lost in that: a parameter given as the shown text is the value again. There is
one limit, which is the reader's: what nests more containers than it reads is taken for a string.
-/
namespace Phrasebook

open Json NameMap

namespace Value

/-- The names of every map in a value are ascending. -/
inductive Ordered : Value → Prop
  | null : Ordered null
  | bool (b : Bool) : Ordered (bool b)
  | number (n : Int64) : Ordered (number n)
  | float (x : Decimal.Binary64) : Ordered (float x)
  | string (s : String) : Ordered (string s)
  | list {items : List Value} (each : ∀ item ∈ items, Ordered item) : Ordered (list items)
  | map {entries : NameMap Value} (ascending : entries.Ascending)
      (each : ∀ entry ∈ entries, Ordered entry.2) : Ordered (map entries)

inductive FloatFree : Value → Prop
  | null : FloatFree null
  | bool (b : Bool) : FloatFree (bool b)
  | number (n : Int64) : FloatFree (number n)
  | string (s : String) : FloatFree (string s)
  | list {items : List Value} (each : ∀ item ∈ items, FloatFree item) : FloatFree (list items)
  | map {entries : NameMap Value} (each : ∀ entry ∈ entries, FloatFree entry.2) :
      FloatFree (map entries)

mutual

/-- The number of containers that a value nests. -/
def nesting : Value → Nat
  | list items => itemsNesting items + 1
  | map entries => entriesNesting entries + 1
  | _ => 0

def itemsNesting : List Value → Nat
  | [] => 0
  | item :: rest => max item.nesting (itemsNesting rest)

def entriesNesting : List (String × Value) → Nat
  | [] => 0
  | (_, value) :: rest => max value.nesting (entriesNesting rest)

end

/-- A value whose text tells its kind: a boolean, a whole number, a list or a map. -/
def Structured : Value → Prop
  | bool _ | number _ | list _ | map _ => True
  | _ => False

instance : (v : Value) → Decidable v.Structured
  | bool _ | number _ | list _ | map _ => .isTrue trivial
  | null | float _ | string _ => .isFalse id

/-! Nesting. -/

theorem itemsNesting_le_iff {items : List Value} {depth : Nat} :
    itemsNesting items ≤ depth ↔ ∀ item ∈ items, item.nesting ≤ depth := by
  induction items with
  | nil => simp [itemsNesting]
  | cons item rest ih => rw [itemsNesting, Nat.max_le, ih, List.forall_mem_cons]

theorem entriesNesting_le_iff {entries : List (String × Value)} {depth : Nat} :
    entriesNesting entries ≤ depth ↔ ∀ entry ∈ entries, entry.2.nesting ≤ depth := by
  induction entries with
  | nil => simp [entriesNesting]
  | cons entry rest ih => rw [entriesNesting, Nat.max_le, ih, List.forall_mem_cons]

/-! The JSON form of a value, and back. -/

theorem itemsToJson_eq (items : List Value) : itemsToJson items = items.map toJson := by
  induction items with
  | nil => rfl
  | cons item rest ih => rw [itemsToJson, ih, List.map_cons]

theorem entriesToJson_eq (entries : List (String × Value)) :
    entriesToJson entries = entries.map fun entry => (entry.1, entry.2.toJson) := by
  induction entries with
  | nil => rfl
  | cons entry rest ih => rw [entriesToJson, ih, List.map_cons]

theorem itemsOfJson_eq (items : List Json) : itemsOfJson items = items.map ofJson := by
  induction items with
  | nil => rfl
  | cons item rest ih => rw [itemsOfJson, ih, List.map_cons]

theorem entriesOfJson_eq (members : List (String × Json)) :
    entriesOfJson members = members.map fun member => (member.1, ofJson member.2) := by
  induction members with
  | nil => rfl
  | cons member rest ih => rw [entriesOfJson, ih, List.map_cons]

/-- A number of 64 bits is not taken for a float. -/
theorem ofInt_toInt (n : Int64) : ofInt n.toInt = number n := by
  have low : Int64.minValue.toInt ≤ n.toInt := Int64.le_toInt n
  have high : n.toInt ≤ Int64.maxValue.toInt := Int.le_of_lt_add_one (Int64.toInt_lt n)
  rw [ofInt, if_pos ⟨low, high⟩, Int64.ofInt_toInt]

/-- An ordered value without floats is the value of its JSON form. -/
theorem ofJson_toJson {v : Value} (ordered : v.Ordered) (free : v.FloatFree) :
    ofJson v.toJson = v := by
  induction free with
  | null | bool | string => rfl
  | number n => exact ofInt_toInt n
  | @list items _ ih =>
    cases ordered with
    | list each =>
      have back : ∀ item ∈ items, ofJson item.toJson = item :=
        fun item inside => ih item inside (each item inside)
      rw [toJson, ofJson, itemsToJson_eq, itemsOfJson_eq, List.map_map]
      exact congrArg list ((List.map_congr_left back).trans (List.map_id' items))
  | @map entries _ ih =>
    cases ordered with
    | map ascending each =>
      have back : ∀ entry ∈ entries, (entry.1, ofJson entry.2.toJson) = entry := by
        intro entry inside
        rw [ih entry inside (each entry inside)]
      have same : entriesOfJson (entriesToJson entries) = entries := by
        rw [entriesToJson_eq, entriesOfJson_eq, List.map_map]
        exact (List.map_congr_left back).trans (List.map_id' entries)
      rw [toJson, ofJson, same, ofList_of_ascending ascending]

theorem whole_toInt (n : Int64) : (Number.integer n.toInt).Whole := by
  have low := Int64.le_toInt n
  have high := Int64.toInt_lt n
  apply Number.Whole.integer
  · simp only [integerBound]
    omega
  · simp only [significandBound]
    omega

/-- The JSON form of a value without floats nests as deep as the value and has no float either. -/
theorem within_toJson {v : Value} (free : v.FloatFree) {depth : Nat} (nests : v.nesting ≤ depth) :
    v.toJson.Within Number.Whole depth := by
  induction free generalizing depth with
  | null => exact .null
  | bool b => exact .bool b
  | number n => exact .number (whole_toInt n)
  | string s => exact .string s
  | list _ ih =>
    obtain ⟨depth, rfl⟩ := Nat.exists_eq_add_of_le' (Nat.le_trans (Nat.le_add_left 1 _) nests)
    have inner := itemsNesting_le_iff.mp (Nat.le_of_succ_le_succ nests)
    rw [toJson, itemsToJson_eq]
    refine .array (List.forall_mem_map.mpr ?_)
    intro item inside
    exact ih item inside (inner item inside)
  | map _ ih =>
    obtain ⟨depth, rfl⟩ := Nat.exists_eq_add_of_le' (Nat.le_trans (Nat.le_add_left 1 _) nests)
    have inner := entriesNesting_le_iff.mp (Nat.le_of_succ_le_succ nests)
    rw [toJson, entriesToJson_eq]
    refine .object (List.forall_mem_map.mpr ?_)
    intro entry inside
    exact ih entry inside (inner entry inside)

mutual

/-- Whatever order the members of an object are in, the names of a value ascend. -/
theorem ordered_ofJson (j : Json) : (ofJson j).Ordered := by
  cases j with
  | null => exact .null
  | bool b => exact .bool b
  | number n =>
    cases n with
    | integer n =>
      rw [ofJson, ofInt]
      split
      · exact .number _
      · exact .float _
    | float x => exact .float x
  | string s => exact .string s
  | array items => exact .list (ordered_itemsOfJson items)
  | object members =>
    have kept := orderedOf_ofList (ordered_entriesOfJson members)
    exact .map kept.ascending kept.each

theorem ordered_itemsOfJson (items : List Json) :
    ∀ item ∈ itemsOfJson items, item.Ordered := by
  cases items with
  | nil => exact nofun
  | cons item rest =>
    exact List.forall_mem_cons.mpr ⟨ordered_ofJson item, ordered_itemsOfJson rest⟩

theorem ordered_entriesOfJson (members : List (String × Json)) :
    ∀ entry ∈ entriesOfJson members, entry.2.Ordered := by
  cases members with
  | nil => exact nofun
  | cons member rest =>
    exact List.forall_mem_cons.mpr ⟨ordered_ofJson member.2, ordered_entriesOfJson rest⟩

end

/-- The value of a JSON text nests no deeper than the text. -/
theorem nesting_ofJson_le {allowed : Number → Prop} {j : Json} {depth : Nat}
    (within : j.Within allowed depth) : (ofJson j).nesting ≤ depth := by
  induction within with
  | null | bool | string => exact Nat.zero_le _
  | @number depth n _ =>
    cases n with
    | integer n =>
      rw [ofJson, ofInt]
      split <;> exact Nat.zero_le _
    | float x => exact Nat.zero_le _
  | array _ ih =>
    rw [ofJson, nesting, itemsOfJson_eq]
    apply Nat.succ_le_succ
    exact itemsNesting_le_iff.mpr (List.forall_mem_map.mpr ih)
  | @object depth members _ ih =>
    have kept : OrderedOf (fun v : Value => v.nesting ≤ depth)
        (NameMap.ofList (members.map fun member => (member.1, ofJson member.2))) :=
      orderedOf_ofList (List.forall_mem_map.mpr ih)
    rw [ofJson, nesting, entriesOfJson_eq]
    apply Nat.succ_le_succ
    exact entriesNesting_le_iff.mpr kept.each

/-- A structured value is shown as its compact JSON text. -/
theorem display_eq_compact {v : Value} (structured : v.Structured) :
    v.display = v.toJson.compact := by
  cases v with
  | bool b => cases b <;> rfl
  | number n => rfl
  | list items => rfl
  | map entries => rfl
  | null | float | string => cases structured

end Value

namespace CommandLine.Eval

/-- Shown text is read as the JSON form of the value. -/
theorem read_display {v : Value} (structured : v.Structured) (free : v.FloatFree)
    (shallow : v.nesting ≤ depthLimit) : Json.read v.display = .ok v.toJson := by
  rw [Value.display_eq_compact structured]
  exact whole_of_reads (reads_value (Value.within_toJson free shallow))

/-- What is read as JSON has ascending names and nests no deeper than the reader goes. -/
theorem ordered_and_shallow_of_read {text : String} {j : Json} (found : Json.read text = .ok j) :
    (Value.ofJson j).Ordered ∧ (Value.ofJson j).nesting ≤ depthLimit := by
  have within : j.Within Number.Fits depthLimit := gives_whole (gives_value depthLimit) found
  exact ⟨Value.ordered_ofJson j, Value.nesting_ofJson_le within⟩

/-- A parameter that is given as the text of a boolean, a whole number, a list or a map without
floats is that value, exactly if the names of its maps ascend, as they do in every map, and it
nests at most 127 containers. Neither is assumed: a value that is read back has both. -/
theorem shown_value_reads_back {v : Value} (structured : v.Structured) (free : v.FloatFree) :
    readValue v.display = v ↔ v.Ordered ∧ v.nesting ≤ 127 := by
  constructor
  · intro same
    unfold readValue at same
    split at same
    · rename_i found
      rw [← same]
      exact ordered_and_shallow_of_read found
    · rw [← same] at structured
      exact structured.elim
  · intro within
    obtain ⟨ordered, shallow⟩ := within
    rw [readValue, read_display structured free shallow]
    exact Value.ofJson_toJson ordered free

/-- Names and strings that need escapes, and the bounds of the numbers. -/
def letter : Value :=
  .map [("", .null), ("\"\\", .string "\x01\n/é😀"),
    ("bounds", .list [.number Int64.minValue, .number Int64.maxValue, .list [], .bool true])]

theorem shown_value_reads_back_of_letter :
    letter.Structured ∧ letter.FloatFree ∧ letter.Ordered ∧ letter.nesting = 3 ∧
      readValue letter.display = letter := by
  have structured : letter.Structured := trivial
  have ordered : letter.Ordered := by
    refine .map (by decide) ?_
    simp only [List.forall_mem_cons]
    refine ⟨.null, .string _, .list ?_, nofun⟩
    simp only [List.forall_mem_cons]
    exact ⟨.number _, .number _, .list nofun, .bool true, nofun⟩
  have free : letter.FloatFree := by
    refine .map ?_
    simp only [List.forall_mem_cons]
    refine ⟨.null, .string _, .list ?_, nofun⟩
    simp only [List.forall_mem_cons]
    exact ⟨.number _, .number _, .list nofun, .bool true, nofun⟩
  have shallow : letter.nesting ≤ 127 := by decide
  exact ⟨structured, free, ordered, rfl,
    (shown_value_reads_back structured free).mpr ⟨ordered, shallow⟩⟩

end CommandLine.Eval

end Phrasebook
