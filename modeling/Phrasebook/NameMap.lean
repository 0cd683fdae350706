/-!
# Maps from names

A map from names is the list of its pairs with ascending names. Names are compared by their
characters' code points, which is also the order of their UTF-8 bytes. `alter` is the one way in
which maps grow: it keeps names ascending, changes what its own name stands for, and leaves every
other name alone. The order is a property of a map and no part of its type, since values and nodes
hold maps of themselves; what holds ordered maps alone is a structure of its own.
-/
namespace Phrasebook

/-- Pairs of a name and what it stands for, in the order of the names. -/
abbrev NameMap (α : Type) := List (String × α)

namespace NameMap

variable {α β : Type}

/-- Replaces what `name` stands for by `f` of it, where an absent name counts as `none`. -/
def alter (name : String) (f : Option α → α) : NameMap α → NameMap α
  | [] => [(name, f none)]
  | (key, a) :: rest =>
    if name = key then (key, f (some a)) :: rest
    else if name < key then (name, f none) :: (key, a) :: rest
    else (key, a) :: alter name f rest

/-- Lets `name` stand for `a`, whatever it stood for before. -/
def insert (m : NameMap α) (name : String) (a : α) : NameMap α :=
  alter name (fun _ => a) m

def get? (m : NameMap α) (name : String) : Option α :=
  match m with
  | [] => none
  | (key, a) :: rest => if key = name then some a else get? rest name

def contains (m : NameMap α) (name : String) : Bool :=
  (get? m name).isSome

def keys (m : NameMap α) : List String :=
  m.map Prod.fst

/-- The map of a list of pairs; of two pairs with one name the later counts. -/
def ofList (pairs : List (String × α)) : NameMap α :=
  pairs.foldl (fun m pair => insert m pair.1 pair.2) []

/-- The names of a map are strictly ascending. -/
def Ascending (m : NameMap α) : Prop :=
  m.Pairwise fun a b => a.1 < b.1

/-- A name of an altered map is the altered one or was a name before. -/
theorem mem_alter {name : String} {f : Option α → α} {m : NameMap α} {pair : String × α}
    (inside : pair ∈ alter name f m) : pair.1 = name ∨ ∃ old ∈ m, old.1 = pair.1 := by
  induction m with
  | nil =>
    rw [alter, List.mem_singleton] at inside
    exact Or.inl (by rw [inside])
  | cons head rest ih =>
    obtain ⟨key, a⟩ := head
    simp only [alter] at inside
    split at inside
    · rename_i same
      rcases List.mem_cons.1 inside with rfl | later
      · exact Or.inl same.symm
      · exact Or.inr ⟨pair, List.mem_cons_of_mem _ later, rfl⟩
    · split at inside
      · rcases List.mem_cons.1 inside with rfl | later
        · exact Or.inl rfl
        · exact Or.inr ⟨pair, later, rfl⟩
      · rcases List.mem_cons.1 inside with rfl | later
        · exact Or.inr ⟨(key, a), List.mem_cons_self, rfl⟩
        · rcases ih later with same | ⟨old, known, same⟩
          · exact Or.inl same
          · exact Or.inr ⟨old, List.mem_cons_of_mem _ known, same⟩

/-- Altering keeps the names ascending. -/
theorem ascending_alter {name : String} {f : Option α → α} {m : NameMap α}
    (ascending : Ascending m) : Ascending (alter name f m) := by
  induction m with
  | nil => exact List.pairwise_singleton _ _
  | cons head rest ih =>
    obtain ⟨key, a⟩ := head
    obtain ⟨first, others⟩ := List.pairwise_cons.1 ascending
    simp only [alter]
    split
    · exact List.pairwise_cons.2 ⟨first, others⟩
    · rename_i different
      split
      · rename_i smaller
        refine List.pairwise_cons.2 ⟨fun pair inside => ?_, ascending⟩
        rcases List.mem_cons.1 inside with rfl | later
        · exact smaller
        · exact String.lt_trans smaller (first pair later)
      · rename_i notSmaller
        have greater : key < name :=
          Std.lt_of_le_of_ne (String.not_lt.1 notSmaller) (Ne.symm different)
        refine List.pairwise_cons.2 ⟨fun pair inside => ?_, ih others⟩
        rcases mem_alter inside with same | ⟨old, known, same⟩
        · exact same ▸ greater
        · exact same ▸ first old known

/-- A map made from a list of pairs has ascending names. -/
theorem ascending_ofList (pairs : List (String × α)) : Ascending (ofList pairs) := by
  suffices general : ∀ m : NameMap α, Ascending m →
      Ascending (pairs.foldl (fun m pair => insert m pair.1 pair.2) m) from
    general [] List.Pairwise.nil
  induction pairs with
  | nil => exact fun _ ascending => ascending
  | cons pair rest ih => exact fun m ascending => ih _ (ascending_alter ascending)

/-- A name below all names of a map stands for nothing. -/
theorem get?_eq_none_of_lt {name : String} {m : NameMap α}
    (above : ∀ pair ∈ m, name < pair.1) : get? m name = none := by
  induction m with
  | nil => rfl
  | cons head rest ih =>
    have different : head.1 ≠ name := fun equal =>
      String.lt_irrefl name (equal ▸ above head List.mem_cons_self)
    simp only [get?, different, if_false]
    exact ih fun later inside => above later (List.mem_cons_of_mem _ inside)

/-- What the altered name stands for. -/
theorem get?_alter_self {name : String} {f : Option α → α} {m : NameMap α}
    (ascending : Ascending m) : get? (alter name f m) name = some (f (get? m name)) := by
  induction m with
  | nil => simp [alter, get?]
  | cons head rest ih =>
    obtain ⟨key, a⟩ := head
    obtain ⟨first, others⟩ := List.pairwise_cons.1 ascending
    by_cases same : name = key
    · simp [alter, get?, same]
    · by_cases smaller : name < key
      · have missing : get? ((key, a) :: rest) name = none := by
          refine get?_eq_none_of_lt fun pair inside => ?_
          rcases List.mem_cons.1 inside with rfl | later
          · exact smaller
          · exact String.lt_trans smaller (first pair later)
        rw [missing]
        simp [alter, get?, same, smaller]
      · simp only [alter, same, smaller, if_false, get?, Ne.symm same]
        exact ih others

/-- Other names stand for what they stood for before. -/
theorem get?_alter_of_ne {name other : String} {f : Option α → α} {m : NameMap α}
    (different : other ≠ name) : get? (alter name f m) other = get? m other := by
  induction m with
  | nil => simp [alter, get?, Ne.symm different]
  | cons head rest ih =>
    obtain ⟨key, a⟩ := head
    simp only [alter]
    split
    · rename_i same
      subst same
      simp [get?, Ne.symm different]
    · split
      · simp [get?, Ne.symm different]
      · simp only [get?, ih]

end NameMap

/-- The distinct names of a list in ascending order. -/
def distinctNames (names : List String) : List String :=
  NameMap.keys (NameMap.ofList (names.map fun name => (name, ())))

end Phrasebook
