import Phrasebook.NameMap

/-!
# Laws of maps from names

In a map with ascending names a name stands for something exactly if the pair is in the list. An
alteration is described by what every name stands for afterwards, and it keeps whatever holds of
all the things in the map.
-/
namespace Phrasebook

namespace NameMap

variable {α β : Type}

/-- Ascending names, each of which stands for something that satisfies `P`. -/
structure OrderedOf (P : α → Prop) (m : NameMap α) : Prop where
  ascending : m.Ascending
  each : ∀ pair ∈ m, P pair.2

instance (m : NameMap α) : Decidable m.Ascending :=
  inferInstanceAs (Decidable (m.Pairwise fun a b => a.1 < b.1))

instance (P : α → Prop) [DecidablePred P] (m : NameMap α) : Decidable (OrderedOf P m) :=
  decidable_of_iff (m.Ascending ∧ ∀ pair ∈ m, P pair.2)
    ⟨fun ⟨ascending, each⟩ => ⟨ascending, each⟩, fun ordered => ⟨ordered.ascending, ordered.each⟩⟩

theorem orderedOf_nil (P : α → Prop) : OrderedOf P [] where
  ascending := List.Pairwise.nil
  each := nofun

theorem mem_of_get? {m : NameMap α} {name : String} {a : α} (found : m.get? name = some a) :
    (name, a) ∈ m := by
  induction m with
  | nil => cases found
  | cons head rest ih =>
    simp only [get?] at found
    split at found
    · rename_i same
      cases found
      exact same ▸ List.mem_cons_self
    · exact List.mem_cons_of_mem _ (ih found)

theorem get?_eq_some_iff {m : NameMap α} (ascending : m.Ascending) {name : String} {a : α} :
    m.get? name = some a ↔ (name, a) ∈ m := by
  refine ⟨mem_of_get?, fun member => ?_⟩
  induction m with
  | nil => cases member
  | cons head rest ih =>
    obtain ⟨first, others⟩ := List.pairwise_cons.mp ascending
    rcases List.mem_cons.mp member with same | later
    · simp [get?, ← same]
    · have different : head.1 ≠ name := Std.ne_of_lt (first _ later)
      simpa [get?, different] using ih others later

theorem mem_keys_iff {m : NameMap α} (ascending : m.Ascending) {name : String} :
    name ∈ m.keys ↔ (m.get? name).isSome := by
  simp [keys, Option.isSome_iff_exists, get?_eq_some_iff ascending]

theorem OrderedOf.of_get? {P : α → Prop} {m : NameMap α} (ordered : OrderedOf P m)
    {name : String} {a : α} (found : m.get? name = some a) : P a :=
  ordered.each _ (mem_of_get? found)

theorem OrderedOf.getD_get? {P : α → Prop} {m : NameMap α} (ordered : OrderedOf P m) {a : α}
    (otherwise : P a) (name : String) : P ((m.get? name).getD a) := by
  cases found : m.get? name with
  | none => exact otherwise
  | some b => exact ordered.of_get? found

/-- What every name stands for in an altered map. -/
theorem get?_alter {m : NameMap α} (ascending : m.Ascending) (name : String)
    (f : Option α → α) (other : String) :
    (m.alter name f).get? other =
      if other = name then some (f (m.get? name)) else m.get? other := by
  split
  · rename_i same
    rw [same, get?_alter_self ascending]
  · rename_i different
    exact get?_alter_of_ne different

/-- The same where an absent name stands for `a`. -/
theorem getD_get?_alter {m : NameMap α} (ascending : m.Ascending) (name : String) (f : α → α)
    (a : α) (other : String) :
    ((m.alter name fun b => f (b.getD a)).get? other).getD a =
      if other = name then f ((m.get? name).getD a) else (m.get? other).getD a := by
  rw [get?_alter ascending]
  split <;> rfl

theorem each_alter {P : α → Prop} {m : NameMap α} {name : String} {f : Option α → α}
    (each : ∀ pair ∈ m, P pair.2) (fresh : P (f none)) (kept : ∀ a, P a → P (f (some a))) :
    ∀ pair ∈ m.alter name f, P pair.2 := by
  induction m with
  | nil => simpa [alter] using fresh
  | cons head rest ih =>
    obtain ⟨first, others⟩ := List.forall_mem_cons.mp each
    simp only [alter]
    split
    · exact List.forall_mem_cons.mpr ⟨kept _ first, others⟩
    · split
      · exact List.forall_mem_cons.mpr ⟨fresh, each⟩
      · exact List.forall_mem_cons.mpr ⟨first, ih others⟩

/-- Alteration keeps the order, and a property of everything in the map that the change keeps. -/
theorem OrderedOf.alter {P : α → Prop} {m : NameMap α} (ordered : OrderedOf P m) {name : String}
    {f : Option α → α} (fresh : P (f none)) (kept : ∀ a, P a → P (f (some a))) :
    OrderedOf P (m.alter name f) where
  ascending := ascending_alter ordered.ascending
  each := each_alter ordered.each fresh kept

theorem orderedOf_ofList {P : α → Prop} {pairs : List (String × α)}
    (each : ∀ pair ∈ pairs, P pair.2) : OrderedOf P (ofList pairs) := by
  suffices general : ∀ m : NameMap α, OrderedOf P m →
      OrderedOf P (pairs.foldl (fun m pair => insert m pair.1 pair.2) m) from
    general [] (orderedOf_nil P)
  induction pairs with
  | nil => exact fun _ ordered => ordered
  | cons pair rest ih =>
    obtain ⟨first, others⟩ := List.forall_mem_cons.mp each
    exact fun m ordered => ih others _ (ordered.alter first fun _ _ => first)

/-- In the map of a list of pairs a name stands for what the last pair with the name gives. -/
theorem get?_ofList (pairs : List (String × α)) (name : String) :
    (ofList pairs).get? name =
      (pairs.reverse.find? fun pair => pair.1 = name).map Prod.snd := by
  suffices fromLast : ∀ reversed : List (String × α), (ofList reversed.reverse).get? name =
      (reversed.find? fun pair => pair.1 = name).map Prod.snd by
    simpa using fromLast pairs.reverse
  intro reversed
  induction reversed with
  | nil => rfl
  | cons pair earlier ih =>
    have last : ofList (pair :: earlier).reverse =
        (ofList earlier.reverse).insert pair.1 pair.2 := by
      simp [ofList]
    rw [last, insert, get?_alter (ascending_ofList _), ih, List.find?_cons]
    by_cases same : pair.1 = name
    · simp [same]
    · simp [same, Ne.symm same]

theorem alter_of_greater {m : NameMap α} {name : String} (f : Option α → α)
    (greater : ∀ pair ∈ m, pair.1 < name) : m.alter name f = m ++ [(name, f none)] := by
  induction m with
  | nil => rfl
  | cons head rest ih =>
    obtain ⟨first, others⟩ := List.forall_mem_cons.mp greater
    have different : name ≠ head.1 := (Std.ne_of_lt first).symm
    have notSmaller : ¬ name < head.1 := fun smaller =>
      String.lt_irrefl name (String.lt_trans smaller first)
    simp only [alter, different, notSmaller, if_false, ih others, List.cons_append]

/-- A map is the map of its own pairs. -/
theorem ofList_of_ascending {m : NameMap α} (ascending : m.Ascending) : ofList m = m := by
  suffices general : ∀ front : NameMap α, (front ++ m).Ascending →
      m.foldl (fun m pair => insert m pair.1 pair.2) front = front ++ m from
    general [] ascending
  clear ascending
  induction m with
  | nil => simp
  | cons pair rest ih =>
    intro front ascending
    have greater : ∀ earlier ∈ front, earlier.1 < pair.1 := fun earlier member =>
      (List.pairwise_append.mp ascending).2.2 earlier member pair List.mem_cons_self
    rw [List.foldl_cons, insert, alter_of_greater _ greater, ih]
    · simp
    · simpa using ascending

theorem mem_keys_ofList {pairs : List (String × α)} {name : String} :
    name ∈ (ofList pairs).keys ↔ ∃ pair ∈ pairs, pair.1 = name := by
  rw [mem_keys_iff (ascending_ofList pairs), get?_ofList, Option.isSome_map, List.find?_isSome]
  simp

/-- A search that only the pair of one name can answer. -/
theorem findSome?_eq_of_name {m : NameMap α} (ascending : m.Ascending) {name : String}
    {g : String × α → Option β} (only : ∀ pair ∈ m, pair.1 ≠ name → g pair = none) :
    m.findSome? g = (m.get? name).bind fun a => g (name, a) := by
  induction m with
  | nil => rfl
  | cons head rest ih =>
    obtain ⟨key, a⟩ := head
    obtain ⟨first, others⟩ := List.pairwise_cons.mp ascending
    have later := ih others fun pair member => only pair (List.mem_cons_of_mem _ member)
    by_cases same : key = name
    · subst same
      have absent : get? rest key = none := get?_eq_none_of_lt first
      rw [List.findSome?_cons, later, absent]
      cases here : g (key, a) <;> simp [get?, here]
    · rw [List.findSome?_cons, only _ List.mem_cons_self same, later]
      simp [get?, same]

end NameMap

theorem distinctNames_ascending (names : List String) :
    (distinctNames names).Pairwise (· < ·) :=
  List.pairwise_map.mpr (NameMap.ascending_ofList _)

theorem mem_distinctNames_iff {names : List String} {name : String} :
    name ∈ distinctNames names ↔ name ∈ names := by
  simp [distinctNames, NameMap.mem_keys_ofList]

end Phrasebook
