import Mathlib.Data.List.Induction
import Phrasebook.Catalog.Translator
import Phrasebook.Proofs.CatalogGrowth

/-!
# What becomes of every phrase

Phrases are taken into a catalog one after the other. Each of them either fills its place or is
reported as repeated, and a text that strict reading rejects is reported as well, so what is left
out of a catalog can be read off its report.
-/
namespace Phrasebook

open NameMap

namespace NameMap

variable {α : Type}

def total (weight : α → Nat) : NameMap α → Nat
  | [] => 0
  | (_, a) :: rest => weight a + total weight rest

/-- An alteration changes the total by what it changes at its own name. -/
theorem total_alter {m : NameMap α} (ascending : m.Ascending) (weight : α → Nat) (name : String)
    (f : Option α → α) :
    total weight (m.alter name f) + ((m.get? name).map weight).getD 0 =
      total weight m + weight (f (m.get? name)) := by
  induction m with
  | nil => simp [alter, total, get?]
  | cons head rest ih =>
    obtain ⟨key, a⟩ := head
    obtain ⟨first, others⟩ := List.pairwise_cons.mp ascending
    by_cases same : name = key
    · subst same
      simp [alter, total, get?]
      omega
    · by_cases smaller : name < key
      · have absent : get? ((key, a) :: rest) name = none := by
          refine get?_eq_none_of_lt fun pair member => ?_
          rcases List.mem_cons.mp member with rfl | later
          · exact smaller
          · exact String.lt_trans smaller (first pair later)
        rw [absent]
        simp [alter, total, same, smaller]
        omega
      · have later := ih others
        simp [alter, total, get?, same, smaller, Ne.symm same]
        omega

/-- The same where an absent name stands for `a`, which weighs nothing. -/
theorem total_alter_getD {m : NameMap α} (ascending : m.Ascending) (weight : α → Nat) {a : α}
    (light : weight a = 0) (name : String) (f : α → α) :
    total weight (m.alter name fun b => f (b.getD a)) + weight ((m.get? name).getD a) =
      total weight m + weight (f ((m.get? name).getD a)) := by
  have altered := total_alter ascending weight name fun b => f (b.getD a)
  have held : ((m.get? name).map weight).getD 0 = weight ((m.get? name).getD a) := by
    cases m.get? name with
    | none => exact light.symm
    | some b => rfl
  rwa [held] at altered

end NameMap

def Event.isRepeatedKey : Event → Bool
  | repeatedKey _ => true
  | _ => false

namespace Phrase

/-- What is reported on the text of a phrase: its fault if strict reading rejects it. -/
inductive TextReport (p : Phrase) : List Event → Prop
  | sound {t : Template} (read : Template.parse p.text = .ok t) : TextReport p []
  | rejected {fault : Template.Malformed} (read : Template.parse p.text = .error fault) :
      TextReport p [.malformedText p.text fault]

/-- What is reported on the key of a phrase: that it is repeated if an earlier phrase has the same
locale, namespace and key. -/
inductive KeyReport (earlier : List Phrase) (p : Phrase) : List Event → Prop
  | fresh (apart : ∀ q ∈ earlier, ¬ (q.locale = p.locale ∧ q.space = p.space ∧ q.key = p.key)) :
      KeyReport earlier p []
  | repeated {q : Phrase} (member : q ∈ earlier)
      (same : q.locale = p.locale ∧ q.space = p.space ∧ q.key = p.key) :
      KeyReport earlier p [.repeatedKey p.key]

/-- What is reported on phrases, one after the other: on each its text and then its key. -/
inductive Reported : List Phrase → List Event → Prop
  | nil : Reported [] []
  | snoc {earlier : List Phrase} {p : Phrase} {events onText onKey : List Event}
      (before : Reported earlier events) (text : TextReport p onText)
      (key : KeyReport earlier p onKey) :
      Reported (earlier ++ [p]) (events ++ (onText ++ onKey))

theorem textReport_events (p : Phrase) : TextReport p (Entry.events p.text) := by
  unfold Entry.events
  cases read : Template.parse p.text with
  | ok t => exact .sound read
  | error fault => exact .rejected read

end Phrase

namespace Registry

theorem contains_eq (r : Registry) (key : String) : r.contains key = (r.get? key).isSome := rfl

theorem size_eq_total (r : Registry) : r.size = r.entries.total fun _ => 1 := by
  change r.entries.length = _
  induction r.entries with
  | nil => rfl
  | cons head rest ih => rw [List.length_cons, total, ih, Nat.add_comm]

/-- An entry adds one to the size of a registry unless its key is reported as repeated. -/
theorem size_insert {r : Registry} (ordered : r.entries.Ascending) (key : String) (entry : Entry) :
    (r.insert key entry).size + (r.insertEvents key).countP Event.isRepeatedKey = r.size + 1 := by
  have altered := total_alter ordered (fun _ => 1) key fun held => held.getD entry
  change (r.insert key entry).entries.total _ + ((r.get? key).map _).getD 0 = _ at altered
  rw [size_eq_total, size_eq_total, insertEvents, contains_eq]
  cases held : r.get? key with
  | none => simpa [held] using altered
  | some old => simpa [held, Event.isRepeatedKey] using altered

end Registry

namespace Catalog

def size (c : Catalog) : Nat :=
  c.registries.total fun spaces => spaces.total Registry.size

theorem size_add {c : Catalog} (ordered : c.Ordered) (p : Phrase) :
    (c.add p).size + (c.registry p.locale p.space).size =
      c.size + ((c.registry p.locale p.space).insert p.key (.ofText p.text)).size := by
  have inLocale := total_alter_getD (ordered_registriesOf ordered p.locale).ascending
    Registry.size (a := .empty) rfl p.space (·.insert p.key (.ofText p.text))
  have inCatalog := total_alter_getD ordered.ascending
    (fun spaces => spaces.total Registry.size) (a := []) rfl p.locale
    fun spaces => spaces.alter p.space fun registry =>
      (registry.getD .empty).insert p.key (.ofText p.text)
  change (c.add p).size + (c.registriesOf p.locale).total Registry.size = _ at inCatalog
  change _ = c.size + ((c.registriesOf p.locale).alter p.space _).total Registry.size at inCatalog
  change _ + (c.registry p.locale p.space).size = _ + Registry.size (.insert _ _ _) at inLocale
  change _ = _ + ((c.registry p.locale p.space).insert p.key (.ofText p.text)).size at inLocale
  omega

theorem countP_isRepeatedKey_addEvents (c : Catalog) (p : Phrase) :
    (c.addEvents p).countP Event.isRepeatedKey =
      ((c.registry p.locale p.space).insertEvents p.key).countP Event.isRepeatedKey := by
  have onText : (Entry.events p.text).countP Event.isRepeatedKey = 0 := by
    unfold Entry.events
    cases Template.parse p.text <;> rfl
  rw [addEvents, List.countP_append, onText, Nat.zero_add]

/-- A phrase adds one to the size of a catalog unless it is reported as repeated. -/
theorem size_add_repeated {c : Catalog} (ordered : c.Ordered) (p : Phrase) :
    (c.add p).size + (c.addEvents p).countP Event.isRepeatedKey = c.size + 1 := by
  have grown := size_add ordered p
  have inserted := Registry.size_insert (ascending_registry ordered p.locale p.space) p.key
    (.ofText p.text)
  rw [countP_isRepeatedKey_addEvents]
  omega

/-- Every phrase becomes an entry or is reported as repeated. -/
theorem size_addAll_repeated {c : Catalog} (ordered : c.Ordered) (phrases : List Phrase) :
    (c.addAll phrases).1.size + (c.addAll phrases).2.countP Event.isRepeatedKey =
      c.size + phrases.length := by
  induction phrases generalizing c with
  | nil => rfl
  | cons p rest ih =>
    have step := size_add_repeated ordered p
    have later := ih (ordered_add ordered p)
    change ((c.add p).addAll rest).1.size +
      (c.addEvents p ++ ((c.add p).addAll rest).2).countP _ = _
    rw [List.countP_append, List.length_cons]
    omega

theorem addAll_concat (c : Catalog) (phrases : List Phrase) (p : Phrase) :
    c.addAll (phrases ++ [p]) =
      ((c.addAll phrases).1.add p, (c.addAll phrases).2 ++ (c.addAll phrases).1.addEvents p) := by
  induction phrases generalizing c with
  | nil => simp [addAll]
  | cons q rest ih => simp [addAll, ih]

/-- The key of a phrase is reported as repeated exactly if the catalog of the phrases before holds
something at its place. -/
theorem keyReport_insertEvents (earlier : List Phrase) (p : Phrase) :
    Phrase.KeyReport earlier p
      (((empty.addAll earlier).1.registry p.locale p.space).insertEvents p.key) := by
  have held := find?_addAll ordered_empty earlier p.locale p.space p.key
  rw [Registry.insertEvents, Registry.contains_eq]
  change Phrase.KeyReport earlier p
    (if ((empty.addAll earlier).1.find? p.locale p.space p.key).isSome then _ else _)
  rw [held]
  change Phrase.KeyReport earlier p (if (Option.map _ _).isSome then _ else _)
  rw [Option.isSome_map]
  cases found : earlier.find? fun q => q.isFor p.locale p.space p.key with
  | none =>
    refine .fresh fun q member same => ?_
    exact List.find?_eq_none.mp found q member (Phrase.isFor_iff.mpr same)
  | some q =>
    have same : q.isFor p.locale p.space p.key = true :=
      List.find?_some (p := fun q => Phrase.isFor q p.locale p.space p.key) found
    exact .repeated (List.mem_of_find?_eq_some found) (Phrase.isFor_iff.mp same)

/-- The report on phrases names in order each rejected text and each key that an earlier phrase
has. -/
theorem reported_addAll (phrases : List Phrase) :
    Phrase.Reported phrases (empty.addAll phrases).2 := by
  induction phrases using List.reverseRecOn with
  | nil => exact .nil
  | append_singleton earlier p ih =>
    rw [addAll_concat]
    exact .snoc ih p.textReport_events (keyReport_insertEvents earlier p)

theorem mem_entries_ofResources_iff (r : Resources) {locale space key : String} {entry : Entry} :
    (key, entry) ∈ ((ofResources r).1.registry locale space).entries ↔
      ∃ p, (r.phrases.find? fun q => q.isFor locale space key) = some p ∧
        entry = .ofText p.text := by
  have held := find?_ofResources r locale space key
  rw [← get?_eq_some_iff (ascending_registry (ordered_ofResources r) locale space)]
  change (ofResources r).1.find? locale space key = some entry ↔ _
  rw [held, Resources.entryAt?, Option.map_eq_some_iff]
  exact exists_congr fun p => and_congr_right fun _ => eq_comm

/-- A registry that stands in a catalog is the one that lookups find. -/
theorem registry_eq_of_mem {c : Catalog} (ordered : c.Ordered) {locale space : String}
    {spaces : NameMap Registry} {registry : Registry} (inCatalog : (locale, spaces) ∈ c.registries)
    (inLocale : (space, registry) ∈ spaces) : c.registry locale space = registry := by
  have found := (get?_eq_some_iff ordered.ascending).mpr inCatalog
  have ascending := (ordered.each _ inCatalog).ascending
  rw [Catalog.registry, registriesOf, found, Option.getD_some,
    (get?_eq_some_iff ascending).mpr inLocale, Option.getD_some]

/-- What lookups find stands in a registry of the catalog. -/
theorem exists_registry_of_find? {c : Catalog} {locale space key : String} {entry : Entry}
    (held : c.find? locale space key = some entry) :
    ∃ spaces registry, (locale, spaces) ∈ c.registries ∧ (space, registry) ∈ spaces ∧
      (key, entry) ∈ registry.entries := by
  rw [find?, registry, registriesOf] at held
  cases foundSpaces : c.registries.get? locale with
  | none => simp [foundSpaces, get?] at held
  | some spaces =>
    rw [foundSpaces, Option.getD_some] at held
    cases foundRegistry : spaces.get? space with
    | none => simp [foundRegistry] at held
    | some registry =>
      rw [foundRegistry, Option.getD_some] at held
      exact ⟨spaces, registry, mem_of_get? foundSpaces, mem_of_get? foundRegistry, mem_of_get? held⟩

end Catalog

/-- A registry holds, by ascending keys, the entries of the first phrases for its places. -/
structure Registry.HoldsFirst (registry : Registry) (phrases : List Phrase)
    (locale space : String) : Prop where
  ascending : registry.keys.Pairwise (· < ·)
  first : ∀ key entry, (key, entry) ∈ registry.entries ↔
    ∃ p, (phrases.find? fun q => q.isFor locale space key) = some p ∧ entry = .ofText p.text

namespace Translator

/-- No phrase gets lost unnoticed when a translator is made. The report goes through the phrases in
order, and names each rejected text and each key that an earlier phrase has. The entries in all
registries and the repeated keys are as many as the phrases. Every registry holds the first phrases
for its keys, and every phrase has its place in one. -/
theorem ofResources_accounts_for_phrases (r : Resources) (options : Options) :
    let registries := (ofResources r options).1.catalog.registries
    let events := (ofResources r options).2
    Phrase.Reported r.phrases events ∧
    r.phrases.length =
      (registries.total fun spaces => spaces.total Registry.size) +
        events.countP Event.isRepeatedKey ∧
    (∀ locale spaces space registry, (locale, spaces) ∈ registries → (space, registry) ∈ spaces →
      registry.HoldsFirst r.phrases locale space) ∧
    ∀ p ∈ r.phrases, ∃ spaces registry, (p.locale, spaces) ∈ registries ∧
      (p.space, registry) ∈ spaces ∧ p.key ∈ registry.keys := by
  intro registries events
  have ordered : (Catalog.ofResources r).1.Ordered := Catalog.ordered_ofResources r
  refine ⟨Catalog.reported_addAll r.phrases, ?_, ?_, ?_⟩
  · have counted := Catalog.size_addAll_repeated Catalog.ordered_empty r.phrases
    exact (counted.trans (Nat.zero_add _)).symm
  · intro locale spaces space registry inCatalog inLocale
    have same := Catalog.registry_eq_of_mem ordered inCatalog inLocale
    have ascending := Catalog.ascending_registry ordered locale space
    refine ⟨?_, fun key entry => ?_⟩
    · rw [same] at ascending
      exact List.pairwise_map.mpr ascending
    · rw [← same]
      exact Catalog.mem_entries_ofResources_iff r
  · intro p member
    have matched : p.isFor p.locale p.space p.key = true := Phrase.isFor_iff.mpr ⟨rfl, rfl, rfl⟩
    have held : ((Catalog.ofResources r).1.find? p.locale p.space p.key).isSome := by
      rw [Catalog.find?_ofResources, Resources.entryAt?, Option.isSome_map, List.find?_isSome]
      exact ⟨p, member, matched⟩
    obtain ⟨entry, held⟩ := Option.isSome_iff_exists.mp held
    obtain ⟨spaces, registry, inCatalog, inLocale, inRegistry⟩ :=
      Catalog.exists_registry_of_find? held
    exact ⟨spaces, registry, inCatalog, inLocale, List.mem_map_of_mem inRegistry⟩

end Translator

end Phrasebook
