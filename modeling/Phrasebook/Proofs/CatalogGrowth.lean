import Phrasebook.Catalog.Basic
import Phrasebook.Proofs.NameMaps

/-!
# How catalogs grow

A catalog is seen through what it holds for a locale, a namespace and a key. Adding a phrase fills
its own place if that is free and changes no other place, so a catalog of phrases holds at every
place the first phrase for it.
-/
namespace Phrasebook

open NameMap

/-- Whether a phrase is for a place. -/
def Phrase.isFor (p : Phrase) (locale space key : String) : Bool :=
  p.locale = locale && p.space = space && p.key = key

theorem Phrase.isFor_iff {p : Phrase} {locale space key : String} :
    p.isFor locale space key = true ↔ p.locale = locale ∧ p.space = space ∧ p.key = key := by
  simp [isFor, and_assoc]

/-- The entry of the first text of a tree for a place. -/
def Resources.entryAt? (r : Resources) (locale space key : String) : Option Entry :=
  (r.phrases.find? fun p => p.isFor locale space key).map fun p => .ofText p.text

@[simp] theorem Entry.text_ofText (text : String) : (Entry.ofText text).text = text := by
  unfold ofText
  cases Template.parse text <;> rfl

namespace Registry

@[simp] theorem get?_empty (key : String) : empty.get? key = none := rfl

/-- A key that has an entry keeps it. -/
theorem get?_insert {r : Registry} (ordered : r.entries.Ascending) (key : String) (entry : Entry)
    (other : String) :
    (r.insert key entry).get? other =
      if other = key then some ((r.get? key).getD entry) else r.get? other :=
  get?_alter ordered key _ other

end Registry

namespace Catalog

/-- All names of a catalog are ascending. -/
def Ordered (c : Catalog) : Prop :=
  OrderedOf (OrderedOf fun registry : Registry => registry.entries.Ascending) c.registries

theorem ordered_empty : empty.Ordered :=
  orderedOf_nil _

theorem ordered_registriesOf {c : Catalog} (ordered : c.Ordered) (locale : String) :
    OrderedOf (fun registry : Registry => registry.entries.Ascending) (c.registriesOf locale) :=
  ordered.getD_get? (orderedOf_nil _) locale

theorem ascending_registry {c : Catalog} (ordered : c.Ordered) (locale space : String) :
    (c.registry locale space).entries.Ascending := by
  have empty : Registry.empty.entries.Ascending := List.Pairwise.nil
  exact (ordered_registriesOf ordered locale).getD_get? empty space

theorem ordered_add {c : Catalog} (ordered : c.Ordered) (p : Phrase) : (c.add p).Ordered := by
  have grown : ∀ spaces : NameMap Registry,
      OrderedOf (fun registry : Registry => registry.entries.Ascending) spaces →
      OrderedOf (fun registry : Registry => registry.entries.Ascending)
        (spaces.alter p.space fun registry =>
          (registry.getD .empty).insert p.key (.ofText p.text)) := by
    intro spaces spacesOrdered
    apply spacesOrdered.alter
    · exact ascending_alter List.Pairwise.nil
    · intro registry entriesAscending
      exact ascending_alter entriesAscending
  apply OrderedOf.alter ordered
  · exact grown [] (orderedOf_nil _)
  · exact grown

theorem registriesOf_add {c : Catalog} (ordered : c.Ordered) (p : Phrase) (locale : String) :
    (c.add p).registriesOf locale =
      if locale = p.locale then
        (c.registriesOf p.locale).alter p.space fun registry =>
          (registry.getD .empty).insert p.key (.ofText p.text)
      else c.registriesOf locale :=
  getD_get?_alter ordered.ascending p.locale (fun spaces => spaces.alter p.space fun registry =>
    (registry.getD .empty).insert p.key (.ofText p.text)) [] locale

theorem registry_add {c : Catalog} (ordered : c.Ordered) (p : Phrase) (locale space : String) :
    (c.add p).registry locale space =
      if locale = p.locale ∧ space = p.space then
        (c.registry p.locale p.space).insert p.key (.ofText p.text)
      else c.registry locale space := by
  have spacesAscending := (ordered_registriesOf ordered p.locale).ascending
  unfold registry
  rw [registriesOf_add ordered]
  by_cases here : locale = p.locale
  · have altered := getD_get?_alter spacesAscending p.space
      (·.insert p.key (.ofText p.text)) .empty space
    simpa [here] using altered
  · simp [here]

/-- Adding a phrase fills its place unless something is there. -/
theorem find?_add {c : Catalog} (ordered : c.Ordered) (p : Phrase) (locale space key : String) :
    (c.add p).find? locale space key =
      (c.find? locale space key).or
        (if p.isFor locale space key then some (.ofText p.text) else none) := by
  unfold find?
  rw [registry_add ordered]
  by_cases here : locale = p.locale ∧ space = p.space
  · rw [if_pos here, Registry.get?_insert (ascending_registry ordered _ _), here.1, here.2]
    by_cases same : key = p.key
    · cases held : (c.registry p.locale p.space).get? key <;> simp_all [Phrase.isFor]
    · simp [Phrase.isFor, same, Ne.symm same]
  · have other : p.isFor locale space key = false := by grind [Phrase.isFor]
    rw [if_neg here, other]
    simp

theorem ordered_addAll {c : Catalog} (ordered : c.Ordered) (phrases : List Phrase) :
    (c.addAll phrases).1.Ordered := by
  induction phrases generalizing c with
  | nil => exact ordered
  | cons p rest ih => exact ih (ordered_add ordered p)

/-- At a free place the first phrase for it counts. -/
theorem find?_addAll {c : Catalog} (ordered : c.Ordered) (phrases : List Phrase)
    (locale space key : String) :
    (c.addAll phrases).1.find? locale space key =
      (c.find? locale space key).or
        ((phrases.find? fun p => p.isFor locale space key).map fun p => .ofText p.text) := by
  induction phrases generalizing c with
  | nil => simp [addAll]
  | cons p rest ih =>
    have later := ih (ordered_add ordered p)
    rw [find?_add ordered] at later
    change ((c.add p).addAll rest).1.find? locale space key = _
    rw [later, Option.or_assoc]
    congr 1
    cases here : p.isFor locale space key <;> simp [here]

/-- The catalog of any tree is ordered, also when the tree is not. -/
theorem ordered_ofResources (r : Resources) : (ofResources r).1.Ordered :=
  ordered_addAll ordered_empty r.phrases

/-- The catalog of a tree holds what the tree has first. -/
theorem find?_ofResources (r : Resources) (locale space key : String) :
    (ofResources r).1.find? locale space key = r.entryAt? locale space key := by
  rw [ofResources, find?_addAll ordered_empty]
  rfl

/-- The text found is that of the first phrase for the place. -/
theorem text_find?_ofResources (r : Resources) (locale space key : String) :
    ((ofResources r).1.find? locale space key).map Entry.text =
      (r.phrases.find? fun p => p.isFor locale space key).map Phrase.text := by
  rw [find?_ofResources, Resources.entryAt?, Option.map_map]
  simp [Function.comp_def]

end Catalog

end Phrasebook
