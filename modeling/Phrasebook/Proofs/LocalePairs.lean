import Mathlib.Data.Finset.Card
import Phrasebook.Proofs.FallbackSearch

/-!
# The pairs of a locale

A locale defines the pairs of a namespace and a key for which the tree has a text in it. A
translator lists each of them once, and its locales are those that define a pair.
-/
namespace Phrasebook

open NameMap

namespace Resources

def pairsOf (r : Resources) (locale : String) : Finset (String × String) :=
  ((r.phrases.filter fun p => p.locale = locale).map fun p => (p.space, p.key)).toFinset

/-- A locale defines the pairs for which its texts have an entry. -/
theorem mem_pairsOf_iff {r : Resources} {locale space key : String} :
    (space, key) ∈ r.pairsOf locale ↔ (r.entryAt? locale space key).isSome := by
  simp only [pairsOf, List.mem_toFinset, List.mem_map, List.mem_filter, decide_eq_true_eq,
    Prod.mk.injEq, isSome_entryAt?_iff, Phrase.isFor_iff]
  constructor
  · rintro ⟨p, ⟨member, here⟩, same⟩
    exact ⟨p, member, here, same⟩
  · rintro ⟨p, member, here, same⟩
    exact ⟨p, ⟨member, here⟩, same⟩

theorem pairsOf_nonempty_iff {r : Resources} {locale : String} :
    (r.pairsOf locale).Nonempty ↔ ∃ p ∈ r.phrases, p.locale = locale := by
  simp [pairsOf, List.toFinset_nonempty_iff, List.filter_eq_nil_iff]

end Resources

namespace Catalog

theorem isSome_registries_add {c : Catalog} (ordered : c.Ordered) (p : Phrase) (locale : String) :
    ((c.add p).registries.get? locale).isSome ↔
      (c.registries.get? locale).isSome ∨ p.locale = locale := by
  rw [add, get?_alter ordered.ascending]
  split
  · rename_i same
    simp [same]
  · rename_i different
    simp [Ne.symm different]

theorem isSome_registries_addAll {c : Catalog} (ordered : c.Ordered) (phrases : List Phrase)
    (locale : String) :
    ((c.addAll phrases).1.registries.get? locale).isSome ↔
      (c.registries.get? locale).isSome ∨ ∃ p ∈ phrases, p.locale = locale := by
  induction phrases generalizing c with
  | nil => simp [addAll]
  | cons p rest ih =>
    have later := ih (ordered_add ordered p)
    rw [isSome_registries_add ordered, or_assoc] at later
    simpa [addAll] using later

/-- A catalog has registries for the locales that define a pair. -/
theorem isSome_registries_iff {r : Resources} {locale : String} :
    ((ofResources r).1.registries.get? locale).isSome ↔ (r.pairsOf locale).Nonempty := by
  rw [Resources.pairsOf_nonempty_iff, ofResources, isSome_registries_addAll ordered_empty]
  simp [empty, get?]

theorem mem_locales_iff {r : Resources} {locale : String} :
    locale ∈ (ofResources r).1.locales ↔ (r.pairsOf locale).Nonempty := by
  rw [locales, mem_keys_iff (ordered_ofResources r).ascending, isSome_registries_iff]

/-- The locales other than a given one. -/
theorem mem_locales_ne_iff {r : Resources} {base locale : String} :
    locale ∈ (ofResources r).1.locales.filter (· ≠ base) ↔
      (r.pairsOf locale).Nonempty ∧ locale ≠ base := by
  rw [List.mem_filter, decide_eq_true_eq, mem_locales_iff]

theorem locales_ascending (r : Resources) : (ofResources r).1.locales.Pairwise (· < ·) :=
  List.pairwise_map.mpr (ordered_ofResources r).ascending

end Catalog

namespace Translator

theorem mem_defined_ofResources {r : Resources} {options : Options} {locale : String}
    {pair : String × String} :
    pair ∈ (ofResources r options).1.defined locale ↔ pair ∈ r.pairsOf locale := by
  obtain ⟨space, key⟩ := pair
  have ordered : (ofResources r options).1.catalog.Ordered := Catalog.ordered_ofResources r
  rw [mem_defined_iff ordered, Resources.mem_pairsOf_iff,
    ← Catalog.find?_ofResources]
  rfl

/-- A translator lists every pair of a locale once. -/
theorem coe_defined_ofResources (r : Resources) (options : Options) (locale : String) :
    ((ofResources r options).1.defined locale : Multiset (String × String)) =
      (r.pairsOf locale).val := by
  have ordered : (ofResources r options).1.catalog.Ordered := Catalog.ordered_ofResources r
  have same : ((ofResources r options).1.defined locale).toFinset = r.pairsOf locale := by
    ext pair
    rw [List.mem_toFinset, mem_defined_ofResources]
  rw [← same, List.toFinset_val, (nodup_defined ordered locale).dedup]

end Translator

end Phrasebook
