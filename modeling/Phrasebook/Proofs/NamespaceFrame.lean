import Phrasebook.Proofs.FallbackSearch
import Phrasebook.Proofs.Insertion

/-!
# Insertion and the other namespaces

An insertion leaves the entries of all other namespaces alone, and its own namespace has a text
afterwards. That alone can change what a name stands for: as long as the namespace has no text, a
name with the namespace and a colon in front is a key of the default namespace, and from then on
it is a key of the namespace. All other names outside the namespace are looked up as before.
-/
namespace Phrasebook

/-- A search that only one locale can answer. -/
theorem findSome?_eq_of_only {β : Type} {locales : List String} {locale : String} (answer : β) :
    (locales.findSome? fun candidate =>
      (if candidate = locale then some answer else none).map (candidate, ·)) =
      if locale ∈ locales then some (locale, answer) else none := by
  induction locales with
  | nil => rfl
  | cons head rest ih =>
    by_cases same : head = locale
    · simp [same]
    · have different : locale ≠ head := Ne.symm same
      simpa [same, different] using ih

namespace Resources

/-- A namespace is one with texts if a leaf stands in it. -/
theorem hasNamespace_iff_leaf (r : OrderedResources) {space : String} :
    r.HasNamespace space ↔ ∃ locale path, (r.leafAt? locale space path).isSome := by
  have defined (locale key : String) : (r.entryAt? locale space key).isSome ↔
      ∃ path, (r.leafAt? locale space path).isSome ∧ dotted path = key := by
    rw [← Catalog.find?_ofResources]
    exact Catalog.isSome_find?_ofResources_iff r locale space key
  simp only [hasNamespace_iff_isSome_entryAt?, defined]
  constructor
  · rintro ⟨locale, key, path, leaf, -⟩
    exact ⟨locale, path, leaf⟩
  · rintro ⟨locale, path, leaf⟩
    exact ⟨locale, dotted path, path, leaf, rfl⟩

/-- Insertion leaves the other namespaces as they are, in every locale. -/
theorem leafAt?_insert_of_other_space (r : OrderedResources) (locale space key text : String)
    {space' : String} (other : space' ≠ space) (locale' : String) (path : List String) :
    (r.insert locale space key text).leafAt? locale' space' path =
      r.leafAt? locale' space' path :=
  leafAt?_insert_of_other r locale space key text fun _ same => absurd same other

theorem hasNamespace_insert_iff (r : OrderedResources) (locale space key text : String)
    {space' : String} :
    (r.insert locale space key text).HasNamespace space' ↔
      r.HasNamespace space' ∨ space' = space := by
  rw [hasNamespace_iff_leaf, hasNamespace_iff_leaf]
  by_cases same : space' = space
  · have leaf := leafAt?_insert_self r locale space key text
    simp only [same, or_true, iff_true]
    exact ⟨locale, [key], Option.isSome_of_eq_some leaf⟩
  · simp only [leafAt?_insert_of_other_space r locale space key text same, same, or_false]

/-- Entries of other namespaces stay as they are. -/
theorem entryAt?_insert_of_other_space (r : OrderedResources) (locale space key text : String)
    {space' : String} (other : space' ≠ space) (locale' key' : String) :
    (r.insert locale space key text).entryAt? locale' space' key' =
      r.entryAt? locale' space' key' := by
  have same (path : List String) :=
    leafAt?_insert_of_other_space r locale space key text other locale' path
  rw [← Catalog.find?_ofResources, ← Catalog.find?_ofResources]
  apply Catalog.find?_ofResources_congr
  intro path text'
  exact ⟨.of_same fun path _ => (same path).symm, .of_same fun path _ => same path⟩

/-- In a namespace without texts the inserted text is the only one. -/
theorem entryAt?_insert_of_new (r : OrderedResources) (locale : String) {space : String}
    (key text : String) (new : ¬ r.HasNamespace space) (locale' key' : String) :
    (r.insert locale space key text).entryAt? locale' space key' =
      if locale' = locale ∧ key' = key then some (.ofText text) else none := by
  have bare (locale : String) (path : List String) :
      ¬ (r.leafAt? locale space path).isSome :=
    fun leaf => new ((hasNamespace_iff_leaf r).mpr ⟨locale, path, leaf⟩)
  rw [← Catalog.find?_ofResources]
  split
  · rename_i here
    obtain ⟨rfl, rfl⟩ := here
    have flat : ¬ r.DefinesNested locale' space key' := by
      rintro ⟨name, next, rest, leaf, -⟩
      exact bare _ _ leaf
    exact (Catalog.find?_ofResources_eq_some_iff _ _ _ _ _).mpr
      ⟨[key'], text, firstDefinition_insert r text flat, rfl⟩
  · -- A text at another place would be an old one, or stand below the inserted name.
    rename_i elsewhere
    rw [← Option.not_isSome_iff_eq_none, Catalog.isSome_find?_ofResources_iff]
    rintro ⟨path, leaf, named⟩
    by_cases through : locale' = locale ∧ path.head? = some key
    · obtain ⟨rfl, first⟩ := through
      have different : key' ≠ key := fun same => elsewhere ⟨rfl, same⟩
      obtain ⟨next, rest, rfl⟩ := exists_below_of_head? named different first
      rw [leafAt?_insert_below r] at leaf
      cases leaf
    · rw [leafAt?_insert_of_other r locale space key text
        fun here _ first => through ⟨here, first⟩] at leaf
      exact bare _ _ leaf

/-- A name that no colon splits at the inserted namespace stands for the same pair afterwards. -/
theorem Addresses.insert {r : OrderedResources} (locale : String) {space : String}
    (key text : String) {default name space' key' : String}
    (addresses : r.Addresses default name space' key')
    (apart : ∀ behind, ¬ SplitsAt name space behind) :
    (r.insert locale space key text).Addresses default name space' key' := by
  cases addresses with
  | split split known =>
    exact .split split ((hasNamespace_insert_iff r locale space key text).mpr (Or.inl known))
  | whole unknown =>
    refine .whole fun front behind split known => ?_
    rcases (hasNamespace_insert_iff r locale space key text).mp known with old | rfl
    · exact unknown front behind split old
    · exact apart behind split

/-- A name with a namespace in front that stands for a pair elsewhere shows that the namespace has
no text. -/
theorem Addresses.not_hasNamespace {r : Resources} {default name space key space' behind : String}
    (addresses : r.Addresses default name space key) (other : space ≠ space')
    (split' : SplitsAt name space' behind) : ¬ r.HasNamespace space' := by
  cases addresses with
  | split split known => exact absurd (split.unique split').1 other
  | whole unknown => exact unknown space' behind split'

end Resources

namespace Translator

open Resources

/-- A name that stands for a pair outside the namespace of an insertion is looked up as before,
unless the namespace and a colon stand in front of it. In that case the namespace had no text
before, the name stands for a key of it afterwards, and it is found only if that is the inserted
key, in the locale of the insertion. -/
theorem lookup_insert_outside (r : OrderedResources) (locale space key text : String)
    (options : Options) (wanted name space' key' : String)
    (addresses : r.Addresses options.defaultNamespace name space' key') (other : space' ≠ space) :
    let before := (ofResources r.toResources options).1
    let after := (ofResources (r.insert locale space key text).toResources options).1
    ((∀ behind, ¬ SplitsAt name space behind) →
      after.lookup wanted name = before.lookup wanted name) ∧
    ∀ behind, SplitsAt name space behind →
      ¬ r.HasNamespace space ∧
      after.lookup wanted name =
        if behind = key ∧ locale ∈ after.fallbackChain wanted then some (locale, .ofText text)
        else none := by
  intro before after
  refine ⟨fun apart => ?_, fun behind split => ?_⟩
  · have addresses' := addresses.insert locale key text apart
    have same (candidate : String) :=
      entryAt?_insert_of_other_space r locale space key text other candidate key'
    have asked : before.lookup wanted name = _ := lookup_ofResources r.toResources options addresses
    have asked' : after.lookup wanted name = _ := lookup_ofResources _ options addresses'
    simp only [same] at asked'
    exact asked'.trans asked.symm
  · -- The name is read anew: its namespace holds nothing but the inserted text.
    have new := addresses.not_hasNamespace other split
    have known := (hasNamespace_insert_iff r locale space key text).mpr (Or.inr rfl)
    have asked : after.lookup wanted name = _ :=
      lookup_ofResources _ options (.split split known)
    refine ⟨new, asked.trans ?_⟩
    simp only [entryAt?_insert_of_new r locale key text new]
    by_cases same : behind = key
    · simp only [same, and_true, true_and]
      exact findSome?_eq_of_only (Entry.ofText text)
    · simp [same]

def notes : OrderedResources where
  tree := [("en", [("menu", [("open", .text "Open")]),
    ("translation", [("hello", .text "Hello"), ("note:read", .text "Read the note")])])]
  ordered := by decide

theorem lookup_insert_outside_of_notes :
    notes.Addresses "translation" "menu:open" "menu" "open" ∧ "menu" ≠ "note" ∧
    (ofResources (notes.insert "en" "note" "draft" "Draft").toResources {}).1.lookup
        "en" "menu:open" =
      (ofResources notes.toResources {}).1.lookup "en" "menu:open" := by
  have addresses : notes.Addresses "translation" "menu:open" "menu" "open" :=
    (address_ofResources_iff notes.toResources {}).mp rfl
  have split : SplitsAt "menu:open" "menu" "open" := ⟨rfl, by decide⟩
  have apart (behind : String) : ¬ SplitsAt "menu:open" "note" behind :=
    fun split' => absurd (split.unique split').1 (by decide)
  have other : "menu" ≠ "note" := by decide
  exact ⟨addresses, other, (lookup_insert_outside notes "en" "note" "draft" "Draft"
    {} "en" "menu:open" "menu" "open" addresses other).1 apart⟩

/-- A text in a new namespace can take away the text of a name outside the namespace. -/
theorem insert_namespace_of_notes :
    notes.Addresses "translation" "note:read" "translation" "note:read" ∧
    (ofResources notes.toResources {}).1.lookup "en" "note:read" =
      some ("en", .ofText "Read the note") ∧
    (ofResources (notes.insert "en" "note" "draft" "Draft").toResources {}).1.lookup
      "en" "note:read" = none :=
  ⟨(address_ofResources_iff notes.toResources {}).mp rfl, rfl, rfl⟩

end Translator

end Phrasebook
