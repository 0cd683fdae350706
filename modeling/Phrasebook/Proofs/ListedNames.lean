import Mathlib.Data.List.Nodup
import Phrasebook.Catalog.Translator
import Phrasebook.Proofs.CatalogGrowth
import Phrasebook.Proofs.Cutting

/-!
# Looking keys up under their listed names

A locale lists every pair of a namespace and a key that it defines under one name, and a name is
read back as a pair at its first colon. The two agree on the addressable pairs: outside the default
namespace those whose namespace has no colon, and in the default namespace those whose key does
not begin with the name of a namespace and a colon.
-/
namespace Phrasebook

open NameMap Text

namespace Catalog

theorem hasNamespace_of_find? {c : Catalog} {locale space key : String} {entry : Entry}
    (held : c.find? locale space key = some entry) : c.hasNamespace space = true := by
  unfold find? registry at held
  cases found : (c.registriesOf locale).get? space with
  | none => simp [found] at held
  | some registry =>
    unfold registriesOf at found
    cases found' : c.registries.get? locale with
    | none => simp [found', get?] at found
    | some spaces =>
      have inside : spaces.contains space = true := by
        simp only [found', Option.getD_some] at found
        simp [contains, found]
      exact List.any_eq_true.mpr ⟨(locale, spaces), mem_of_get? found', inside⟩

end Catalog

namespace Translator

/-- The name of a pair leads back to it. In the default namespace no namespace and colon may be in
front of the key, and elsewhere no colon may be in the namespace. -/
def Addressable (t : Translator) (space key : String) : Prop :=
  (space = t.defaultNamespace → ∀ front behind, key = front ++ ":" ++ behind →
    ':' ∉ front.toList → t.catalog.hasNamespace front = false) ∧
  (space ≠ t.defaultNamespace → ':' ∉ space.toList)

theorem cut_colon_eq_some_iff {name front behind : String} :
    cut (· = ':') name = some (front, behind) ↔
      name = front ++ ":" ++ behind ∧ ':' ∉ front.toList := by
  rw [cut_eq_some_iff, ← String.toList_inj]
  simp

theorem ne_append_colon (front behind : String) : behind ≠ front ++ ":" ++ behind := by
  intro same
  have length := congrArg String.length same
  simp at length

/-- A key of the default namespace is its own name unless a namespace with texts stands in front of
its first colon. -/
theorem address_default_iff {t : Translator} {key : String} :
    t.address key = (t.defaultNamespace, key) ↔ ∀ front behind, key = front ++ ":" ++ behind →
      ':' ∉ front.toList → t.catalog.hasNamespace front = false := by
  unfold address
  cases parted : cut (· = ':') key with
  | none =>
    simp only [true_iff]
    intro front behind whole clear
    rw [cut_colon_eq_some_iff.mpr ⟨whole, clear⟩] at parted
    cases parted
  | some parts =>
    obtain ⟨front, behind⟩ := parts
    obtain ⟨whole, clear⟩ := cut_colon_eq_some_iff.mp parted
    cases known : t.catalog.hasNamespace front with
    | true =>
      simp only [known, if_true, Prod.mk.injEq]
      constructor
      · rintro ⟨-, same⟩
        exact absurd (same.trans whole) (ne_append_colon front behind)
      · intro unknown
        rw [unknown front behind whole clear] at known
        cases known
    | false =>
      simp only [known, Bool.false_eq_true, if_false, true_iff]
      intro front' behind' whole' clear'
      rw [cut_colon_eq_some_iff.mpr ⟨whole', clear'⟩] at parted
      cases parted
      exact known

theorem address_other_iff {t : Translator} {space key : String}
    (known : t.catalog.hasNamespace space = true) (other : space ≠ t.defaultNamespace) :
    t.address (space ++ ":" ++ key) = (space, key) ↔ ':' ∉ space.toList := by
  constructor
  · intro addressed inside
    have colon : ':' ∈ (space ++ ":" ++ key).toList := by simp
    unfold address at addressed
    cases parted : cut (· = ':') (space ++ ":" ++ key) with
    | none => exact cut_eq_none_iff.mp parted colon
    | some parts =>
      obtain ⟨front, behind⟩ := parts
      obtain ⟨-, clear⟩ := cut_colon_eq_some_iff.mp parted
      simp only [parted] at addressed
      split at addressed
      · cases addressed
        exact clear inside
      · exact other (congrArg Prod.fst addressed).symm
  · intro clear
    simp [address, cut_colon_eq_some_iff.mpr ⟨rfl, clear⟩, known]

/-- The name of a pair is read back as the pair exactly if the pair is addressable. -/
theorem address_qualify_iff {t : Translator} {space key : String}
    (known : t.catalog.hasNamespace space = true) :
    t.address (t.qualify space key) = (space, key) ↔ t.Addressable space key := by
  unfold qualify Addressable
  by_cases default : space = t.defaultNamespace
  · simp [default, address_default_iff]
  · simp [default, address_other_iff known default]

/-- A locale with a name is the first of its fallback chain. -/
theorem fallbackChain_eq_cons {t : Translator} {locale : String} (named : locale ≠ "") :
    ∃ others, t.fallbackChain locale = locale :: others := by
  simp [fallbackChain, named, List.eraseDups_cons]

/-- A pair that a locale defines is found there by any name that addresses it. -/
theorem lookup_of_address {t : Translator} {locale name space key : String} {entry : Entry}
    (named : locale ≠ "") (addressed : t.address name = (space, key))
    (held : t.catalog.find? locale space key = some entry) :
    t.lookup locale name = some (locale, entry) := by
  obtain ⟨others, chain⟩ := fallbackChain_eq_cons (t := t) named
  simp [lookup, addressed, chain, held]

/-! The names that a locale lists. -/

/-- The pairs that a locale defines are those with an entry. -/
theorem mem_defined_iff {t : Translator} (ordered : t.catalog.Ordered)
    (locale space key : String) :
    (space, key) ∈ t.defined locale ↔ (t.catalog.find? locale space key).isSome := by
  have spacesOrdered := Catalog.ordered_registriesOf ordered locale
  unfold defined Catalog.find? Catalog.registry
  rw [List.mem_flatMap]
  constructor
  · rintro ⟨⟨space', registry⟩, member, inside⟩
    obtain ⟨key', listed, same⟩ := List.mem_map.mp inside
    cases same
    obtain ⟨⟨key', entry⟩, held, rfl⟩ := List.mem_map.mp listed
    have found := (get?_eq_some_iff spacesOrdered.ascending).mpr member
    have entryFound := (get?_eq_some_iff (spacesOrdered.each _ member)).mpr held
    simp [found, Registry.get?, entryFound]
  · intro shown
    obtain ⟨entry, found⟩ := Option.isSome_iff_exists.mp shown
    cases found' : (t.catalog.registriesOf locale).get? space with
    | none => simp [found'] at found
    | some registry =>
      rw [found', Option.getD_some] at found
      refine ⟨(space, registry), mem_of_get? found', List.mem_map.mpr ⟨key, ?_, rfl⟩⟩
      exact List.mem_map.mpr ⟨(key, entry), mem_of_get? found, rfl⟩

/-- The pairs of a locale stand in the order of their namespaces and, in one namespace, of their
keys. -/
theorem defined_ascending {t : Translator} (ordered : t.catalog.Ordered) (locale : String) :
    (t.defined locale).Pairwise fun a b => a.1 < b.1 ∨ a.1 = b.1 ∧ a.2 < b.2 := by
  have spacesOrdered := Catalog.ordered_registriesOf ordered locale
  unfold defined
  rw [List.pairwise_flatMap]
  refine ⟨fun pair member => ?_, spacesOrdered.ascending.imp fun {one other} smaller => ?_⟩
  · simp only [Registry.keys, NameMap.keys, List.map_map, List.pairwise_map]
    have ascending : pair.2.entries.Pairwise fun a b => a.1 < b.1 := spacesOrdered.each pair member
    exact ascending.imp fun smaller => Or.inr ⟨rfl, smaller⟩
  · intro a inOne b inOther
    obtain ⟨_, -, rfl⟩ := List.mem_map.mp inOne
    obtain ⟨_, -, rfl⟩ := List.mem_map.mp inOther
    exact Or.inl smaller

theorem nodup_defined {t : Translator} (ordered : t.catalog.Ordered) (locale : String) :
    (t.defined locale).Nodup := by
  refine (defined_ascending ordered locale).imp fun before same => ?_
  rcases before with smaller | ⟨-, smaller⟩
  · exact Std.ne_of_lt smaller (congrArg Prod.fst same)
  · exact Std.ne_of_lt smaller (congrArg Prod.snd same)

theorem keys_perm (t : Translator) (locale : String) :
    (t.keys locale).Perm ((t.defined locale).map fun pair => t.qualify pair.1 pair.2) :=
  List.mergeSort_perm _ _

theorem keys_ascending (t : Translator) (locale : String) :
    (t.keys locale).Pairwise (· ≤ ·) := by
  have transitive : ∀ a b c : String, (!decide (b < a)) = true → (!decide (c < b)) = true →
      (!decide (c < a)) = true := by
    intro a b c first second
    simp only [Bool.not_eq_true', decide_eq_false_iff_not, String.not_lt] at *
    exact String.le_trans first second
  have total : ∀ a b : String, ((!decide (b < a)) || !decide (a < b)) = true := by
    intro a b
    simp only [Bool.or_eq_true, Bool.not_eq_true', decide_eq_false_iff_not, String.not_lt]
    exact String.le_total a b
  have sorted := List.pairwise_mergeSort transitive total
    ((t.defined locale).map fun pair => t.qualify pair.1 pair.2)
  refine sorted.imp fun before => ?_
  simpa only [Bool.not_eq_true', decide_eq_false_iff_not, String.not_lt] using before

/-- The listed names are strictly ascending exactly if no two pairs of the locale share one. -/
theorem keys_strictly_ascending_iff {t : Translator} (ordered : t.catalog.Ordered)
    (locale : String) :
    (t.keys locale).Pairwise (· < ·) ↔
      ∀ pair ∈ t.defined locale, ∀ other ∈ t.defined locale,
        t.qualify pair.1 pair.2 = t.qualify other.1 other.2 → pair = other := by
  rw [← List.nodup_map_iff_inj_on (nodup_defined ordered locale), ← (keys_perm t locale).nodup_iff]
  constructor
  · exact fun strict => strict.imp fun smaller => Std.ne_of_lt smaller
  · intro distinct
    exact ((keys_ascending t locale).and distinct).imp fun ⟨before, different⟩ =>
      Std.lt_of_le_of_ne before different

/-- Two addressable pairs of a locale have different names. -/
theorem eq_of_qualify_eq {t : Translator} {space key space' key' : String}
    (known : t.catalog.hasNamespace space = true) (known' : t.catalog.hasNamespace space' = true)
    (addressable : t.Addressable space key) (addressable' : t.Addressable space' key')
    (same : t.qualify space key = t.qualify space' key') : (space, key) = (space', key') := by
  rw [← (address_qualify_iff known).mpr addressable, same,
    (address_qualify_iff known').mpr addressable']

/-- A locale lists each pair that it defines under one name, in ascending order. The name leads
back to the pair exactly if the pair is addressable; then looking it up in a locale with a name
gives that locale and the entry of the pair. No two addressable pairs share a name, and the list
is strictly ascending exactly if no two pairs do. -/
theorem listed_names_resolve (r : Resources) (options : Options) (active locale : String) :
    let t := (ofResources r options).1.activate active
    (∀ space key, (space, key) ∈ t.defined locale ↔
      (t.catalog.find? locale space key).isSome) ∧
    (t.keys locale).Perm ((t.defined locale).map fun pair => t.qualify pair.1 pair.2) ∧
    (∀ space key, (space, key) ∈ t.defined locale →
      (t.address (t.qualify space key) = (space, key) ↔ t.Addressable space key)) ∧
    (∀ space key entry, t.catalog.find? locale space key = some entry →
      t.Addressable space key → locale ≠ "" →
      t.lookup locale (t.qualify space key) = some (locale, entry)) ∧
    (∀ pair ∈ t.defined locale, ∀ other ∈ t.defined locale,
      t.Addressable pair.1 pair.2 → t.Addressable other.1 other.2 →
      t.qualify pair.1 pair.2 = t.qualify other.1 other.2 → pair = other) ∧
    (t.keys locale).Pairwise (· ≤ ·) ∧
    ((t.keys locale).Pairwise (· < ·) ↔
      ∀ pair ∈ t.defined locale, ∀ other ∈ t.defined locale,
        t.qualify pair.1 pair.2 = t.qualify other.1 other.2 → pair = other) := by
  intro t
  have ordered : t.catalog.Ordered := Catalog.ordered_ofResources r
  have known {pair : String × String} (member : pair ∈ t.defined locale) :
      t.catalog.hasNamespace pair.1 = true := by
    obtain ⟨entry, held⟩ :=
      Option.isSome_iff_exists.mp ((mem_defined_iff ordered locale pair.1 pair.2).mp member)
    exact Catalog.hasNamespace_of_find? held
  refine ⟨mem_defined_iff ordered locale, keys_perm t locale, ?_, ?_, ?_, keys_ascending t locale,
    keys_strictly_ascending_iff ordered locale⟩
  · intro space key member
    exact address_qualify_iff (known member)
  · intro space key entry held addressable named
    have addressed :=
      (address_qualify_iff (Catalog.hasNamespace_of_find? held)).mpr addressable
    exact lookup_of_address named addressed held
  · intro pair member other member' addressable addressable' same
    exact eq_of_qualify_eq (known member) (known member') addressable addressable' same

/-- A tree with a key that begins with a namespace and a colon, a namespace with a colon, and a
locale without a name. -/
def colons : Resources :=
  ⟨[("", [("translation", [("bye", .text "Bye")])]),
    ("en", [("a:b", [("c", .text "Hidden")]), ("menu", [("open", .text "Open")]),
      ("translation", [("menu:open", .text "Open the menu")])])]⟩

/-- Not every listed name leads back to its pair, and the list need not be strictly ascending. -/
theorem listed_names_of_colons :
    let t := (ofResources colons {}).1
    (t.catalog.find? "en" "translation" "menu:open" = some (.ofText "Open the menu") ∧
      t.lookup "en" (t.qualify "translation" "menu:open") = some ("en", .ofText "Open")) ∧
    ¬ (t.keys "en").Pairwise (· < ·) ∧
    (t.catalog.find? "en" "a:b" "c" = some (.ofText "Hidden") ∧
      t.lookup "en" (t.qualify "a:b" "c") = none) ∧
    (t.catalog.find? "" "translation" "bye" = some (.ofText "Bye") ∧
      t.lookup "" (t.qualify "translation" "bye") = none) := by
  refine ⟨⟨rfl, rfl⟩, ?_, ⟨rfl, rfl⟩, ⟨rfl, rfl⟩⟩
  intro strict
  have ordered : (ofResources colons {}).1.catalog.Ordered := Catalog.ordered_ofResources colons
  have same := (keys_strictly_ascending_iff ordered "en").mp strict ("menu", "open")
    ((mem_defined_iff ordered "en" "menu" "open").mpr rfl) ("translation", "menu:open")
    ((mem_defined_iff ordered "en" "translation" "menu:open").mpr rfl) rfl
  exact absurd same (by decide)

end Translator

end Phrasebook
