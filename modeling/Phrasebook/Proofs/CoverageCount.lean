import Phrasebook.CommandLine.Coverage
import Phrasebook.Proofs.LocalePairs

/-!
# What coverage counts

Coverage compares the names that the default locale lists with the names that another locale
lists. Two pairs can share a name, since a key of the default namespace may begin with another
namespace and a colon. A pair that a locale lacks is therefore missed exactly if the locale lists
no other pair under its name, and the counts are those of the pairs for the locales that keep the
names apart.
-/
namespace Phrasebook

open CommandLine

namespace Config

/-- The name that a pair is listed by: its key, behind the namespace unless that is the default
one. -/
def nameOf (config : Config) (pair : String × String) : String :=
  if pair.1 = config.defaultNamespace then pair.2 else pair.1 ++ ":" ++ pair.2

/-- The pairs of the default locale. -/
def sourcePairs (config : Config) : Finset (String × String) :=
  config.resources.pairsOf config.defaultLocale

/-- A locale lists the name of a pair, for the pair itself or for another one. -/
def Lists (config : Config) (locale : String) (pair : String × String) : Prop :=
  ∃ other ∈ config.resources.pairsOf locale, config.nameOf other = config.nameOf pair

instance (config : Config) (locale : String) : DecidablePred (config.Lists locale) :=
  fun pair => inferInstanceAs (Decidable
    (∃ other ∈ config.resources.pairsOf locale, config.nameOf other = config.nameOf pair))

/-- A locale lists the names of those pairs of the default locale alone that it defines. -/
def KeepsApart (config : Config) (locale : String) : Prop :=
  ∀ pair ∈ config.sourcePairs, config.Lists locale pair → pair ∈ config.resources.pairsOf locale

theorem lists_of_mem {config : Config} {locale : String} {pair : String × String}
    (defined : pair ∈ config.resources.pairsOf locale) : config.Lists locale pair :=
  ⟨pair, defined, rfl⟩

theorem KeepsApart.lists_iff {config : Config} {locale : String}
    (apart : config.KeepsApart locale) {pair : String × String}
    (known : pair ∈ config.sourcePairs) :
    config.Lists locale pair ↔ pair ∈ config.resources.pairsOf locale :=
  ⟨apart pair known, lists_of_mem⟩

/-- Names of addressable pairs are kept apart. -/
theorem keepsApart_of_addressable {config : Config} {locale : String}
    (addressable : ∀ pair ∈ config.sourcePairs ∪ config.resources.pairsOf locale,
      config.translator.1.Addressable pair.1 pair.2) : config.KeepsApart locale := by
  have known {locale' : String} {pair : String × String}
      (member : pair ∈ config.resources.pairsOf locale') :
      config.translator.1.catalog.hasNamespace pair.1 = true := by
    obtain ⟨entry, held⟩ := Option.isSome_iff_exists.mp (Resources.mem_pairsOf_iff.mp member)
    rw [← Catalog.find?_ofResources] at held
    exact Catalog.hasNamespace_of_find? held
  rintro pair source ⟨other, defined, same⟩
  have equal : other = pair := Translator.eq_of_qualify_eq (known defined) (known source)
    (addressable other (Finset.mem_union_right _ defined))
    (addressable pair (Finset.mem_union_left _ source)) same
  exact equal ▸ defined

/-- The names that a locale lists are those of its pairs, one for each. -/
theorem coe_keys (config : Config) (locale : String) :
    (config.translator.1.keys locale : Multiset String) =
      (config.resources.pairsOf locale).val.map config.nameOf := by
  calc
    (config.translator.1.keys locale : Multiset String)
      = (config.translator.1.defined locale : Multiset (String × String)).map config.nameOf :=
        Multiset.coe_eq_coe.mpr (Translator.keys_perm _ locale)
    _ = (config.resources.pairsOf locale).val.map config.nameOf :=
        congrArg _ (Translator.coe_defined_ofResources _ _ locale)

theorem nameOf_mem_keys_iff {config : Config} {locale : String} {pair : String × String} :
    config.nameOf pair ∈ config.translator.1.keys locale ↔ config.Lists locale pair := by
  rw [← Multiset.mem_coe, coe_keys, Multiset.mem_map]
  rfl

/-- The missing names are those of the pairs whose names are not listed, one for each. -/
theorem coe_missingKeys (config : Config) (locale : String) :
    (config.translator.1.missingKeys config.defaultLocale locale : Multiset String) =
      (config.sourcePairs.filter (¬ config.Lists locale ·)).val.map config.nameOf := by
  have filtered : config.translator.1.missingKeys config.defaultLocale locale =
      (config.translator.1.keys config.defaultLocale).filter
        (· ∉ config.translator.1.keys locale) := by
    simp [Translator.missingKeys]
  rw [filtered, ← Multiset.filter_coe, coe_keys, Multiset.filter_map, Finset.filter_val]
  exact congrArg _ (Multiset.filter_congr fun pair _ => not_congr nameOf_mem_keys_iff)

/-- The missing keys are as many as the pairs whose names are not listed. -/
theorem length_missingKeys (config : Config) (locale : String) :
    (config.translator.1.missingKeys config.defaultLocale locale).length =
      (config.sourcePairs.filter (¬ config.Lists locale ·)).card := by
  have counted := congrArg Multiset.card (config.coe_missingKeys locale)
  rwa [Multiset.coe_card, Multiset.card_map] at counted

theorem length_keys_default (config : Config) :
    (config.translator.1.keys config.defaultLocale).length = config.sourcePairs.card := by
  have counted := congrArg Multiset.card (config.coe_keys config.defaultLocale)
  simpa [sourcePairs] using counted

end Config

namespace CommandLine.Coverage

/-- A row counts the names of the default locale: those that its locale lists, and the others. -/
structure CountsNames (config : Config) (row : Row) : Prop where
  total : row.total = config.sourcePairs.card
  translated : row.translated = (config.sourcePairs.filter (config.Lists row.locale ·)).card
  missing : (row.missing : Multiset String) =
    (config.sourcePairs.filter (¬ config.Lists row.locale ·)).val.map config.nameOf

/-- A row counts the pairs of the default locale: those that its locale defines, and the others. -/
structure CountsPairs (config : Config) (row : Row) : Prop where
  total : row.total = config.sourcePairs.card
  translated : row.translated =
    (config.sourcePairs.filter (· ∈ config.resources.pairsOf row.locale)).card
  missing : (row.missing : Multiset String) =
    (config.sourcePairs.filter (· ∉ config.resources.pairsOf row.locale)).val.map config.nameOf

/-- The locales of the rows: the wanted ones, or else all locales but the default one in order. -/
theorem locales_of_rows (config : Config) (wanted : List String) :
    let asked := (rows config wanted).map Row.locale
    (wanted ≠ [] → asked = wanted) ∧
    (wanted = [] → asked.Pairwise (· < ·) ∧ ∀ locale, locale ∈ asked ↔
      (config.resources.pairsOf locale).Nonempty ∧ locale ≠ config.defaultLocale) := by
  intro asked
  have whole : asked = locales config config.translator.1 wanted := by
    simp [asked, rows, Function.comp_def]
  rw [whole, locales]
  refine ⟨fun some => if_neg (by simpa using some), fun none => ?_⟩
  rw [if_pos (by simpa using none)]
  exact ⟨(Catalog.locales_ascending config.resources).filter _,
    fun _ => Catalog.mem_locales_ne_iff⟩

/-- Every row counts names, whatever the configuration is. -/
theorem countsNames_of_mem {config : Config} {wanted : List String} {row : Row}
    (member : row ∈ rows config wanted) : CountsNames config row := by
  obtain ⟨locale, -, rfl⟩ := List.mem_map.mp member
  have parted := Finset.card_filter_add_card_filter_not (s := config.sourcePairs)
    (config.Lists locale)
  refine ⟨config.length_keys_default, ?_, config.coe_missingKeys locale⟩
  simp only [config.length_keys_default, config.length_missingKeys]
  exact (Nat.eq_sub_of_add_eq parted).symm

/-- Names are counted as pairs are exactly if the locale keeps them apart. -/
theorem CountsNames.countsPairs_iff {config : Config} {row : Row}
    (counts : CountsNames config row) :
    CountsPairs config row ↔ config.KeepsApart row.locale := by
  constructor
  · intro pairs pair known listed
    have same := congrArg Multiset.card (pairs.missing.symm.trans counts.missing)
    rw [Multiset.card_map, Multiset.card_map] at same
    -- Unlisted pairs are lacking ones; with as many of both, all that are lacking are unlisted.
    have fewer : config.sourcePairs.filter (¬ config.Lists row.locale ·) ⊆
        config.sourcePairs.filter (· ∉ config.resources.pairsOf row.locale) :=
      Finset.monotone_filter_right _ fun pair _ unlisted defined =>
        unlisted (Config.lists_of_mem defined)
    have equal := Finset.eq_of_subset_of_card_le fewer same.le
    by_contra lacked
    have unlisted : pair ∈ config.sourcePairs.filter (¬ config.Lists row.locale ·) := by
      rw [equal]
      exact Finset.mem_filter.mpr ⟨known, lacked⟩
    exact (Finset.mem_filter.mp unlisted).2 listed
  · intro apart
    have listed : config.sourcePairs.filter (config.Lists row.locale ·) =
        config.sourcePairs.filter (· ∈ config.resources.pairsOf row.locale) :=
      Finset.filter_congr fun pair known => apart.lists_iff known
    have unlisted : config.sourcePairs.filter (¬ config.Lists row.locale ·) =
        config.sourcePairs.filter (· ∉ config.resources.pairsOf row.locale) :=
      Finset.filter_congr fun pair known => not_congr (apart.lists_iff known)
    exact ⟨counts.total, listed ▸ counts.translated, unlisted ▸ counts.missing⟩

theorem CountsNames.missing_ne_nil_iff {config : Config} {row : Row}
    (counts : CountsNames config row) :
    row.missing ≠ [] ↔ ∃ pair ∈ config.sourcePairs, ¬ config.Lists row.locale pair := by
  rw [← Finset.filter_nonempty_iff, Finset.nonempty_iff_ne_empty, ne_eq, ne_eq,
    ← Finset.val_eq_zero, ← Multiset.map_eq_zero (f := config.nameOf), ← counts.missing,
    Multiset.coe_eq_zero]

/-- The exit code tells of missing keys only when it is asked to. -/
theorem exit_code_iff (config : Config) (wanted : List String) (strict json : Bool) :
    (report config wanted strict json).exit.code = 65 ↔
      strict = true ∧ ∃ row ∈ rows config wanted, row.missing ≠ [] := by
  have incomplete : ((rows config wanted).any fun row => !row.missing.isEmpty) = true ↔
      ∃ row ∈ rows config wanted, row.missing ≠ [] := by
    simp
  rw [← incomplete, ← Bool.and_eq_true]
  simp only [report]
  split
  · rename_i failed
    simp [failed, Exit.code]
  · rename_i passed
    simp [passed, Exit.code]

/-- Every row counts names, and counts pairs exactly if its locale keeps names apart, as it does
where all pairs are addressable. A strict report fails exactly if some locale does not list the
name of some pair of the default locale, which is a pair that it lacks if names are kept apart. -/
theorem rows_count_names (config : Config) (wanted : List String) (strict json : Bool) :
    let asked := (rows config wanted).map Row.locale
    let code := (report config wanted strict json).exit.code
    ((wanted ≠ [] → asked = wanted) ∧
      (wanted = [] → asked.Pairwise (· < ·) ∧ ∀ locale, locale ∈ asked ↔
        (config.resources.pairsOf locale).Nonempty ∧ locale ≠ config.defaultLocale)) ∧
    (∀ row ∈ rows config wanted, CountsNames config row ∧
      (CountsPairs config row ↔ config.KeepsApart row.locale)) ∧
    (∀ locale, (∀ pair ∈ config.sourcePairs ∪ config.resources.pairsOf locale,
      config.translator.1.Addressable pair.1 pair.2) → config.KeepsApart locale) ∧
    (code = 65 ↔ strict = true ∧
      ∃ locale ∈ asked, ∃ pair ∈ config.sourcePairs, ¬ config.Lists locale pair) ∧
    ((∀ locale ∈ asked, config.KeepsApart locale) → (code = 65 ↔ strict = true ∧
      ∃ locale ∈ asked, ∃ pair ∈ config.sourcePairs,
        pair ∉ config.resources.pairsOf locale)) := by
  intro asked code
  have failing : code = 65 ↔ strict = true ∧
      ∃ locale ∈ asked, ∃ pair ∈ config.sourcePairs, ¬ config.Lists locale pair := by
    rw [exit_code_iff]
    simp only [asked, List.mem_map, exists_exists_and_eq_and]
    refine and_congr_right fun _ => exists_congr fun row => and_congr_right fun member => ?_
    exact (countsNames_of_mem member).missing_ne_nil_iff
  refine ⟨locales_of_rows config wanted, fun row member => ?_,
    fun locale => Config.keepsApart_of_addressable, failing, fun apart => ?_⟩
  · have counts := countsNames_of_mem member
    exact ⟨counts, counts.countsPairs_iff⟩
  · rw [failing]
    refine and_congr_right fun _ => exists_congr fun locale => and_congr_right fun member =>
      exists_congr fun pair => and_congr_right fun known => ?_
    exact not_congr ((apart locale member).lists_iff known)

/-- A menu entry, and a text of the default namespace that is listed by the same name. -/
def twins : Config where
  resources := ⟨[("de", [("translation", [("menu:open", .text "Das Menü öffnen")])]),
    ("en", [("menu", [("open", .text "Open")]),
      ("translation", [("menu:open", .text "Open the menu")])])]⟩

/-- A pair that a locale lacks need not be missed. -/
theorem rows_of_twins :
    ("menu", "open") ∈ twins.sourcePairs ∧ ("menu", "open") ∉ twins.resources.pairsOf "de" ∧
    rows twins ["de"] = [⟨"de", 2, 2, []⟩] ∧
    ¬ CountsPairs twins ⟨"de", 2, 2, []⟩ ∧
    (report twins ["de"] true true).exit.code = 0 := by
  have total : (twins.translator.1.keys "en").length = 2 :=
    twins.length_keys_default.trans (by decide +kernel)
  have missing : twins.translator.1.missingKeys "en" "de" = [] := by
    rw [← List.length_eq_zero_iff]
    exact (twins.length_missingKeys "de").trans (by decide +kernel)
  have whole : rows twins ["de"] = [⟨"de", 2, 2, []⟩] := by
    have row : rows twins ["de"] = [⟨"de", (twins.translator.1.keys "en").length -
        (twins.translator.1.missingKeys "en" "de").length, (twins.translator.1.keys "en").length,
        twins.translator.1.missingKeys "en" "de"⟩] := rfl
    rw [row, total, missing]
    rfl
  refine ⟨by decide +kernel, by decide +kernel, whole, fun counts => ?_, ?_⟩
  · have translated : (2 : Nat) = 1 := counts.translated.trans (by decide +kernel)
    cases translated
  · simp only [report, whole, Bool.true_and]
    rfl

end CommandLine.Coverage

end Phrasebook
