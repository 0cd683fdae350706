import Phrasebook.Config.Basic
import Phrasebook.Proofs.ListedNames

/-!
# Searching the fallback chain

The fallback chain is made in two steps, each of which drops repeated locales, and together they
keep the first occurrence of every candidate with a name. A lookup asks the locales of the chain
in order for the pair that the name stands for. What the translator answers is described here by
the texts of the configuration alone.
-/
namespace Phrasebook

open NameMap Text

/-! Names that are kept once. -/

/-- The names of a list without the empty one, each where it first stands. -/
def firstNames : List String → List String
  | [] => []
  | name :: rest =>
    if name = "" then firstNames rest else name :: (firstNames rest).filter (· ≠ name)

theorem filter_eraseDups (p : String → Bool) (names : List String) :
    names.eraseDups.filter p = (names.filter p).eraseDups := by
  -- The recursion is on the length, since `eraseDups` goes on in a filtered rest.
  match names with
  | [] => rfl
  | name :: rest =>
    rw [List.eraseDups_cons, List.filter_cons, List.filter_cons,
      filter_eraseDups p (rest.filter fun other => !other == name), List.filter_filter]
    by_cases kept : p name = true
    · simp only [kept, if_true, List.eraseDups_cons, List.filter_filter, Bool.and_comm]
    · have without : (rest.filter fun other => p other && !other == name) = rest.filter p := by
        apply List.filter_congr
        intro other _
        by_cases same : other = name
        · simp [same, kept]
        · simp [same]
      simp [kept, without]
termination_by names.length
decreasing_by
  exact Nat.lt_succ_of_le (List.length_filter_le _ _)

theorem eraseDups_cons_eq_filter (name : String) (rest : List String) :
    (name :: rest).eraseDups = name :: rest.eraseDups.filter (· ≠ name) := by
  simp [List.eraseDups_cons, filter_eraseDups, beq_eq_decide]

theorem eraseDups_eraseDups (names : List String) :
    names.eraseDups.eraseDups = names.eraseDups := by
  induction names with
  | nil => rfl
  | cons name rest ih =>
    rw [eraseDups_cons_eq_filter, eraseDups_cons_eq_filter, ← filter_eraseDups, ih,
      List.filter_filter]
    simp

theorem mem_firstNames_iff {name : String} {names : List String} :
    name ∈ firstNames names ↔ name ≠ "" ∧ name ∈ names := by
  induction names with
  | nil => simp [firstNames]
  | cons head rest ih =>
    by_cases empty : head = ""
    · simp only [firstNames, empty, if_true, ih, List.mem_cons]
      exact ⟨fun ⟨named, later⟩ => ⟨named, Or.inr later⟩,
        fun ⟨named, member⟩ => ⟨named, member.resolve_left named⟩⟩
    · simp only [firstNames, empty, if_false, List.mem_cons, List.mem_filter, ih]
      by_cases same : name = head
      · simp [same, empty]
      · simp [same]

/-- Names that answer nothing do not matter to a search. -/
theorem findSome?_filter_ne {β : Type} {answer : String → Option β} {name : String}
    (nothing : answer name = none) (names : List String) :
    (names.filter (· ≠ name)).findSome? answer = names.findSome? answer := by
  induction names with
  | nil => rfl
  | cons head rest ih =>
    by_cases same : head = name
    · simpa [same, nothing] using ih
    · have later : rest.findSome? answer = (rest.filter (· ≠ name)).findSome? answer := ih.symm
      simp [same, List.findSome?_cons, later]

theorem eraseDups_filter_eq_firstNames (names : List String) :
    (names.filter (· ≠ "")).eraseDups = firstNames names := by
  induction names with
  | nil => rfl
  | cons name rest ih =>
    by_cases empty : name = ""
    · simpa [firstNames, empty] using ih
    · simp only [firstNames, empty, if_false, ← ih, ← eraseDups_cons_eq_filter]
      simp [empty]

/-- Repeated names can be dropped from the end of a list beforehand. -/
theorem firstNames_append_eraseDups (front rest : List String) :
    firstNames (front ++ rest.eraseDups) = firstNames (front ++ rest) := by
  induction front with
  | nil =>
    rw [List.nil_append, List.nil_append, ← eraseDups_filter_eq_firstNames,
      ← eraseDups_filter_eq_firstNames, filter_eraseDups, eraseDups_eraseDups]
  | cons name front ih => simp only [List.cons_append, firstNames, ih]

/-! What a tree says about names. -/

/-- The first colon of a name stands between two texts. -/
structure SplitsAt (name front behind : String) : Prop where
  whole : name = front ++ ":" ++ behind
  clear : ':' ∉ front.toList

theorem cut_colon_iff {name front behind : String} :
    cut (· = ':') name = some (front, behind) ↔ SplitsAt name front behind := by
  rw [Translator.cut_colon_eq_some_iff]
  exact ⟨fun ⟨whole, clear⟩ => ⟨whole, clear⟩, fun split => ⟨split.whole, split.clear⟩⟩

/-- There is one first colon. -/
theorem SplitsAt.unique {name front behind front' behind' : String}
    (split : SplitsAt name front behind) (split' : SplitsAt name front' behind') :
    front = front' ∧ behind = behind' := by
  have same := (cut_colon_iff.mpr split).symm.trans (cut_colon_iff.mpr split')
  simpa using same

namespace Resources

def HasNamespace (r : Resources) (space : String) : Prop :=
  ∃ p ∈ r.phrases, p.space = space

/-- The pair of a namespace and a key that a name stands for. It is split at its first colon if a
namespace with texts stands before that, and is a key of the default namespace otherwise. -/
inductive Addresses (r : Resources) (default name : String) : String → String → Prop
  | split {space key : String} (split : SplitsAt name space key) (known : r.HasNamespace space) :
      Addresses r default name space key
  | whole (unknown : ∀ front behind, SplitsAt name front behind → ¬ r.HasNamespace front) :
      Addresses r default name default name

/-- A locale that defines a pair, with its entry, where none before it among some locales does. -/
structure FirstToDefine (r : Resources) (locales : List String) (space key found : String)
    (entry : Entry) : Prop where
  held : r.entryAt? found space key = some entry
  first : ∃ before after, locales = before ++ found :: after ∧
    ∀ other ∈ before, r.entryAt? other space key = none

theorem isSome_entryAt?_iff {r : Resources} {locale space key : String} :
    (r.entryAt? locale space key).isSome ↔ ∃ p ∈ r.phrases, p.isFor locale space key = true := by
  rw [entryAt?, Option.isSome_map, List.find?_isSome]

theorem hasNamespace_iff_isSome_entryAt? {r : Resources} {space : String} :
    r.HasNamespace space ↔ ∃ locale key, (r.entryAt? locale space key).isSome := by
  simp only [isSome_entryAt?_iff, Phrase.isFor_iff]
  constructor
  · rintro ⟨p, member, rfl⟩
    exact ⟨p.locale, p.key, p, member, rfl, rfl, rfl⟩
  · rintro ⟨locale, key, p, member, -, here, -⟩
    exact ⟨p, member, here⟩

/-- What the first of some locales to define a pair has for it. -/
def search (r : Resources) (space key : String) (locales : List String) :
    Option (String × Entry) :=
  (firstNames locales).findSome? fun locale => (r.entryAt? locale space key).map (locale, ·)

/-- The search finds the first locale to define the pair, where the empty name does not count. -/
theorem search_eq_some_iff {r : Resources} {space key : String} {locales : List String}
    {found : String} {entry : Entry} :
    r.search space key locales = some (found, entry) ↔
      r.FirstToDefine (firstNames locales) space key found entry := by
  rw [search, List.findSome?_eq_some_iff]
  constructor
  · rintro ⟨before, locale, after, whole, answer, none⟩
    obtain ⟨held, here, same⟩ := Option.map_eq_some_iff.mp answer
    cases same
    exact ⟨here, before, after, whole, fun other member => by simpa using none other member⟩
  · rintro ⟨held, before, after, whole, none⟩
    exact ⟨before, found, after, whole, by simp [held],
      fun other member => by simp [none other member]⟩

theorem search_eq_none_iff {r : Resources} {space key : String} {locales : List String} :
    r.search space key locales = none ↔
      ∀ locale ∈ firstNames locales, r.entryAt? locale space key = none := by
  simp [search]

theorem search_eq_none_of_absent {r : Resources} {space key : String} {locales : List String}
    (absent : ∀ locale ∈ locales, locale ≠ "" → r.entryAt? locale space key = none) :
    r.search space key locales = none := by
  rw [search_eq_none_iff]
  intro locale kept
  obtain ⟨named, member⟩ := mem_firstNames_iff.mp kept
  exact absent locale member named

theorem search_singleton (r : Resources) (space key locale : String) :
    r.search space key [locale] =
      if locale = "" then none else (r.entryAt? locale space key).map (locale, ·) := by
  by_cases empty : locale = ""
  · simp [search, firstNames, empty]
  · cases held : r.entryAt? locale space key <;> simp [search, firstNames, empty, held]

theorem search_cons (r : Resources) (space key locale : String) (others : List String) :
    r.search space key (locale :: others) =
      (r.search space key [locale]).or (r.search space key others) := by
  by_cases empty : locale = ""
  · simp [search, firstNames, empty]
  · cases held : r.entryAt? locale space key with
    | none =>
      -- The locale is taken out of the others, where it could only answer nothing again.
      have nothing : (r.entryAt? locale space key).map (locale, ·) = none := by rw [held]; rfl
      simp only [search, firstNames, empty, if_false, List.findSome?_cons, held]
      exact findSome?_filter_ne nothing _
    | some entry => simp [search, firstNames, empty, held]

/-- A list of locales can be searched part by part. -/
theorem search_append (r : Resources) (space key : String) (front behind : List String) :
    r.search space key (front ++ behind) =
      (r.search space key front).or (r.search space key behind) := by
  induction front with
  | nil => rfl
  | cons locale front ih =>
    rw [List.cons_append, search_cons, ih, search_cons r space key locale front, Option.or_assoc]

end Resources

namespace Catalog

theorem hasNamespace_iff {c : Catalog} (ordered : c.Ordered) (space : String) :
    c.hasNamespace space = true ↔ ∃ locale, ((c.registriesOf locale).get? space).isSome := by
  unfold hasNamespace
  rw [List.any_eq_true]
  constructor
  · rintro ⟨⟨locale, spaces⟩, member, inside⟩
    have found := (get?_eq_some_iff ordered.ascending).mpr member
    exact ⟨locale, by simpa [registriesOf, found, contains] using inside⟩
  · rintro ⟨locale, shown⟩
    cases found : c.registries.get? locale with
    | none => simp [registriesOf, found, get?] at shown
    | some spaces =>
      exact ⟨(locale, spaces), mem_of_get? found, by
        simpa [registriesOf, found, contains] using shown⟩

/-- A phrase brings in its own namespace and no other. -/
theorem hasNamespace_of_add {c : Catalog} (ordered : c.Ordered) (p : Phrase) {space : String}
    (known : (c.add p).hasNamespace space = true) :
    c.hasNamespace space = true ∨ p.space = space := by
  rw [hasNamespace_iff (ordered_add ordered p)] at known
  obtain ⟨locale, shown⟩ := known
  rw [registriesOf_add ordered] at shown
  by_cases own : space = p.space
  · exact Or.inr own.symm
  · left
    rw [hasNamespace_iff ordered]
    split at shown
    · rw [get?_alter_of_ne own] at shown
      exact ⟨p.locale, shown⟩
    · exact ⟨locale, shown⟩

theorem hasNamespace_of_addAll {c : Catalog} (ordered : c.Ordered) (phrases : List Phrase)
    {space : String} (known : (c.addAll phrases).1.hasNamespace space = true) :
    c.hasNamespace space = true ∨ ∃ p ∈ phrases, p.space = space := by
  induction phrases generalizing c with
  | nil => exact Or.inl known
  | cons p rest ih =>
    rcases ih (ordered_add ordered p) known with before | ⟨q, member, same⟩
    · rcases hasNamespace_of_add ordered p before with older | same
      · exact Or.inl older
      · exact Or.inr ⟨p, List.mem_cons_self, same⟩
    · exact Or.inr ⟨q, List.mem_cons_of_mem _ member, same⟩

/-- A catalog knows the namespaces in which its tree has texts. -/
theorem hasNamespace_ofResources_iff {r : Resources} {space : String} :
    (ofResources r).1.hasNamespace space = true ↔ r.HasNamespace space := by
  constructor
  · intro known
    rcases hasNamespace_of_addAll ordered_empty r.phrases known with none | held
    · cases none
    · exact held
  · intro held
    obtain ⟨locale, key, shown⟩ := Resources.hasNamespace_iff_isSome_entryAt?.mp held
    obtain ⟨entry, found⟩ := Option.isSome_iff_exists.mp shown
    rw [← find?_ofResources] at found
    exact hasNamespace_of_find? found

end Catalog

namespace Translator

/-- What stands in a locale before its first hyphen or underscore. -/
def IsBaseLanguage (base locale : String) : Prop :=
  ∃ mark behind, (mark = '-' ∨ mark = '_') ∧ locale.toList = base.toList ++ mark :: behind ∧
    '-' ∉ base.toList ∧ '_' ∉ base.toList

theorem isBaseLanguage_iff_cut {base locale : String} :
    IsBaseLanguage base locale ↔
      (cut (fun c => c = '-' || c = '_') locale).map Prod.fst = some base := by
  unfold cut IsBaseLanguage
  simp only [Option.map_map, Option.map_eq_some_iff, Function.comp_apply, Prod.exists]
  constructor
  · rintro ⟨mark, behind, stop, whole, noHyphen, noUnderscore⟩
    refine ⟨base.toList, behind, ?_, String.ofList_toList⟩
    rw [whole]
    apply cutChars_append
    · intro c member
      simp only [Bool.or_eq_false_iff, decide_eq_false_iff_not]
      constructor
      · rintro rfl
        exact noHyphen member
      · rintro rfl
        exact noUnderscore member
    · simpa using stop
  · rintro ⟨front, behind, found, rfl⟩
    obtain ⟨mark, stop, whole, clear⟩ := cutChars_sound found
    have apart {c : Char} (stops : (decide (c = '-') || decide (c = '_')) = true) :
        c ∉ front := by
      intro member
      rw [clear c member] at stops
      cases stops
    rw [String.toList_ofList]
    exact ⟨mark, behind, by simpa using stop, whole, apart rfl, apart rfl⟩

/-- The base language of a locale is what stands before its first mark, and has a name. -/
theorem baseLanguage?_eq_some_iff {base locale : String} :
    baseLanguage? locale = some base ↔ IsBaseLanguage base locale ∧ base ≠ "" := by
  rw [isBaseLanguage_iff_cut, baseLanguage?, Option.filter_eq_some_iff]
  simp

example : baseLanguage? "pt_BR" = some "pt" ∧ baseLanguage? "-x" = none := by
  decide

/-- A name is taken for the pair that it addresses, and for no other. -/
theorem address_ofResources_iff (r : Resources) (options : Options) {name space key : String} :
    (ofResources r options).1.address name = (space, key) ↔
      r.Addresses options.defaultNamespace name space key := by
  constructor
  · intro addressed
    unfold address at addressed
    cases parted : cut (· = ':') name with
    | none =>
      simp only [parted] at addressed
      cases addressed
      refine .whole fun front behind split => ?_
      rw [cut_colon_iff.mpr split] at parted
      cases parted
    | some parts =>
      have split : SplitsAt name parts.1 parts.2 := cut_colon_iff.mp parted
      simp only [parted] at addressed
      split at addressed
      · rename_i known
        cases addressed
        exact .split split (Catalog.hasNamespace_ofResources_iff.mp known)
      · rename_i unknown
        cases addressed
        refine .whole fun front behind split' known => unknown ?_
        obtain ⟨rfl, -⟩ := split.unique split'
        exact Catalog.hasNamespace_ofResources_iff.mpr known
  · intro addresses
    cases addresses with
    | split split known =>
      have listed := Catalog.hasNamespace_ofResources_iff.mpr known
      simp only [address, cut_colon_iff.mpr split]
      exact if_pos listed
    | whole unknown =>
      refine address_default_iff.mpr fun front behind whole clear => ?_
      rw [Bool.eq_false_iff]
      exact fun known => unknown front behind ⟨whole, clear⟩
        (Catalog.hasNamespace_ofResources_iff.mp known)

/-- A name stands for exactly one pair. -/
theorem exists_addresses_iff_eq (r : Resources) (default name : String) :
    ∃ space key, ∀ space' key', r.Addresses default name space' key' ↔
      space' = space ∧ key' = key := by
  let t := (ofResources r { defaultNamespace := default }).1
  refine ⟨(t.address name).1, (t.address name).2, fun space key => ?_⟩
  have addressed : t.address name = (space, key) ↔ r.Addresses default name space key :=
    address_ofResources_iff r { defaultNamespace := default }
  rw [← addressed, Prod.ext_iff]
  exact ⟨fun ⟨one, other⟩ => ⟨one.symm, other.symm⟩, fun ⟨one, other⟩ => ⟨one.symm, other.symm⟩⟩

/-- Looking a name up is searching the fallback chain for the pair that it addresses. -/
theorem lookup_ofResources (r : Resources) (options : Options) {locale name space key : String}
    (addresses : r.Addresses options.defaultNamespace name space key) :
    (ofResources r options).1.lookup locale name =
      ((ofResources r options).1.fallbackChain locale).findSome? fun candidate =>
        (r.entryAt? candidate space key).map (candidate, ·) := by
  simp only [lookup, (address_ofResources_iff r options).mpr addresses,
    ← Catalog.find?_ofResources]
  rfl

end Translator

namespace Config

/-- The locales that count for a wanted one: itself, its base language, the default locale and the
fallback locales. -/
def candidates (config : Config) (locale : String) : List String :=
  locale :: (Translator.baseLanguage? locale).toList ++
    config.defaultLocale :: config.fallbackLocales

/-- The chain of a configuration lists the candidates, without repetitions and without the empty
name. -/
theorem fallbackChain_translator (config : Config) (locale : String) :
    config.translator.1.fallbackChain locale = firstNames (config.candidates locale) := by
  calc
    config.translator.1.fallbackChain locale
      = firstNames (locale :: (Translator.baseLanguage? locale).toList ++
          (config.defaultLocale :: config.fallbackLocales).eraseDups) :=
        eraseDups_filter_eq_firstNames _
    _ = firstNames (config.candidates locale) := firstNames_append_eraseDups _ _

example :
    let config : Config := { defaultLocale := "en", fallbackLocales := ["fr", "", "de", "en"] }
    config.translator.1.fallbackChain "de-AT" = ["de-AT", "de", "en", "fr"] := by
  decide

/-- A lookup searches the candidates for the pair that the name stands for. -/
theorem lookup_translator (config : Config) {locale name space key : String}
    (addresses : config.resources.Addresses config.defaultNamespace name space key) :
    config.translator.1.lookup locale name =
      config.resources.search space key (config.candidates locale) := by
  have asked : config.translator.1.lookup locale name =
      (config.translator.1.fallbackChain locale).findSome? fun candidate =>
        (config.resources.entryAt? candidate space key).map (candidate, ·) :=
    Translator.lookup_ofResources config.resources config.translatorOptions addresses
  rwa [fallbackChain_translator] at asked

/-- What is shown for a name once the search for it is done. -/
def shown (config : Config) (name : String) (params : Params) :
    Option (String × Entry) → Rendered
  | some (_, entry) => entry.template.render params config.escapesValues
  | none => ⟨name, []⟩

/-- A name is translated by what the search among the candidates finds. -/
theorem translate_translator (config : Config) (locale : String) {name space key : String}
    (addresses : config.resources.Addresses config.defaultNamespace name space key)
    (params : Params) :
    config.translator.1.translate locale name params =
      config.shown name params (config.resources.search space key (config.candidates locale)) := by
  rw [Translator.translate, config.lookup_translator addresses]
  cases config.resources.search space key (config.candidates locale) <;> rfl

/-- The chain of a locale is the list of its candidates, with empty names dropped and only the
first occurrence of each name kept; the base language among them is what stands before the first
hyphen or underscore, if anything does. A lookup gives the first locale of the chain that defines
the pair that the name stands for, with its entry, and nothing if none does. A translation fills
the template of that entry, and is the whole name if there is none. -/
theorem first_candidate_answers (config : Config) (active locale name : String) :
    let t := config.translator.1.activate active
    let r := config.resources
    let chain := firstNames (config.candidates locale)
    (∀ base, Translator.baseLanguage? locale = some base ↔
      Translator.IsBaseLanguage base locale ∧ base ≠ "") ∧
    t.fallbackChain locale = chain ∧
    ∃ space key,
      (∀ space' key', r.Addresses config.defaultNamespace name space' key' ↔
        space' = space ∧ key' = key) ∧
      (∀ found entry, t.lookup locale name = some (found, entry) ↔
        r.FirstToDefine chain space key found entry) ∧
      (t.lookup locale name = none ↔
        ∀ candidate ∈ chain, r.entryAt? candidate space key = none) ∧
      (∀ found entry, r.FirstToDefine chain space key found entry → ∀ params,
        t.translate locale name params = entry.template.render params config.escapesValues) ∧
      ((∀ candidate ∈ chain, r.entryAt? candidate space key = none) → ∀ params,
        t.translate locale name params = ⟨name, []⟩) := by
  intro t r chain
  obtain ⟨space, key, pair⟩ :=
    Translator.exists_addresses_iff_eq r config.defaultNamespace name
  have addresses := (pair space key).mpr ⟨rfl, rfl⟩
  have searched : t.lookup locale name = r.search space key (config.candidates locale) :=
    config.lookup_translator addresses
  have rendered (params : Params) : t.translate locale name params =
      config.shown name params (r.search space key (config.candidates locale)) :=
    config.translate_translator locale addresses params
  refine ⟨fun _ => Translator.baseLanguage?_eq_some_iff, fallbackChain_translator config locale,
    space, key, pair, ?_, ?_, ?_, ?_⟩
  · intro found entry
    rw [searched]
    exact Resources.search_eq_some_iff
  · rw [searched]
    exact Resources.search_eq_none_iff
  · intro found entry first params
    rw [rendered, Resources.search_eq_some_iff.mpr first]
    rfl
  · intro absent params
    rw [rendered, Resources.search_eq_none_iff.mpr absent]
    rfl

end Config

end Phrasebook
