import Phrasebook.Proofs.FallbackSearch
import Phrasebook.Proofs.TagCall

/-!
# What the default locale stands for

A locale without texts gets the texts of the default locale, with one exception: the base language
of the default locale is searched only when the default locale is the wanted one, so a pair that
it alone defines is not found from elsewhere. A call that names the default locale does what a
call does that names none, unless the default locale has blanks around it: a locale that a call
names is trimmed, and the default locale is not.
-/
namespace Phrasebook

open Text Tag

namespace Config

/-- No text of the configuration is in the locale. -/
def Silent (config : Config) (locale : String) : Prop :=
  ∀ p ∈ config.resources.phrases, p.locale ≠ locale

instance (config : Config) (locale : String) : Decidable (config.Silent locale) :=
  inferInstanceAs (Decidable (∀ p ∈ config.resources.phrases, p.locale ≠ locale))

/-- The default locale leaves a pair to its base language, which has an entry for it. -/
structure LeavesToBase (config : Config) (space key base : String) (entry : Entry) : Prop where
  regional : Translator.IsBaseLanguage base config.defaultLocale
  named : base ≠ ""
  held : config.resources.entryAt? base space key = some entry
  absent : config.resources.entryAt? config.defaultLocale space key = none

theorem entryAt?_of_silent {config : Config} {locale : String} (silent : config.Silent locale)
    (space key : String) : config.resources.entryAt? locale space key = none := by
  rw [← Option.not_isSome_iff_eq_none, Resources.isSome_entryAt?_iff]
  rintro ⟨p, member, here⟩
  exact silent p member (Phrase.isFor_iff.mp here).1

/-- From a locale without texts the search begins at the default locale. -/
theorem search_candidates_of_silent {config : Config} {locale : String}
    (silent : config.Silent locale)
    (silentBase : ∀ base, Translator.IsBaseLanguage base locale → base ≠ "" → config.Silent base)
    (space key : String) :
    config.resources.search space key (config.candidates locale) =
      (config.resources.search space key [config.defaultLocale]).or
        (config.resources.search space key config.fallbackLocales) := by
  have nothing : config.resources.search space key
      (locale :: (Translator.baseLanguage? locale).toList) = none := by
    apply Resources.search_eq_none_of_absent
    intro other member named
    rcases List.mem_cons.mp member with rfl | member
    · exact entryAt?_of_silent silent space key
    · obtain ⟨base, -⟩ := Translator.baseLanguage?_eq_some_iff.mp (Option.mem_toList.mp member)
      exact entryAt?_of_silent (silentBase other base named) space key
  rw [candidates, Resources.search_append, nothing, Option.none_or, Resources.search_cons]

/-- From the default locale the search takes in its base language before the fallback locales. -/
theorem search_candidates_default (config : Config) (space key : String) :
    config.resources.search space key (config.candidates config.defaultLocale) =
      ((config.resources.search space key [config.defaultLocale]).or
        (config.resources.search space key
          (Translator.baseLanguage? config.defaultLocale).toList)).or
        (config.resources.search space key config.fallbackLocales) := by
  rw [candidates, Resources.search_append, Resources.search_cons,
    Resources.search_cons _ _ _ _ config.fallbackLocales]
  cases config.resources.search space key [config.defaultLocale] <;> simp

/-- The base language of the default locale has what the default locale leaves to it. -/
theorem search_base_of_leaves {config : Config} {space key base : String} {entry : Entry}
    (leaves : config.LeavesToBase space key base entry) :
    config.resources.search space key (Translator.baseLanguage? config.defaultLocale).toList =
      some (base, entry) := by
  rw [Translator.baseLanguage?_eq_some_iff.mpr ⟨leaves.regional, leaves.named⟩,
    Option.toList_some, Resources.search_singleton, if_neg leaves.named, leaves.held]
  rfl

/-- Where the default locale leaves nothing to its base language, that adds nothing to it. -/
theorem search_base_of_not_leaves {config : Config} {space key : String}
    (alone : ∀ base entry, ¬ config.LeavesToBase space key base entry)
    (absent : config.resources.search space key [config.defaultLocale] = none) :
    config.resources.search space key (Translator.baseLanguage? config.defaultLocale).toList =
      none := by
  cases found : Translator.baseLanguage? config.defaultLocale with
  | none => rfl
  | some base =>
    have regional : config.defaultLocale ≠ "" := by
      intro empty
      rw [empty] at found
      cases found
    rw [Resources.search_singleton, if_neg regional, Option.map_eq_none_iff] at absent
    obtain ⟨isBase, named⟩ := Translator.baseLanguage?_eq_some_iff.mp found
    rw [Option.toList_some, Resources.search_singleton, if_neg named]
    cases held : config.resources.entryAt? base space key with
    | none => rfl
    | some entry => exact absurd ⟨isBase, named, held, absent⟩ (alone base entry)

end Config

namespace Tag.Extension

/-- A text asked for in a locale without texts is the text of the default locale, unless the
default locale leaves the pair to its base language. In that case the default locale gives the
text of its base language, and the other locale goes on to the fallback locales. -/
theorem translateText_of_silent_locale (config : Config) (active locale : String)
    (silent : config.Silent locale)
    (silentBase : ∀ base, Translator.IsBaseLanguage base locale → base ≠ "" → config.Silent base)
    (name : String) (params : Params) :
    let e : Extension := ⟨config, config.translator.1.activate active⟩
    let r := config.resources
    ∃ space key,
      (∀ space' key', r.Addresses config.defaultNamespace name space' key' ↔
        space' = space ∧ key' = key) ∧
      ((∀ base entry, ¬ config.LeavesToBase space key base entry) →
        (e.translateText name (some locale) params).1 = (e.translateText name none params).1) ∧
      ∀ base entry, config.LeavesToBase space key base entry →
        (e.translateText name none params).1 =
          entry.template.render params config.escapesValues ∧
        (∀ found other, r.FirstToDefine (firstNames config.fallbackLocales) space key found other →
          (e.translateText name (some locale) params).1 =
            other.template.render params config.escapesValues) ∧
        ((∀ fallback ∈ firstNames config.fallbackLocales, r.entryAt? fallback space key = none) →
          (e.translateText name (some locale) params).1 = ⟨name, []⟩) := by
  intro e r
  obtain ⟨space, key, pair⟩ :=
    Translator.exists_addresses_iff_eq r config.defaultNamespace name
  have addresses := (pair space key).mpr ⟨rfl, rfl⟩
  have wanted : (e.translateText name (some locale) params).1 =
      config.shown name params ((r.search space key [config.defaultLocale]).or
        (r.search space key config.fallbackLocales)) := by
    rw [← config.search_candidates_of_silent silent silentBase]
    exact config.translate_translator locale addresses params
  have default : (e.translateText name none params).1 =
      config.shown name params (((r.search space key [config.defaultLocale]).or
        (r.search space key (Translator.baseLanguage? config.defaultLocale).toList)).or
        (r.search space key config.fallbackLocales)) := by
    rw [← config.search_candidates_default]
    exact config.translate_translator config.defaultLocale addresses params
  refine ⟨space, key, pair, ?_, ?_⟩
  · intro alone
    rw [wanted, default]
    cases own : r.search space key [config.defaultLocale] with
    | some hit => rfl
    | none => rw [Config.search_base_of_not_leaves alone own, Option.or_none]
  · intro base entry leaves
    have own : r.search space key [config.defaultLocale] = none := by
      rw [Resources.search_singleton, leaves.absent]
      simp
    rw [wanted, default, own, Config.search_base_of_leaves leaves, Option.none_or]
    refine ⟨rfl, ?_, ?_⟩
    · intro found other first
      rw [Resources.search_eq_some_iff.mpr first]
      rfl
    · intro absent
      rw [Resources.search_eq_none_iff.mpr absent]
      rfl

/-- A greeting in Austrian German, which is the default, and farewells in German and English. -/
def farewells : Config where
  resources := ⟨[("de", [("translation", [("bye", .text "Tschau"), ("hello", .text "Hallo")])]),
    ("de-AT", [("translation", [("hello", .text "Servus")])]),
    ("en", [("translation", [("bye", .text "Bye")])])]⟩
  defaultLocale := "de-AT"
  fallbackLocales := ["en"]

theorem translateText_of_silent_locale_of_farewells :
    let e : Extension := ⟨farewells, farewells.translator.1.activate "en"⟩
    farewells.Silent "fr-CA" ∧
    (∀ base, Translator.IsBaseLanguage base "fr-CA" → base ≠ "" → farewells.Silent base) ∧
    (e.translateText "hello" (some "fr-CA") []).1 = (e.translateText "hello" none []).1 ∧
    (e.translateText "bye" none []).1 = (Entry.ofText "Tschau").template.render [] true ∧
    (e.translateText "bye" (some "fr-CA") []).1 = (Entry.ofText "Bye").template.render [] true := by
  intro e
  have silent : farewells.Silent "fr-CA" := by decide
  have silentBase : ∀ base, Translator.IsBaseLanguage base "fr-CA" → base ≠ "" →
      farewells.Silent base := by
    intro base isBase named
    cases Translator.baseLanguage?_eq_some_iff.mpr ⟨isBase, named⟩
    decide
  have plain (name : String) (clear : cut (· = ':') name = none) :
      farewells.resources.Addresses "translation" name "translation" name := by
    refine .whole fun front behind split => ?_
    rw [cut_colon_iff.mpr split] at clear
    cases clear
  obtain ⟨space, key, pair, same, -⟩ :=
    translateText_of_silent_locale farewells "en" "fr-CA" silent silentBase "hello" []
  obtain ⟨rfl, rfl⟩ := (pair _ _).mp (plain "hello" rfl)
  obtain ⟨space, key, pair, -, leaves⟩ :=
    translateText_of_silent_locale farewells "en" "fr-CA" silent silentBase "bye" []
  obtain ⟨rfl, rfl⟩ := (pair _ _).mp (plain "bye" rfl)
  obtain ⟨default, wanted, -⟩ := leaves "de" (.ofText "Tschau")
    ⟨(Translator.baseLanguage?_eq_some_iff.mp rfl).1, by decide, rfl, rfl⟩
  refine ⟨silent, silentBase, same ?_, default, ?_⟩
  · rintro base entry ⟨-, -, -, absent⟩
    cases absent
  · exact wanted "en" (.ofText "Bye") ⟨rfl, [], [], rfl, nofun⟩

def austrian : Config where
  resources := ⟨[("de", [("translation", [("hello", .text "Hallo")])])]⟩
  defaultLocale := "de-AT"

/-- A locale without texts need not give what the default locale gives. -/
theorem translateText_of_austrian :
    let e := (ofConfig austrian).1
    austrian.Silent "fr" ∧ Translator.baseLanguage? "fr" = none ∧
    (e.translateText "hello" none []).1.text = "Hallo" ∧
    (e.translateText "hello" (some "fr") []).1.text = "hello" :=
  ⟨by decide, rfl, by decide +kernel, rfl⟩

/-! Calls that name the default locale. -/

variable {m : Type → Type}

theorem observed_trans [Monad m] [LawfulMonad m] (e : Extension) (context locale params : Value)
    (body : m (Except String String)) :
    Outcome.observed <$>
        e.trans [.context context, .value locale, .value params, .body body] =
      e.answerIn (Call.localeFrom e locale) (Call.paramsFrom params) <$> body :=
  observed_trans_eq_answerIn e [.context context, .value locale, .value params, .body body]

/-- A call that names the default locale is the call that names none, if the default locale has no
blanks around it or consists of blanks. Otherwise it translates in the trimmed default locale and
leaves that active, where the call that names none does so in the default locale as it is. -/
theorem trans_naming_default_locale [Monad m] [LawfulMonad m] (e : Extension)
    (context params : Value) (body : m (Except String String)) :
    let default := e.config.defaultLocale
    let named := e.trans [.context context, .value (.string default), .value params, .body body]
    let unnamed := e.trans [.context context, .value .null, .value params, .body body]
    (trim default = default ∨ trim default = "" → named = unnamed) ∧
    (trim default ≠ "" → Outcome.observed <$> named =
      e.answerIn (trim default) (Call.paramsFrom params) <$> body) ∧
    Outcome.observed <$> unnamed = e.answerIn default (Call.paramsFrom params) <$> body := by
  intro default named unnamed
  refine ⟨fun plain => ?_, fun shown => ?_, observed_trans e context .null params body⟩
  · have same : Call.localeFrom e (.string default) = default := by
      simp only [Call.localeFrom]
      split
      · rfl
      · rename_i shown
        exact plain.resolve_right shown
    have locale := Call.ofArguments_locale e
      [.context context, .value (.string default), .value params, .body body]
    have locale' := Call.ofArguments_locale e
      [.context context, .value .null, .value params, .body body]
    have agree := locale.trans (same.trans locale'.symm)
    simp only [named, unnamed, trans_eq_map]
    rw [outcome_congr e agree rfl]
    rfl
  · have read : Call.localeFrom e (.string default) = trim default := if_neg shown
    rw [← read]
    exact observed_trans e context (.string default) params body

theorem trans_naming_default_locale_of_greeting :
    LawfulMonad (StateM (List String)) ∧
    greeting.trans [.context .null, .value (.string "en"), .value .null,
        .body (logged "key" (.ok "hello"))] =
      greeting.trans [.context .null, .value .null, .value .null,
        .body (logged "key" (.ok "hello"))] := by
  have plain : trim "en" = "en" := by decide
  exact ⟨inferInstance,
    (trans_naming_default_locale greeting .null .null
      (logged "key" (.ok "hello"))).1 (Or.inl plain)⟩

def padded : Config where
  resources := ⟨[("en", [("translation", [("hello", .text "Hello")])])]⟩
  defaultLocale := " en "

/-- Naming the default locale need not be the same as naming none. -/
theorem trans_of_padded :
    let e := (ofConfig padded).1
    let body : Argument Id := .body (pure (.ok "hello"))
    let named := (e.trans [.context .null, .value (.string " en "), .value (.map []), body]).run
    let unnamed := (e.trans [.context .null, .value .null, .value (.map []), body]).run
    named.result = .ok ⟨"Hello"⟩ ∧ named.extension.translator.active = "en" ∧
    unnamed.result = .ok ⟨"hello"⟩ ∧ unnamed.extension.translator.active = " en " :=
  ⟨by decide +kernel, rfl, rfl, rfl⟩

end Tag.Extension

end Phrasebook
