import Phrasebook.Proofs.CheckOutcome

/-!
# What a strict check guarantees

A configuration that passes a strict check has no malformed text and no flawed locale. Its other
locales define no pair that its default locale lacks, and a pair that they share with it uses the
same placeholders there. Whether a placeholder leads somewhere depends on its path and the
parameters alone, so that the texts of a pair miss the same parameters in all locales.
-/
namespace Phrasebook

open CommandLine

namespace Template

/-- A segment misses a path when it is a placeholder of that path and the path leads nowhere. -/
theorem mem_missing_renderSegment_iff {params : Params} {escape : Bool} {segment : Segment}
    {path : String} :
    path ∈ (renderSegment params escape segment).missing ↔
      (∃ raw, segment = .placeholder path raw) ∧ resolve params path = none := by
  cases segment with
  | literal text => simp [renderSegment]
  | placeholder path' raw =>
    cases found : resolve params path' with
    | none =>
      have missing : (renderSegment params escape (.placeholder path' raw)).missing = [path'] := by
        rw [renderSegment, found]
      rw [missing, List.mem_singleton]
      constructor
      · rintro rfl
        exact ⟨⟨raw, rfl⟩, found⟩
      · rintro ⟨⟨_, same⟩, -⟩
        cases same
        rfl
    | some value =>
      have filled : (renderSegment params escape (.placeholder path' raw)).missing = [] := by
        simp only [renderSegment, found]
        split <;> rfl
      rw [filled]
      constructor
      · rintro ⟨⟩
      · rintro ⟨⟨_, same⟩, lost⟩
        cases same
        cases found.symm.trans lost

/-- A filled template misses the placeholders that the parameters do not resolve. -/
theorem mem_missing_render_iff {t : Template} {params : Params} {escape : Bool} {path : String} :
    path ∈ (t.render params escape).missing ↔
      path ∈ t.placeholders ∧ resolve params path = none := by
  rw [render, List.flatMap_map, List.mem_flatMap, mem_placeholders_iff]
  simp only [mem_missing_renderSegment_iff]
  constructor
  · rintro ⟨_, member, ⟨raw, rfl⟩, lost⟩
    exact ⟨⟨raw, member⟩, lost⟩
  · rintro ⟨⟨raw, member⟩, lost⟩
    exact ⟨_, member, ⟨raw, rfl⟩, lost⟩

end Template

namespace Config

/-- Strict reading rejects no text, and no locale but the default one has flaws. -/
structure Sound (config : Config) : Prop where
  readable : ∀ p ∈ config.resources.phrases, ¬ p.Rejected
  flawless : ∀ locale, locale ≠ config.defaultLocale →
    config.translator.1.review config.defaultLocale locale = []

/-- The other locales follow the default one: the texts of a pair miss the same placeholders
whatever the parameters are, and unless the default locale has no texts at all, it has one for
every pair. -/
structure Aligned (config : Config) : Prop where
  missing : ∀ locale space key model counterpart,
    config.translator.1.catalog.find? config.defaultLocale space key = some model →
    config.translator.1.catalog.find? locale space key = some counterpart →
    ∀ params escape path, path ∈ (model.template.render params escape).missing ↔
      path ∈ (counterpart.template.render params escape).missing
  defined : (config.resources.pairsOf config.defaultLocale).Nonempty →
    ∀ locale, config.resources.pairsOf locale ⊆ config.resources.pairsOf config.defaultLocale

theorem Sound.parse_text {config : Config} (sound : config.Sound)
    {locale space key : String} {entry : Entry}
    (held : config.resources.entryAt? locale space key = some entry) :
    Template.parse entry.text = .ok entry.template := by
  obtain ⟨p, found, rfl⟩ := Option.map_eq_some_iff.mp held
  have member : p ∈ config.resources.phrases := List.mem_of_find?_eq_some found
  obtain ⟨t, read⟩ := Phrase.not_rejected_iff.mp (sound.readable p member)
  rw [Entry.text_ofText, read, (Entry.parse_eq_ok_iff.mp read).2]

theorem Sound.not_flawAt {config : Config} (sound : config.Sound)
    (known : (config.resources.pairsOf config.defaultLocale).Nonempty)
    {locale space key : String} (other : locale ≠ config.defaultLocale) {flaw : Flaw} :
    ¬ config.resources.FlawAt config.defaultLocale locale space key
      (config.translator.1.qualify space key) flaw := by
  intro flawed
  have listed : ((space, key), flaw) ∈
      config.translator.1.flawedPairs config.defaultLocale locale :=
    Translator.mem_flawedPairs_iff.mpr flawed
  have shown : config.translator.1.review config.defaultLocale locale =
      (config.translator.1.flawedPairs config.defaultLocale locale).map Prod.snd :=
    Translator.review_eq_map known locale
  have none : config.translator.1.flawedPairs config.defaultLocale locale = [] := by
    rw [← List.map_eq_nil_iff, ← shown, sound.flawless locale other]
  rw [none] at listed
  cases listed

theorem Sound.mem_placeholders_iff {config : Config} (sound : config.Sound)
    {locale space key : String} {model counterpart : Entry}
    (held : config.resources.entryAt? config.defaultLocale space key = some model)
    (held' : config.resources.entryAt? locale space key = some counterpart) (path : String) :
    path ∈ model.template.placeholders ↔ path ∈ counterpart.template.placeholders := by
  -- The default locale is not reviewed against itself.
  by_cases same : locale = config.defaultLocale
  · subst same
    cases held.symm.trans held'
    rfl
  · by_contra different
    have known : (config.resources.pairsOf config.defaultLocale).Nonempty :=
      ⟨(space, key), Resources.mem_pairsOf_iff.mpr (Option.isSome_of_eq_some held)⟩
    refine sound.not_flawAt known same (.placeholderMismatch held held' (sound.parse_text held)
      (sound.parse_text held') (Template.listsPaths_distinctNames _)
      (Template.listsPaths_distinctNames _) fun equal => different ?_)
    simpa only [mem_distinctNames_iff] using equal path

/-- A configuration without errors and warnings is aligned. -/
theorem Sound.aligned {config : Config} (sound : config.Sound) : config.Aligned where
  missing locale space key model counterpart held held' params escape path := by
    have found (locale : String) : config.translator.1.catalog.find? locale space key =
        config.resources.entryAt? locale space key := Catalog.find?_ofResources _ _ _ _
    rw [found] at held held'
    rw [Template.mem_missing_render_iff, Template.mem_missing_render_iff,
      sound.mem_placeholders_iff held held']
  defined known locale := by
    rintro ⟨space, key⟩ defined
    by_cases same : locale = config.defaultLocale
    · exact same ▸ defined
    · rw [Resources.mem_pairsOf_iff] at defined ⊢
      by_contra unknown
      exact sound.not_flawAt known same (.unknownKey defined (by simpa using unknown))

end Config

namespace CommandLine.Check

/-- A strict check passes a file exactly if that holds a sound configuration. -/
theorem not_failsOn_iff {files : Files} {path : String} :
    ¬ FailsOn files true path ↔ ∃ config, loadConfig files path = .ok config ∧ config.Sound := by
  constructor
  · intro passed
    cases read : loadConfig files path with
    | error error => exact absurd (.unloaded (loadConfig_eq_error_iff.mp read)) passed
    | ok config =>
      obtain ⟨text, held⟩ := loadConfig_eq_ok_iff.mp read
      refine ⟨config, rfl, fun p member rejected => passed (.rejected held member rejected), ?_⟩
      intro locale other
      by_contra flawed
      exact passed (.flawed rfl held other flawed)
  · rintro ⟨config, loaded, sound⟩ fails
    cases fails with
    | unloaded failed => cases loaded.symm.trans (loadConfig_eq_error_iff.mpr failed)
    | rejected held member rejected =>
      cases loaded.symm.trans (loadConfig_eq_ok_iff.mpr ⟨_, held⟩)
      exact sound.readable _ member rejected
    | flawed _ held other flawed =>
      cases loaded.symm.trans (loadConfig_eq_ok_iff.mpr ⟨_, held⟩)
      exact flawed (sound.flawless _ other)

/-- In a configuration that passes a strict check, the other locales follow the default one. -/
theorem strict_check_aligns {files : Files} {paths : List String} {json : Bool}
    (passed : ((Command.check paths true json).report files).exit.code = 0) :
    ∀ path ∈ paths, ∃ config, loadConfig files path = .ok config ∧ config.Aligned := by
  intro path member
  have clear : ¬ ∃ path ∈ paths, FailsOn files true path := exit_code_eq_iff.2.mp passed
  obtain ⟨config, loaded, sound⟩ := not_failsOn_iff.mp fun fails => clear ⟨path, member, fails⟩
  exact ⟨config, loaded, sound.aligned⟩

/-- A configuration with a text whose placeholders stand in another order in another locale. -/
def shopFiles : Files := fun _ => .ok <|
  "\x7b\"translationResources\":\x7b" ++
    "\"de\":\x7b\"translation\":\x7b" ++
      "\"range\":\"\x7b\x7bto\x7d\x7d ab \x7b\x7b- from\x7d\x7d\"\x7d\x7d," ++
    "\"en\":\x7b\"translation\":\x7b" ++
      "\"range\":\"\x7b\x7bfrom\x7d\x7d to \x7b\x7bto\x7d\x7d\"\x7d\x7d\x7d\x7d"

/-- The texts of a range miss the same parameters in both locales. -/
theorem strict_check_aligns_shop :
    ((Command.check ["shop.json"] true true).report shopFiles).exit.code = 0 ∧
    ∃ config model counterpart, loadConfig shopFiles "shop.json" = .ok config ∧
      config.translator.1.catalog.find? "en" "translation" "range" = some model ∧
      config.translator.1.catalog.find? "de" "translation" "range" = some counterpart ∧
      model.template.placeholders = ["from", "to"] ∧
      counterpart.template.placeholders = ["to", "from"] ∧
      (∀ params escape path, path ∈ (model.template.render params escape).missing ↔
        path ∈ (counterpart.template.render params escape).missing) ∧
      config.resources.pairsOf "de" ⊆ config.resources.pairsOf "en" := by
  have passed : ((Command.check ["shop.json"] true true).report shopFiles).exit.code = 0 := by
    decide +kernel
  obtain ⟨config, loaded, aligned⟩ := strict_check_aligns passed "shop.json" (by decide)
  have held : (loadConfig shopFiles "shop.json").toOption.map (fun config =>
      (config.defaultLocale, config.translator.1.catalog.find? "en" "translation" "range",
        config.translator.1.catalog.find? "de" "translation" "range")) =
      some ("en", some (.ofText "\x7b\x7bfrom\x7d\x7d to \x7b\x7bto\x7d\x7d"),
        some (.ofText "\x7b\x7bto\x7d\x7d ab \x7b\x7b- from\x7d\x7d")) := by
    decide +kernel
  simp only [loaded, Except.toOption, Option.map_some, Option.some.injEq, Prod.mk.injEq] at held
  obtain ⟨default, english, german⟩ := held
  have defined := aligned.defined
  have missing := aligned.missing "de" "translation" "range"
  rw [default] at defined missing
  have known : (config.resources.pairsOf "en").Nonempty := by
    refine ⟨("translation", "range"), Resources.mem_pairsOf_iff.mpr ?_⟩
    rw [← Catalog.find?_ofResources]
    exact Option.isSome_of_eq_some english
  exact ⟨passed, config, _, _, loaded, english, german, by decide +kernel, by decide +kernel,
    missing _ _ english german, defined known "de"⟩

end CommandLine.Check

end Phrasebook
