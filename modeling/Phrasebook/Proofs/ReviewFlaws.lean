import Mathlib.Data.List.Sort
import Mathlib.Data.String.Basic
import Phrasebook.Catalog.Review
import Phrasebook.Proofs.LocalePairs

/-!
# What a review reports

A pair of a target locale is flawed if the source locale lacks it, or if both of its texts can be
read strictly and do not use the same placeholders. A review lists the flaw of every flawed pair,
in the order of the pairs, and nothing else. It depends on which placeholders the texts use, and
not on their order, their number or how they are filled, so that two locales reviewed against each
other mismatch at the same pairs.
-/
namespace Phrasebook

open NameMap

namespace Template

/-- All paths of the placeholders of a template, each once and in ascending order. -/
structure ListsPaths (t : Template) (paths : List String) : Prop where
  ascending : paths.Pairwise (· < ·)
  each : ∀ path, path ∈ paths ↔ ∃ raw, Segment.placeholder path raw ∈ t.segments

theorem mem_placeholders_iff {t : Template} {path : String} :
    path ∈ t.placeholders ↔ ∃ raw, Segment.placeholder path raw ∈ t.segments := by
  rw [placeholders, List.mem_filterMap]
  constructor
  · rintro ⟨segment, member, named⟩
    cases segment with
    | literal text => cases named
    | placeholder path' raw =>
      cases named
      exact ⟨raw, member⟩
  · rintro ⟨raw, member⟩
    exact ⟨_, member, rfl⟩

theorem listsPaths_distinctNames (t : Template) : t.ListsPaths (distinctNames t.placeholders) where
  ascending := distinctNames_ascending _
  each _ := mem_distinctNames_iff.trans mem_placeholders_iff

theorem ListsPaths.eq_distinctNames {t : Template} {paths : List String}
    (lists : t.ListsPaths paths) : paths = distinctNames t.placeholders :=
  lists.ascending.eq_of_mem_iff (distinctNames_ascending _) fun path =>
    (lists.each path).trans ((listsPaths_distinctNames t).each path).symm

end Template

namespace Entry

/-- Strict reading gives the template of an entry unless that is malformed. -/
theorem parse_eq_ok_iff {text : String} {t : Template} :
    Template.parse text = .ok t ↔
      (ofText text).malformed = false ∧ (ofText text).template = t := by
  cases read : Template.parse text <;> simp [ofText, read]

end Entry

namespace Resources

theorem parse_text_eq_ok_iff {r : Resources} {locale space key : String} {entry : Entry}
    (held : r.entryAt? locale space key = some entry) {t : Template} :
    Template.parse entry.text = .ok t ↔ entry.malformed = false ∧ entry.template = t := by
  obtain ⟨p, -, rfl⟩ := Option.map_eq_some_iff.mp held
  rw [Entry.text_ofText, Entry.parse_eq_ok_iff]

/-- The flaws of a pair of a target locale against a source locale, under the name of the pair. -/
inductive FlawAt (r : Resources) (source target space key name : String) : Flaw → Prop
  | unknownKey (defined : (r.entryAt? target space key).isSome)
      (unknown : r.entryAt? source space key = none) :
      FlawAt r source target space key name (.unknownKey name target)
  | placeholderMismatch {model counterpart : Entry} {template template' : Template}
      {expected found : List String}
      (held : r.entryAt? source space key = some model)
      (held' : r.entryAt? target space key = some counterpart)
      (read : Template.parse model.text = .ok template)
      (read' : Template.parse counterpart.text = .ok template')
      (expects : template.ListsPaths expected) (finds : template'.ListsPaths found)
      (different : ¬ ∀ path, path ∈ expected ↔ path ∈ found) :
      FlawAt r source target space key name (.placeholderMismatch name target expected found)

/-- A mismatch of two locales is one the other way round, with the paths exchanged. -/
theorem FlawAt.placeholderMismatch_comm {r : Resources} {source target space key name : String}
    {expected found : List String}
    (flaw : r.FlawAt source target space key name
      (.placeholderMismatch name target expected found)) :
    r.FlawAt target source space key name (.placeholderMismatch name source found expected) := by
  cases flaw with
  | placeholderMismatch held held' read read' expects finds different =>
    refine .placeholderMismatch held' held read' read finds expects fun same => different ?_
    exact fun path => (same path).symm

end Resources

namespace Translator

variable {r : Resources} {options : Options}

/-- The flawed pairs of a target locale with their flaws, in the order of the pairs. -/
def flawedPairs (t : Translator) (source target : String) : List ((String × String) × Flaw) :=
  (t.defined target).filterMap fun pair =>
    (t.flaw? source target pair.1 pair.2).map (pair, ·)

theorem map_snd_flawedPairs (t : Translator) (source target : String) :
    (t.flawedPairs source target).map Prod.snd =
      (t.defined target).filterMap fun pair => t.flaw? source target pair.1 pair.2 := by
  simp [flawedPairs, List.map_filterMap, Function.comp_def]

theorem flawedPairs_ascending (t : Translator) (ordered : t.catalog.Ordered)
    (source target : String) :
    (t.flawedPairs source target).Pairwise fun a b =>
      a.1.1 < b.1.1 ∨ a.1.1 = b.1.1 ∧ a.1.2 < b.1.2 := by
  refine (defined_ascending ordered target).filterMap _ fun one other before => ?_
  intro a inOne b inOther
  obtain ⟨_, -, rfl⟩ := Option.map_eq_some_iff.mp inOne
  obtain ⟨_, -, rfl⟩ := Option.map_eq_some_iff.mp inOther
  exact before

/-- The flaw of a pair is what its two texts disagree on. -/
theorem flaw?_eq_some_iff {source target space key : String} {flaw : Flaw}
    (defined : (r.entryAt? target space key).isSome) :
    let t := (ofResources r options).1
    t.flaw? source target space key = some flaw ↔
      r.FlawAt source target space key (t.qualify space key) flaw := by
  intro t
  obtain ⟨counterpart, held'⟩ := Option.isSome_iff_exists.mp defined
  have found (locale : String) : t.catalog.find? locale space key = r.entryAt? locale space key :=
    Catalog.find?_ofResources r locale space key
  simp only [flaw?, found, held']
  cases held : r.entryAt? source space key with
  | none =>
    constructor
    · rintro ⟨⟩
      exact .unknownKey defined held
    · intro flawed
      cases flawed with
      | unknownKey => rfl
      | placeholderMismatch known => simp [held] at known
  | some model =>
    have read {template : Template} := Resources.parse_text_eq_ok_iff held (t := template)
    have read' {template : Template} := Resources.parse_text_eq_ok_iff held' (t := template)
    -- A pair of both locales is compared only if both texts can be read strictly.
    constructor
    · intro found
      dsimp only at found
      split at found
      · cases found
      · rename_i sound
        simp only [Bool.or_eq_true, not_or, Bool.not_eq_true] at sound
        split at found
        · cases found
        · rename_i different
          cases found
          refine .placeholderMismatch held held' (read.mpr ⟨sound.1, rfl⟩)
            (read'.mpr ⟨sound.2, rfl⟩) (Template.listsPaths_distinctNames _)
            (Template.listsPaths_distinctNames _) fun same => different ?_
          exact (distinctNames_ascending _).eq_of_mem_iff (distinctNames_ascending _) same
    · intro flawed
      cases flawed with
      | unknownKey _ unknown => simp [held] at unknown
      | placeholderMismatch known known' strict strict' expects finds different =>
        cases held.symm.trans known
        cases held'.symm.trans known'
        obtain ⟨sound, rfl⟩ := read.mp strict
        obtain ⟨sound', rfl⟩ := read'.mp strict'
        have apart : distinctNames model.template.placeholders ≠
            distinctNames counterpart.template.placeholders := by
          intro same
          refine different fun path => ?_
          rw [expects.eq_distinctNames, finds.eq_distinctNames, same]
        rw [expects.eq_distinctNames, finds.eq_distinctNames]
        simp [sound, sound', apart]

/-- The pairs of the target locale that have a flaw are listed with it, and no others. -/
theorem mem_flawedPairs_iff {source target space key : String} {flaw : Flaw} :
    let t := (ofResources r options).1
    ((space, key), flaw) ∈ t.flawedPairs source target ↔
      r.FlawAt source target space key (t.qualify space key) flaw := by
  intro t
  have listed : ((space, key), flaw) ∈ t.flawedPairs source target ↔
      (space, key) ∈ t.defined target ∧ t.flaw? source target space key = some flaw := by
    simp [flawedPairs]
  rw [listed, mem_defined_ofResources, Resources.mem_pairsOf_iff]
  constructor
  · rintro ⟨defined, flawed⟩
    exact (flaw?_eq_some_iff defined).mp flawed
  · intro flawed
    have defined : (r.entryAt? target space key).isSome := by
      cases flawed with
      | unknownKey defined => exact defined
      | placeholderMismatch _ held' => exact Option.isSome_of_eq_some held'
    exact ⟨defined, (flaw?_eq_some_iff defined).mpr flawed⟩

/-- A review of a source locale with texts shows the flaws of all flawed pairs. -/
theorem review_eq_map {source : String} (known : (r.pairsOf source).Nonempty) (target : String) :
    let t := (ofResources r options).1
    t.review source target = (t.flawedPairs source target).map Prod.snd := by
  intro t
  have there : (t.catalog.registries.get? source).isSome := Catalog.isSome_registries_iff.mpr known
  rw [map_snd_flawedPairs, review, if_neg]
  simpa [Option.isSome_iff_ne_none] using there

theorem review_eq_nil_of_silent {source target : String}
    (silent : ¬ ((r.pairsOf source).Nonempty ∧ (r.pairsOf target).Nonempty)) :
    (ofResources r options).1.review source target = [] := by
  by_cases known : (r.pairsOf source).Nonempty
  · have nothing : (ofResources r options).1.defined target = [] := by
      refine List.eq_nil_iff_forall_not_mem.mpr fun pair member => silent ⟨known, pair, ?_⟩
      exact mem_defined_ofResources.mp member
    rw [review_eq_map known, flawedPairs, nothing]
    rfl
  · have absent : ¬ ((ofResources r options).1.catalog.registries.get? source).isSome :=
      Catalog.isSome_registries_iff.not.mpr known
    rw [review, if_pos]
    simpa using absent

/-- A list of flawed pairs with their flaws is what a review of a target locale shows: it is in
the order of the pairs, with one flaw for each, and holds all that are flawed and no others. -/
structure Reviewed (r : Resources) (t : Translator) (source target : String)
    (flawed : List ((String × String) × Flaw)) : Prop where
  shown : t.review source target = flawed.map Prod.snd
  ascending : flawed.Pairwise fun a b => a.1.1 < b.1.1 ∨ a.1.1 = b.1.1 ∧ a.1.2 < b.1.2
  exact : ∀ space key flaw, ((space, key), flaw) ∈ flawed ↔
    r.FlawAt source target space key (t.qualify space key) flaw

/-- The flawed pairs are what the review of the target locale shows. -/
theorem reviewed_flawedPairs (active : String) {source : String}
    (known : (r.pairsOf source).Nonempty) (target : String) :
    let t := (ofResources r options).1.activate active
    Reviewed r t source target (t.flawedPairs source target) where
  shown := review_eq_map known target
  ascending := flawedPairs_ascending _ (Catalog.ordered_ofResources r) source target
  exact _ _ _ := mem_flawedPairs_iff

/-- The review of two locales with texts shows the flaw of every flawed pair and nothing else, in
the order of the pairs. The same pairs mismatch the other way round, with the paths exchanged. A
locale without texts is not reviewed, and nothing is reviewed against it. -/
theorem review_shows_flaws (r : Resources) (options : Options) (active source target : String) :
    let t := (ofResources r options).1.activate active
    (¬ ((r.pairsOf source).Nonempty ∧ (r.pairsOf target).Nonempty) →
      t.review source target = []) ∧
    ((r.pairsOf source).Nonempty ∧ (r.pairsOf target).Nonempty →
      ∃ flawed flawed', Reviewed r t source target flawed ∧ Reviewed r t target source flawed' ∧
        ∀ space key expected found,
          ((space, key), .placeholderMismatch (t.qualify space key) target expected found) ∈
              flawed ↔
            ((space, key), .placeholderMismatch (t.qualify space key) source found expected) ∈
              flawed') := by
  intro t
  refine ⟨review_eq_nil_of_silent, fun ⟨known, known'⟩ => ?_⟩
  have reviewed : Reviewed r t source target (t.flawedPairs source target) :=
    reviewed_flawedPairs active known target
  have reviewed' : Reviewed r t target source (t.flawedPairs target source) :=
    reviewed_flawedPairs active known' source
  refine ⟨_, _, reviewed, reviewed', fun space key expected found => ?_⟩
  rw [reviewed.exact, reviewed'.exact]
  exact ⟨.placeholderMismatch_comm, .placeholderMismatch_comm⟩

/-- A text of its own, a text with another placeholder, and one with the same placeholders in
another order. -/
def drifting : Resources :=
  ⟨[("de", [("translation", [("extra", .text "Extra"), ("greet", .text "Hallo \x7b\x7bnom\x7d\x7d"),
      ("range", .text "Bis \x7b\x7bto\x7d\x7d ab \x7b\x7b- from\x7d\x7d")])]),
    ("en", [("translation", [("greet", .text "Hello \x7b\x7bname\x7d\x7d"),
      ("range", .text "\x7b\x7bfrom\x7d\x7d to \x7b\x7bto\x7d\x7d")])])]⟩

example :
    (ofResources drifting {}).1.review "en" "de" =
      [.unknownKey "extra" "de", .placeholderMismatch "greet" "de" ["name"] ["nom"]] := by
  decide +kernel

end Translator

end Phrasebook
