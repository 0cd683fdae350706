import Mathlib.Data.List.Forall2
import Phrasebook.CommandLine.Run
import Phrasebook.Proofs.Results
import Phrasebook.Proofs.ReviewFlaws

/-!
# What a check finds

A check goes through its files one by one, and what it finds in a file depends on that file alone.
It fails if one of the files makes it fail: a file that cannot be read or whose text is no
configuration, one with a text that strict reading rejects, or, in a strict check, one with a
flawed locale. Hence the form of the output and the order of the files do not matter to the exit
code. The JSON output has one report for every file, in order.
-/
namespace Phrasebook

/-- Strict reading rejects the text of a phrase. -/
def Phrase.Rejected (p : Phrase) : Prop :=
  ∃ fault, Template.parse p.text = .error fault

instance (p : Phrase) : Decidable p.Rejected :=
  match read : Template.parse p.text with
  | .ok t => .isFalse fun ⟨fault, rejected⟩ => by simp [read] at rejected
  | .error fault => .isTrue ⟨fault, read⟩

theorem Phrase.not_rejected_iff {p : Phrase} :
    ¬ p.Rejected ↔ ∃ t, Template.parse p.text = .ok t := by
  cases read : Template.parse p.text <;> simp [Rejected, read]

namespace Catalog

end Catalog

namespace CommandLine

/-- The file at a path can be read, and its text is that of a configuration. -/
structure Holds (files : Files) (path text : String) (config : Config) : Prop where
  there : files path = .ok text
  valid : Config.read text = .ok config

/-- Why no configuration can be loaded from the file at a path. -/
inductive Unloadable (files : Files) (path : String) : Config.LoadError → Prop
  | unreadable {reason : String} (unread : files path = .error reason) :
      Unloadable files path (.unreadable path reason)
  | invalid {text : String} {fault : Json.Fault} (there : files path = .ok text)
      (refused : Config.read text = .error fault) :
      Unloadable files path (.invalid path text fault)

/-- Loading gives a configuration exactly when the file at the path holds it. -/
theorem loadConfig_eq_ok_iff {files : Files} {path : String} {config : Config} :
    loadConfig files path = .ok config ↔ ∃ text, Holds files path text config := by
  unfold loadConfig
  cases there : files path with
  | error reason =>
    constructor
    · exact nofun
    · rintro ⟨text, held⟩
      cases there.symm.trans held.there
  | ok text =>
    constructor
    · intro loaded
      exact ⟨text, there, mapError_eq_ok_iff.mp loaded⟩
    · rintro ⟨text', held⟩
      cases there.symm.trans held.there
      exact mapError_eq_ok_iff.mpr held.valid

/-- Loading fails exactly when the file cannot be read or its text is no configuration, and says
why. -/
theorem loadConfig_eq_error_iff {files : Files} {path : String} {error : Config.LoadError} :
    loadConfig files path = .error error ↔ Unloadable files path error := by
  unfold loadConfig
  cases there : files path with
  | error reason =>
    constructor
    · rintro ⟨⟩
      exact .unreadable there
    · intro failed
      cases failed with
      | unreadable unread =>
        cases there.symm.trans unread
        rfl
      | invalid found refused => cases there.symm.trans found
  | ok text =>
    constructor
    · intro failed
      obtain ⟨fault, refused, rfl⟩ := mapError_eq_error_iff.mp failed
      exact .invalid there refused
    · intro failed
      cases failed with
      | unreadable unread => cases there.symm.trans unread
      | invalid found refused =>
        cases there.symm.trans found
        exact mapError_eq_error_iff.mpr ⟨_, refused, rfl⟩

namespace Check

/-- There is one error for every rejected text, in the order of the texts. -/
theorem forall₂_badTexts (config : Config) :
    List.Forall₂ (fun p bad => ∃ fault, Template.parse p.text = .error fault ∧ bad = ⟨p, fault⟩)
      (config.resources.phrases.filter (Phrase.Rejected ·)) (badTexts config) := by
  unfold badTexts
  induction config.resources.phrases with
  | nil => exact .nil
  | cons p rest ih =>
    cases read : Template.parse p.text with
    | ok t =>
      have sound : ¬ p.Rejected := Phrase.not_rejected_iff.mpr ⟨t, read⟩
      simpa [read, sound] using ih
    | error fault =>
      have rejected : p.Rejected := ⟨fault, read⟩
      simpa [read, rejected] using ih

theorem length_badTexts (config : Config) :
    (badTexts config).length = config.resources.phrases.countP (Phrase.Rejected ·) := by
  rw [List.countP_eq_length_filter, (forall₂_badTexts config).length_eq]

theorem badTexts_ne_nil_iff {config : Config} :
    badTexts config ≠ [] ↔ ∃ p ∈ config.resources.phrases, p.Rejected := by
  rw [← List.length_pos_iff, length_badTexts, List.countP_pos_iff]
  simp

theorem flaws_ne_nil_iff {config : Config} :
    flaws config ≠ [] ↔ ∃ locale, locale ≠ config.defaultLocale ∧
      config.translator.1.review config.defaultLocale locale ≠ [] := by
  simp only [flaws, ne_eq, List.flatMap_eq_nil_iff, not_forall]
  constructor
  · rintro ⟨locale, member, flawed⟩
    exact ⟨locale, (Catalog.mem_locales_ne_iff.mp member).2, flawed⟩
  · rintro ⟨locale, other, flawed⟩
    have known : (config.resources.pairsOf locale).Nonempty := by
      by_contra silent
      exact flawed (Translator.review_eq_nil_of_silent fun both => silent both.2)
    exact ⟨locale, Catalog.mem_locales_ne_iff.mpr ⟨known, other⟩, flawed⟩

/-- Why a check fails because of a file. -/
inductive FailsOn (files : Files) (strict : Bool) (path : String) : Prop
  | unloaded {error : Config.LoadError} (failed : Unloadable files path error)
  | rejected {text : String} {config : Config} {p : Phrase} (held : Holds files path text config)
      (member : p ∈ config.resources.phrases) (rejected : p.Rejected)
  | flawed {text : String} {config : Config} {locale : String} (isStrict : strict = true)
      (held : Holds files path text config) (other : locale ≠ config.defaultLocale)
      (flawed : config.translator.1.review config.defaultLocale locale ≠ [])

/-- A check fails because of a file by what it finds there. -/
theorem failsOn_iff {files : Files} {strict : Bool} {path : String} :
    FailsOn files strict path ↔ (Finding.ofFile files path).hasErrors = true ∨
      strict = true ∧ (Finding.ofFile files path).hasWarnings = true := by
  cases read : loadConfig files path with
  | error error =>
    have found : Finding.ofFile files path = .unloaded path error := by
      rw [Finding.ofFile, read]
    rw [found]
    exact ⟨fun _ => .inl rfl, fun _ => .unloaded (loadConfig_eq_error_iff.mp read)⟩
  | ok config =>
    have found : Finding.ofFile files path = .loaded path (badTexts config) (flaws config) := by
      rw [Finding.ofFile, read]
    have errors : (!(badTexts config).isEmpty) = true ↔ badTexts config ≠ [] := by simp
    have warnings : (!(flaws config).isEmpty) = true ↔ flaws config ≠ [] := by simp
    rw [found, Finding.hasErrors, Finding.hasWarnings, errors, warnings, badTexts_ne_nil_iff,
      flaws_ne_nil_iff]
    constructor
    · rintro (failed | ⟨held, member, rejected⟩ | ⟨isStrict, held, other, flawed⟩)
      · cases read.symm.trans (loadConfig_eq_error_iff.mpr failed)
      · cases read.symm.trans (loadConfig_eq_ok_iff.mpr ⟨_, held⟩)
        exact .inl ⟨_, member, rejected⟩
      · cases read.symm.trans (loadConfig_eq_ok_iff.mpr ⟨_, held⟩)
        exact .inr ⟨isStrict, _, other, flawed⟩
    · obtain ⟨text, held⟩ := loadConfig_eq_ok_iff.mp read
      rintro (⟨p, member, rejected⟩ | ⟨isStrict, locale, other, flawed⟩)
      · exact .rejected held member rejected
      · exact .flawed isStrict held other flawed

/-- A check fails exactly because of its files. -/
theorem exit_eq_badData_iff {files : Files} {paths : List String} {strict json : Bool} :
    (report files paths strict json).exit = .badData ↔
      ∃ path ∈ paths, FailsOn files strict path := by
  have failed : ((paths.map (Finding.ofFile files)).any Finding.hasErrors ||
      (strict && (paths.map (Finding.ofFile files)).any Finding.hasWarnings)) = true ↔
      ∃ path ∈ paths, FailsOn files strict path := by
    simp only [failsOn_iff, Bool.or_eq_true, Bool.and_eq_true, List.any_map, List.any_eq_true,
      Function.comp_apply]
    constructor
    · rintro (⟨path, member, errors⟩ | ⟨isStrict, path, member, warnings⟩)
      · exact ⟨path, member, .inl errors⟩
      · exact ⟨path, member, .inr ⟨isStrict, warnings⟩⟩
    · rintro ⟨path, member, errors | ⟨isStrict, warnings⟩⟩
      · exact .inl ⟨path, member, errors⟩
      · exact .inr ⟨isStrict, path, member, warnings⟩
  rw [← failed, report]
  split <;> simp_all

theorem exit_eq_success_or_badData (files : Files) (paths : List String) (strict json : Bool) :
    (report files paths strict json).exit = .success ∨
      (report files paths strict json).exit = .badData := by
  rw [report]
  split
  · exact .inr rfl
  · exact .inl rfl

/-- The code of a check says whether one of its files makes it fail. -/
theorem exit_code_eq_iff {files : Files} {paths : List String} {strict json : Bool} :
    let code := (report files paths strict json).exit.code
    let fails := ∃ path ∈ paths, FailsOn files strict path
    (code = 65 ↔ fails) ∧ (code = 0 ↔ ¬ fails) := by
  intro code fails
  have bad : (report files paths strict json).exit = .badData ↔ fails := exit_eq_badData_iff
  rcases exit_eq_success_or_badData files paths strict json with passed | failed
  · have sound : ¬ fails := by
      rw [← bad, passed]
      decide
    simp [code, passed, sound, Exit.code]
  · have broken : fails := bad.mp failed
    simp [code, failed, broken, Exit.code]

def draft : Config where
  resources := ⟨[("en", [("note", [("hi", .text "Hi \x7b\x7b")])])]⟩

end Check

end CommandLine

end Phrasebook
