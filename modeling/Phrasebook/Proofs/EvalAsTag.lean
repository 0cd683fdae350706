import Phrasebook.CommandLine.Run
import Phrasebook.Proofs.Cutting
import Phrasebook.Proofs.DefaultLocale

/-!
# The command translates as the tag does

The command takes its locale from an option and its parameters from arguments `name=value`. With
the same locale and the map of these parameters a call of the tag gives the text that the command
prints and leaves the locale active that the command reports. The command looks the key up a
second time to say whether it was found, in the locale that is active by then.
-/
namespace Phrasebook.CommandLine.Eval

open Tag Text

/-! Parameters. -/

/-- An argument gives a value to a name, which stands in front of its first equals sign: the JSON
value of the text behind that, or else this text itself. -/
inductive Assigns (argument name : String) : Value → Prop
  | json {text : String} {j : Json} (split : argument = name ++ "=" ++ text)
      (first : '=' ∉ name.toList) (read : Json.read text = .ok j) :
      Assigns argument name (.ofJson j)
  | text {text : String} {fault : Json.Fault} (split : argument = name ++ "=" ++ text)
      (first : '=' ∉ name.toList) (unreadable : Json.read text = .error fault) :
      Assigns argument name (.string text)

/-- The parameters that arguments give: every name has the value of the last argument that gives
it one. -/
structure GivenBy (arguments : List String) (params : Params) : Prop where
  ascending : params.Ascending
  last : ∀ name v, params.get? name = some v ↔
    ∃ front argument behind, arguments = front ++ argument :: behind ∧
      Assigns argument name v ∧ ∀ later ∈ behind, ∀ w, ¬ Assigns later name w

theorem cut_equals_iff {argument name text : String} :
    cut (· = '=') argument = some (name, text) ↔
      argument = name ++ "=" ++ text ∧ '=' ∉ name.toList := by
  rw [cut_eq_some_iff, ← String.toList_inj]
  simp

/-- An argument with an equals sign gives one value to one name. -/
theorem assigns_iff {argument : String} (formed : '=' ∈ argument.toList) {name : String}
    {v : Value} :
    Assigns argument name v ↔
      (nameAndValue argument).1 = name ∧ readValue (nameAndValue argument).2 = v := by
  cases parts : cut (· = '=') argument with
  | none => exact absurd formed (cut_eq_none_iff.mp parts)
  | some pair =>
    obtain ⟨front, text⟩ := pair
    have read : nameAndValue argument = (front, text) := by
      rw [nameAndValue, parts, Option.getD_some]
    rw [read]
    constructor
    · rintro (⟨split, first, read⟩ | ⟨split, first, unreadable⟩)
      · cases parts.symm.trans (cut_equals_iff.mpr ⟨split, first⟩)
        simp [readValue, read]
      · cases parts.symm.trans (cut_equals_iff.mpr ⟨split, first⟩)
        simp [readValue, unreadable]
    · rintro ⟨rfl, rfl⟩
      obtain ⟨split, first⟩ := cut_equals_iff.mp parts
      unfold readValue
      cases read : Json.read text with
      | ok j => exact .json split first read
      | error fault => exact .text split first read

theorem givenBy_readParams {arguments : List String}
    (formed : ∀ argument ∈ arguments, '=' ∈ argument.toList) :
    GivenBy arguments (readParams (arguments.map nameAndValue)) := by
  refine ⟨NameMap.ascending_ofList _, fun name v => ?_⟩
  rw [readParams, NameMap.get?_ofList, List.map_map, ← List.map_reverse, List.find?_map,
    Option.map_map, Option.map_eq_some_iff]
  simp only [List.find?_eq_some_iff_append, Function.comp_apply, decide_eq_true_eq]
  constructor
  · rintro ⟨argument, ⟨named, behind, front, reversed, apart⟩, given⟩
    have whole : arguments = front.reverse ++ argument :: behind.reverse := by
      simpa using congrArg List.reverse reversed
    have known : ∀ later ∈ behind.reverse, later ∈ arguments := by
      simp +contextual [whole]
    refine ⟨front.reverse, argument, behind.reverse, whole, ?_, fun later inside w assigns => ?_⟩
    · exact (assigns_iff (formed argument (by simp [whole]))).mpr ⟨named, given⟩
    · have same := ((assigns_iff (formed later (known later inside))).mp assigns).1
      simpa [same] using apart later (List.mem_reverse.mp inside)
  · rintro ⟨front, argument, behind, rfl, assigns, apart⟩
    obtain ⟨named, given⟩ := (assigns_iff (formed argument (by simp))).mp assigns
    refine ⟨argument, ⟨named, behind.reverse, front.reverse, by simp, fun later inside => ?_⟩,
      given⟩
    have inside : later ∈ behind := List.mem_reverse.mp inside
    have other : (nameAndValue later).1 ≠ name := fun same =>
      apart later inside _ ((assigns_iff (formed later (by simp [inside]))).mpr ⟨same, rfl⟩)
    simpa using other

/-! Translating. -/

def localeValue (locale? : Option String) : Value :=
  (locale?.map .string).getD .null

theorem localeFrom_localeValue (e : Extension) (locale? : Option String) :
    Call.localeFrom e (localeValue locale?) =
      (locale?.bind fun locale => (Value.string locale).asLocale?).getD e.config.defaultLocale := by
  cases locale? with
  | none => rfl
  | some locale =>
    simp only [localeValue, Option.map_some, Option.getD_some, Call.localeFrom, Option.bind_some,
      Value.asLocale?]
    split <;> rfl

/-- A call with the locale and the parameters of the command gives the command's text and leaves
the reported locale active. -/
theorem observed_trans_eq_result {m : Type → Type} [Monad m] [LawfulMonad m] (config : Config)
    (locale? : Option String) (key : String) (params : List (String × String)) (context : Value)
    (effect : m PUnit) :
    let e := (Extension.ofConfig config).1
    let r := result config locale? key params
    Outcome.observed <$> e.trans [.context context, .value (localeValue locale?),
        .value (.map (readParams params)), .body (effect *> pure (.ok key))] =
      effect *> pure
        (.ok ⟨r.text⟩, { e with translator := e.translator.activate r.locale }) := by
  intro e r
  rw [Extension.observed_trans, localeFrom_localeValue, seqRight_eq_bind, map_bind]
  simp only [map_pure]
  rw [← seqRight_eq_bind]
  rfl

theorem text_result (config : Config) (locale? : Option String) (key : String)
    (params : List (String × String)) :
    let r := result config locale? key params
    r.text = (config.translator.1.translate r.locale key (readParams params)).text := rfl

theorem locale_result (config : Config) (locale? : Option String) (key : String)
    (params others : List (String × String)) :
    (result config locale? key params).locale = (result config locale? key others).locale := rfl

theorem found_result_iff (config : Config) (locale? : Option String) (key : String)
    (params : List (String × String)) :
    let r := result config locale? key params
    r.found = false ↔ config.translator.1.lookup r.locale key = none := by
  intro r
  exact Option.isSome_eq_false_iff.trans Option.isNone_iff_eq_none

theorem text_result_of_not_found {config : Config} {locale? : Option String} {key : String}
    {params : List (String × String)} (missing : (result config locale? key params).found = false)
    (others : List (String × String)) : (result config locale? key others).text = key := by
  have absent := (found_result_iff config locale? key params).mp missing
  rw [text_result, locale_result config locale? key others params, Translator.translate, absent]

/-- Strict evaluation fails on a key that is not found, and nothing else does. -/
theorem code_report_iff (config : Config) (locale? : Option String) (key : String)
    (params : List (String × String)) (strict json : Bool) :
    let code := (report config locale? key params strict json).exit.code
    let missing := (result config locale? key params).found = false
    (code = 65 ↔ strict = true ∧ missing) ∧ (code = 0 ↔ ¬ (strict = true ∧ missing)) := by
  intro code missing
  have failed : (strict && !(result config locale? key params).found) = true ↔
      strict = true ∧ missing := by
    simp [missing]
  simp only [code, report, ← failed]
  split <;> simp_all [Exit.code]

/-- The command does for a locale, a key and arguments `name=value` what the tag does when it is
called with that locale, the map of the parameters and a body that gives the key: it prints the
text of the call, and reports the locale that the call leaves active. It says that the key is not
found exactly if a lookup in that locale finds nothing, and then prints the key for all
parameters. It ends with 65 exactly if it is strict and the key is not found, and else with 0. -/
theorem report_as_tag {m : Type → Type} [Monad m] [LawfulMonad m] (config : Config)
    (locale? : Option String) (key : String) (arguments : List String)
    (formed : ∀ argument ∈ arguments, '=' ∈ argument.toList) (strict : Bool) :
    let e := (Extension.ofConfig config).1
    let run (arguments : List String) (json : Bool) : Report :=
      report config locale? key (arguments.map nameAndValue) strict json
    let params := readParams (arguments.map nameAndValue)
    let r := result config locale? key (arguments.map nameAndValue)
    (∀ files path json, loadConfig files path = .ok config →
      (Command.eval path locale? key (arguments.map nameAndValue) strict json).report files =
        run arguments json) ∧
    GivenBy arguments params ∧
    (∀ (context : Value) (effect : m PUnit),
      Outcome.observed <$> e.trans [.context context, .value (localeValue locale?),
          .value (.map params), .body (effect *> pure (.ok key))] =
        effect *> pure
          (.ok ⟨r.text⟩, { e with translator := e.translator.activate r.locale })) ∧
    (run arguments false).output = r.text ++ "\n" ∧
    (run arguments true).output = (Json.object [("locale", .string r.locale),
      ("key", .string key), ("result", .string r.text), ("found", .bool r.found)]).pretty ++ "\n" ∧
    (r.found = false ↔ e.translator.lookup r.locale key = none) ∧
    (r.found = false → ∀ others, (run others false).output = key ++ "\n") ∧
    ∀ json, ((run arguments json).exit.code = 65 ↔ strict = true ∧ r.found = false) ∧
      ((run arguments json).exit.code = 0 ↔ ¬ (strict = true ∧ r.found = false)) := by
  intro e run params r
  refine ⟨fun files path json loaded => ?_, givenBy_readParams formed, fun context effect => ?_,
    rfl, rfl, found_result_iff config locale? key _, fun missing others => ?_,
    fun json => code_report_iff config locale? key _ strict json⟩
  · rw [Command.report, withConfig, loaded]
  · exact observed_trans_eq_result config locale? key _ context effect
  · have text := text_result_of_not_found missing (others.map nameAndValue)
    change (result config locale? key _).text ++ "\n" = key ++ "\n"
    rw [text]

def greetings : Config where
  resources := ⟨[("de", [("translation", [("hello", .text "Hallo, \x7b\x7bname\x7d\x7d")])])]⟩

theorem report_as_tag_of_greetings :
    let arguments := ["name=Eve", "count=3", "name=Ada=Lovelace"]
    let e := (Extension.ofConfig greetings).1
    let params := readParams (arguments.map nameAndValue)
    LawfulMonad (StateM (List String)) ∧
    (∀ argument ∈ arguments, '=' ∈ argument.toList) ∧
    GivenBy arguments params ∧
    Outcome.observed <$> e.trans [.context .null, .value (.string " de-AT "),
        .value (.map params), .body (modify (· ++ ["key"]) *> pure (.ok "hello"))] =
      modify (· ++ ["key"]) *> pure (f := StateM (List String))
        (.ok ⟨"Hallo, Ada=Lovelace"⟩,
          { e with translator := e.translator.activate "de-AT" }) ∧
    (report greetings (some " de-AT ") "bye" (arguments.map nameAndValue) true true).exit.code =
      65 := by
  intro arguments e params
  have formed : ∀ argument ∈ arguments, '=' ∈ argument.toList := by decide
  have found : result greetings (some " de-AT ") "hello" (arguments.map nameAndValue) =
      ⟨"de-AT", "hello", "Hallo, Ada=Lovelace", true⟩ := by decide +kernel
  have missing : (result greetings (some " de-AT ") "bye" (arguments.map nameAndValue)).found =
      false := by decide +kernel
  obtain ⟨-, given, called, -⟩ := report_as_tag (m := StateM (List String)) greetings
    (some " de-AT ") "hello" arguments formed true
  obtain ⟨-, -, -, -, -, -, -, ended⟩ := report_as_tag (m := StateM (List String)) greetings
    (some " de-AT ") "bye" arguments formed true
  refine ⟨inferInstance, formed, given, ?_, (ended true).1.mpr ⟨rfl, missing⟩⟩
  have same := called .null (modify (· ++ ["key"]))
  rwa [found] at same

end Phrasebook.CommandLine.Eval
