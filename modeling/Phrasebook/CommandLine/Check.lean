import Phrasebook.Catalog.Review
import Phrasebook.CommandLine.Report

/-!
# Checking configurations

The command loads each file, takes every text of it apart strictly, and reviews every locale
against the default one. Files that cannot be loaded and malformed texts are errors; flaws of
locales are warnings.
-/
namespace Phrasebook.CommandLine.Check

/-- A text with a malformed placeholder. -/
structure BadText where
  phrase : Phrase
  fault : Template.Malformed
  deriving Repr

namespace BadText

def message (bad : BadText) : String :=
  let p := bad.phrase
  s!"malformed text for '{p.space}:{p.key}' in '{p.locale}': {bad.fault.reason}"

def notice (bad : BadText) (path : String) : Notice :=
  let p := bad.phrase
  .pointAt s!"{path}#{p.locale}/{p.space}:{p.key}" p.text bad.fault.place bad.message

end BadText

def badTexts (config : Config) : List BadText :=
  config.resources.phrases.filterMap fun p =>
    match Template.parse p.text with
    | .ok _ => none
    | .error fault => some ⟨p, fault⟩

def flaws (config : Config) : List Flaw :=
  let translator := config.translator.1
  (translator.catalog.locales.filter (· ≠ config.defaultLocale)).flatMap fun locale =>
    translator.review config.defaultLocale locale

/-- What the JSON output says on a file. -/
structure FileReport where
  file : String
  errors : List String
  warnings : List String
  deriving DecidableEq, Repr

def FileReport.toJson (r : FileReport) : Json :=
  .object [("file", .string r.file), ("errors", .array (r.errors.map .string)),
    ("warnings", .array (r.warnings.map .string))]

inductive Finding where
  | unloaded (path : String) (error : Config.LoadError)
  | loaded (path : String) (bad : List BadText) (flaws : List Flaw)

namespace Finding

def ofFile (files : Files) (path : String) : Finding :=
  match loadConfig files path with
  | .error error => unloaded path error
  | .ok config => loaded path (badTexts config) (Check.flaws config)

def hasErrors : Finding → Bool
  | unloaded .. => true
  | loaded _ bad _ => !bad.isEmpty

def hasWarnings : Finding → Bool
  | unloaded .. => false
  | loaded _ _ flaws => !flaws.isEmpty

def fileReport : Finding → FileReport
  | unloaded path error => ⟨path, [loadErrorMessage error], []⟩
  | loaded path bad flaws => ⟨path, bad.map BadText.message, flaws.map Flaw.message⟩

/-- A file without errors is named on a line of its own. -/
def output : Finding → String
  | loaded path [] _ => colored "32" "ok" ++ " " ++ path ++ "\n"
  | _ => ""

def notices : Finding → List Notice
  | unloaded _ error => [loadErrorNotice error]
  | loaded path bad flaws =>
    bad.map (fun b => b.notice path) ++ flaws.map fun flaw => warning flaw.message

end Finding

def report (files : Files) (paths : List String) (strict json : Bool) : Report :=
  let findings := paths.map (Finding.ofFile files)
  let failed := findings.any Finding.hasErrors || (strict && findings.any Finding.hasWarnings)
  { exit := if failed then .badData else .success
    output :=
      if json then
        (Json.array (findings.map fun finding => finding.fileReport.toJson)).pretty ++ "\n"
      else String.join (findings.map Finding.output)
    notices := if json then [] else findings.flatMap Finding.notices }

end Phrasebook.CommandLine.Check
