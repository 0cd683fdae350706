import Phrasebook.CommandLine.Report
import Phrasebook.CommandLine.Table

/-!
# Coverage of the default locale

The command counts, for each locale, how many keys of the default locale it defines itself, and
lists the others.
-/
namespace Phrasebook.CommandLine.Coverage

structure Row where
  locale : String
  translated : Nat
  total : Nat
  missing : List String
  deriving DecidableEq, Repr

namespace Row

def toJson (r : Row) : Json :=
  .object [("locale", .string r.locale), ("translated", .number (.integer r.translated)),
    ("total", .number (.integer r.total)), ("missing", .array (r.missing.map .string))]

def cells (r : Row) : List String :=
  [r.locale, s!"{r.translated}/{r.total}", toString r.missing.length]

def missingText (r : Row) : String :=
  if r.missing.isEmpty then ""
  else
    s!"\nMissing in {r.locale}:\n" ++ String.join (r.missing.map fun key => s!"  - {key}\n")

end Row

/-- The locales that are looked at: the wanted ones, or else all but the default one. -/
def locales (config : Config) (translator : Translator) (wanted : List String) : List String :=
  if wanted.isEmpty then translator.catalog.locales.filter (· ≠ config.defaultLocale) else wanted

def rows (config : Config) (wanted : List String) : List Row :=
  let translator := config.translator.1
  let total := (translator.keys config.defaultLocale).length
  (locales config translator wanted).map fun locale =>
    let missing := translator.missingKeys config.defaultLocale locale
    ⟨locale, total - missing.length, total, missing⟩

def tableText (rows : List Row) : String :=
  Table.render ["Locale", "Coverage", "Missing"] (rows.map Row.cells) ++ "\n" ++
    String.join (rows.map Row.missingText)

def report (config : Config) (wanted : List String) (strict json : Bool) : Report :=
  let rows := rows config wanted
  let incomplete := rows.any fun row => !row.missing.isEmpty
  { exit := if strict && incomplete then .badData else .success
    output := if json then (Json.array (rows.map Row.toJson)).pretty ++ "\n" else tableText rows
    notices := [] }

end Phrasebook.CommandLine.Coverage
