import Phrasebook.CommandLine.Report
import Phrasebook.Tag.Extension

/-!
# Translating a key

The command translates a key as the tag does. A key that is not found is its own translation, and
is reported with the keys of the default locale that are close to it.
-/
namespace Phrasebook.CommandLine.Eval

/-- The value of a parameter's text: its JSON value, or else the text itself. -/
def readValue (text : String) : Value :=
  match Json.read text with
  | .ok found => .ofJson found
  | .error _ => .string text

/-- The parameters of a command; of two with one name the later counts. -/
def readParams (params : List (String × String)) : Params :=
  NameMap.ofList (params.map fun (name, text) => (name, readValue text))

/-- A translated key: the locale that was active, the key and its translation, and whether the key
was found. -/
structure Result where
  locale : String
  key : String
  text : String
  found : Bool
  deriving DecidableEq, Repr

def Result.toJson (r : Result) : Json :=
  .object [("locale", .string r.locale), ("key", .string r.key), ("result", .string r.text),
    ("found", .bool r.found)]

def result (config : Config) (locale? : Option String) (key : String)
    (params : List (String × String)) : Result :=
  let extension := (Tag.Extension.ofConfig config).1
  let locale? := locale?.bind fun locale => (Value.string locale).asLocale?
  let (rendered, after) := extension.translateText key locale? (readParams params)
  let locale := after.translator.active
  ⟨locale, key, rendered.text, after.translator.finds locale key⟩

def notFound (config : Config) (r : Result) : List Notice :=
  let suggestions := config.translator.1.suggestKeys config.defaultLocale r.key
  warning s!"no translation for '{r.key}' in '{r.locale}'" ::
    if suggestions.isEmpty then []
    else [.remark ("  did you mean: " ++ colored "36" (", ".intercalate suggestions))]

def report (config : Config) (locale? : Option String) (key : String)
    (params : List (String × String)) (strict json : Bool) : Report :=
  let r := result config locale? key params
  { exit := if strict && !r.found then .badData else .success
    output := (if json then r.toJson.pretty else r.text) ++ "\n"
    notices := if json || r.found then [] else notFound config r }

end Phrasebook.CommandLine.Eval
