import Phrasebook.Config.Basic
import Phrasebook.Json.Skip

/-!
# Reading configurations

A configuration is written as an object of its fields in any order, or as an array of them in
their fixed order. Fields that are left out take their defaults. A field may stand in an object
once; members of other names are skipped.
-/
namespace Phrasebook.Config

open Json

structure Draft where
  resources? : Option Resources := none
  defaultLocale? : Option String := none
  defaultNamespace? : Option String := none
  escapesValues? : Option Bool := none
  fallbackLocales? : Option (List String) := none

/-- The configuration of a draft, with defaults for what is missing. -/
def Draft.finish (draft : Draft) : Config :=
  let defaults : Config := {}
  { resources := draft.resources?.getD defaults.resources
    defaultLocale := draft.defaultLocale?.getD defaults.defaultLocale
    defaultNamespace := draft.defaultNamespace?.getD defaults.defaultNamespace
    escapesValues := draft.escapesValues?.getD defaults.escapesValues
    fallbackLocales := draft.fallbackLocales?.getD defaults.fallbackLocales }

/-- The resources of a configuration, which stand inside one container. -/
def resourcesField : Reader Resources :=
  Resources.reader (depthLimit - 1)

/-- The value of a field, from the colon on. A field that has been read before is refused there. -/
def fieldOnce {α : Type} (name : String) (earlier : Option α) (reader : Reader α) : Reader α :=
  fun s =>
    if earlier.isSome then .error (.before (behindClose s) (.repeatedField name))
    else do reader (← colon s)

/-- Reads the member `name` into a draft, from behind its name. -/
def member (draft : Draft) (name : String) : Reader Draft := fun s =>
  match name with
  | "translationResources" => do
    let (found, rest) ← fieldOnce name draft.resources? resourcesField s
    return ({ draft with resources? := some found }, rest)
  | "defaultLocale" => do
    let (found, rest) ← fieldOnce name draft.defaultLocale? stringValue s
    return ({ draft with defaultLocale? := some found }, rest)
  | "defaultNamespace" => do
    let (found, rest) ← fieldOnce name draft.defaultNamespace? stringValue s
    return ({ draft with defaultNamespace? := some found }, rest)
  | "escapeValue" => do
    let (found, rest) ← fieldOnce name draft.escapesValues? boolValue s
    return ({ draft with escapesValues? := some found }, rest)
  | "fallbackLocales" => do
    let (found, rest) ← fieldOnce name draft.fallbackLocales? (arrayOf stringValue) s
    return ({ draft with fallbackLocales? := some found }, rest)
  | _ => do
    let rest ← Skip.value (← colon s)
    return (draft, rest)

/-- Reads the members of a configuration object, in at most `bound` steps. -/
def membersInto : (bound : Nat) → (first : Bool) → Draft → Reader Draft
  | 0, _, _, s => .error (.on s .unfinishedObject)
  | bound + 1, first, draft, s => do
    match ← nextKey first s with
    | (none, rest) => return (draft, rest)
    | (some name, rest) =>
      let (draft, rest) ← member draft name rest
      membersInto bound false draft rest

/-- The next field of a configuration array, unless the array ends in front of it. The end is left
to be read. -/
def slot {α : Type} (reader : Reader α) (first : Bool) : Reader (Option α) := fun s => do
  match ← nextItem first s with
  | (true, rest) =>
    let (found, rest) ← reader rest
    return (some found, rest)
  | (false, _) => return (none, s)

def arrayEnd (s : List Char) : Except Fault (List Char) :=
  match skipSpace s with
  | [] => .error (.before [] .unfinishedList)
  | ']' :: rest => .ok rest
  | ',' :: rest =>
    match skipSpace rest with
    | ']' :: behind => .error (.on (']' :: behind) .trailingComma)
    | other => .error (.on other .trailingCharacters)
  | other => .error (.on other .trailingCharacters)

/-- Reads a configuration array from behind its opening bracket. -/
def arrayBody : Reader Draft := fun s => do
  let (resources?, s) ← slot resourcesField true s
  let (defaultLocale?, s) ← slot stringValue resources?.isNone s
  let (defaultNamespace?, s) ← slot stringValue defaultLocale?.isNone s
  let (escapesValues?, s) ← slot boolValue defaultNamespace?.isNone s
  let (fallbackLocales?, s) ← slot (arrayOf stringValue) escapesValues?.isNone s
  return (⟨resources?, defaultLocale?, defaultNamespace?, escapesValues?, fallbackLocales?⟩,
    ← arrayEnd s)

def reader : Reader Config := fun s => do
  let (draft, rest) ← (match skipSpace s with
    | '[' :: rest => arrayBody rest
    | '\x7b' :: rest => membersInto (rest.length + 1) true {} rest
    | other => .error (wrongShape "struct ExtensionConfig" other))
  return (draft.finish, rest)

def read (text : String) : Except Fault Config :=
  whole reader text

/-- Why a configuration cannot be loaded: its file cannot be read, or its text is not one. -/
inductive LoadError where
  | unreadable (path reason : String)
  | invalid (origin text : String) (fault : Fault)
  deriving DecidableEq

namespace LoadError

/-- The wording without the place in the text. -/
def summary : LoadError → String
  | unreadable path reason => s!"failed to read '{path}': {reason}"
  | invalid origin _ fault => s!"{origin}: invalid configuration: {fault.cause.message}"

/-- The wording with the place in the text. -/
def message : LoadError → String
  | unreadable path reason => s!"failed to read '{path}': {reason}"
  | invalid origin text fault => s!"{origin}: invalid configuration: {fault.message text}"

end LoadError

def textOrigin : String := "<string>"

def ofText (origin text : String) : Except LoadError Config :=
  (read text).mapError (.invalid origin text)

end Phrasebook.Config
