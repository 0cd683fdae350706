import Phrasebook.Catalog.Basic
import Phrasebook.Catalog.Suggestion
import Phrasebook.Template.Render

/-!
# Translators

A translator looks keys up in a catalog. A key may begin with a namespace and a colon, and is
looked up in one locale after the other: the wanted one, its base language, and the fallback
locales. A key that none of them has is its own translation. One locale is active; only the
operations that set it depend on it or change it.
-/
namespace Phrasebook

open Text

/-- A catalog with the rules of looking keys up in it, and the active locale. -/
structure Translator where
  catalog : Catalog
  fallbackLocales : List String
  defaultNamespace : String
  escapesValues : Bool
  active : String
  deriving Repr

namespace Translator

/-- What a translator is made with besides its resources. Without a language the first fallback
locale is active at first, and `en` when there is none. -/
structure Options where
  fallbackLocales : List String := []
  defaultNamespace : String := "translation"
  escapesValues : Bool := true
  language? : Option String := none
  deriving Repr

/-- The translator of a resource tree, and what is reported on its texts. -/
def ofResources (r : Resources) (options : Options) : Translator × List Event :=
  let (catalog, events) := Catalog.ofResources r
  let translator : Translator := {
    catalog
    fallbackLocales := options.fallbackLocales
    defaultNamespace := options.defaultNamespace
    escapesValues := options.escapesValues
    active := (options.language?.or options.fallbackLocales.head?).getD "en" }
  (translator, events)

/-- Makes a locale active. It need not have texts. -/
def activate (t : Translator) (locale : String) : Translator :=
  { t with active := locale }

/-- The base language of a locale: what stands before its first hyphen or underscore, unless
nothing does. -/
def baseLanguage? (locale : String) : Option String :=
  ((cut (fun c => c = '-' || c = '_') locale).map Prod.fst).filter (· ≠ "")

/-- The locales in which keys are looked up for a wanted one, each once and none without a
name. -/
def fallbackChain (t : Translator) (locale : String) : List String :=
  let candidates := locale :: (baseLanguage? locale).toList ++ t.fallbackLocales
  (candidates.filter (· ≠ "")).eraseDups

/-- The namespace and the key that a name addresses: a name splits at its first colon if that ends
a namespace with texts, and otherwise is a key of the default namespace. -/
def address (t : Translator) (name : String) : String × String :=
  match cut (· = ':') name with
  | none => (t.defaultNamespace, name)
  | some (space, key) =>
    if t.catalog.hasNamespace space then (space, key) else (t.defaultNamespace, name)

/-- The first locale of the fallback chain that has the addressed key, and its entry. -/
def lookup (t : Translator) (locale name : String) : Option (String × Entry) :=
  let (space, key) := t.address name
  (t.fallbackChain locale).findSome? fun candidate =>
    (t.catalog.find? candidate space key).map (candidate, ·)

def finds (t : Translator) (locale name : String) : Bool :=
  (t.lookup locale name).isSome

/-- The translation of a name in a locale; the name itself when it is not found. -/
def translate (t : Translator) (locale name : String) (params : Params) : Rendered :=
  match t.lookup locale name with
  | some (_, entry) => entry.template.render params t.escapesValues
  | none => ⟨name, []⟩

def translateActive (t : Translator) (name : String) (params : Params) : Rendered :=
  t.translate t.active name params

def translateAs (t : Translator) (locale name : String) (params : Params) :
    Rendered × Translator :=
  (t.translate locale name params, t.activate locale)

/-- The name that addresses a key of a namespace. -/
def qualify (t : Translator) (space key : String) : String :=
  if space = t.defaultNamespace then key else space ++ ":" ++ key

/-- The pairs of a namespace and a key that a locale itself defines, in ascending order. -/
def defined (t : Translator) (locale : String) : List (String × String) :=
  (t.catalog.registriesOf locale).flatMap fun (space, registry) =>
    registry.keys.map fun key => (space, key)

def keys (t : Translator) (locale : String) : List String :=
  ((t.defined locale).map fun (space, key) => t.qualify space key).mergeSort
    fun a b => !decide (b < a)

/-- The names that one locale itself defines and another does not. -/
def missingKeys (t : Translator) (source target : String) : List String :=
  let present := t.keys target
  (t.keys source).filter fun name => !present.contains name

def suggestKeys (t : Translator) (locale name : String) : List String :=
  Suggestion.suggest name (t.keys locale)

end Translator

end Phrasebook
