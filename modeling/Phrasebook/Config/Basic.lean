import Phrasebook.Catalog.Translator

/-!
# Configurations

A configuration holds the resources of a translator and the rules of looking keys up, fixed when
the tag is set up.
-/
namespace Phrasebook

structure Config where
  resources : Resources := .empty
  /-- The locale of tags that name none, and the first fallback of every lookup. -/
  defaultLocale : String := "en"
  /-- The namespace of keys that name none. -/
  defaultNamespace : String := "translation"
  /-- Whether filled-in values are escaped for markup. -/
  escapesValues : Bool := true
  /-- The locales tried after the default locale. -/
  fallbackLocales : List String := []
  deriving DecidableEq, Repr

namespace Config

/-- The default locale and the fallback locales, each once. -/
def fallbackChain (config : Config) : List String :=
  (config.defaultLocale :: config.fallbackLocales).eraseDups

def translatorOptions (config : Config) : Translator.Options where
  fallbackLocales := config.fallbackChain
  defaultNamespace := config.defaultNamespace
  escapesValues := config.escapesValues
  language? := some config.defaultLocale

def translator (config : Config) : Translator × List Event :=
  Translator.ofResources config.resources config.translatorOptions

def toJson (config : Config) : Json :=
  .object [
    ("translationResources", config.resources.toJson),
    ("defaultLocale", .string config.defaultLocale),
    ("defaultNamespace", .string config.defaultNamespace),
    ("escapeValue", .bool config.escapesValues),
    ("fallbackLocales", .array (config.fallbackLocales.map .string))]

end Config

end Phrasebook
