import Phrasebook.Catalog.Translator

/-!
# Reviewing translations

A target locale is compared with a source locale, pair of namespace and key by pair. The target
should define no pair that the source lacks, and a text should use the same set of placeholders
in both. Texts with malformed placeholders are left alone, and so are locales without texts.
-/
namespace Phrasebook

/-- A flaw of a target locale. -/
inductive Flaw where
  | unknownKey (key locale : String)
  | placeholderMismatch (key locale : String) (expected found : List String)
  deriving DecidableEq, Repr

namespace Flaw

def message : Flaw → String
  | unknownKey key locale => s!"'{key}' in '{locale}' does not exist in the source locale"
  | placeholderMismatch key locale expected found =>
    let found := ", ".intercalate found
    let expected := ", ".intercalate expected
    s!"'{key}' in '{locale}' uses placeholders [{found}], source uses [{expected}]"

end Flaw

namespace Translator

def flaw? (t : Translator) (source target space key : String) : Option Flaw :=
  match t.catalog.find? source space key, t.catalog.find? target space key with
  | none, _ => some (.unknownKey (t.qualify space key) target)
  | some _, none => none
  | some model, some counterpart =>
    if model.malformed || counterpart.malformed then none
    else
      let expected := distinctNames model.template.placeholders
      let found := distinctNames counterpart.template.placeholders
      if expected = found then none
      else some (.placeholderMismatch (t.qualify space key) target expected found)

/-- The flaws of a target locale against a source locale, in the order of its pairs. -/
def review (t : Translator) (source target : String) : List Flaw :=
  if (t.catalog.registries.get? source).isNone then []
  else (t.defined target).filterMap fun (space, key) => t.flaw? source target space key

end Translator

end Phrasebook
