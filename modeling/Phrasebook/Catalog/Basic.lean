import Phrasebook.Catalog.Registry
import Phrasebook.Catalog.Resources

/-!
# Catalogs

A catalog holds the registries of all locales and namespaces. It grows by one phrase at a time and
reports the phrases that it could not take as written. Only names that have an entry are in it.
-/
namespace Phrasebook

/-- Registries by locale and namespace. -/
structure Catalog where
  registries : NameMap (NameMap Registry)
  deriving Repr

namespace Catalog

def empty : Catalog := ⟨[]⟩

def registriesOf (c : Catalog) (locale : String) : NameMap Registry :=
  (c.registries.get? locale).getD []

def registry (c : Catalog) (locale space : String) : Registry :=
  ((c.registriesOf locale).get? space).getD .empty

def find? (c : Catalog) (locale space key : String) : Option Entry :=
  (c.registry locale space).get? key

def locales (c : Catalog) : List String := c.registries.keys

def hasNamespace (c : Catalog) (space : String) : Bool :=
  c.registries.any fun (_, spaces) => spaces.contains space

def add (c : Catalog) (p : Phrase) : Catalog :=
  ⟨c.registries.alter p.locale fun spaces =>
    NameMap.alter p.space (fun registry => (registry.getD .empty).insert p.key (.ofText p.text))
      (spaces.getD [])⟩

/-- What is reported when a phrase is added: first its malformed text, then its repeated key. -/
def addEvents (c : Catalog) (p : Phrase) : List Event :=
  Entry.events p.text ++ (c.registry p.locale p.space).insertEvents p.key

/-- Adds phrases one after the other, and reports on each. -/
def addAll (c : Catalog) : List Phrase → Catalog × List Event
  | [] => (c, [])
  | p :: rest =>
    let (full, events) := addAll (c.add p) rest
    (full, c.addEvents p ++ events)

def ofResources (r : Resources) : Catalog × List Event :=
  empty.addAll r.phrases

end Catalog

end Phrasebook
