import Phrasebook.Catalog.Entry
import Phrasebook.NameMap

/-!
# Registries

A registry holds the entries of one namespace of a locale by key. The first entry of a key stays,
and another one for the key is reported.
-/
namespace Phrasebook

/-- The entries of one namespace of a locale. -/
structure Registry where
  entries : NameMap Entry
  deriving Repr

namespace Registry

def empty : Registry := ⟨[]⟩

def get? (r : Registry) (key : String) : Option Entry := r.entries.get? key

def contains (r : Registry) (key : String) : Bool := r.entries.contains key

def keys (r : Registry) : List String := r.entries.keys

def size (r : Registry) : Nat := r.entries.length

/-- Adds an entry, unless the key has one. -/
def insert (r : Registry) (key : String) (entry : Entry) : Registry :=
  ⟨r.entries.alter key (·.getD entry)⟩

def insertEvents (r : Registry) (key : String) : List Event :=
  if r.contains key then [.repeatedKey key] else []

end Registry

end Phrasebook
