import Phrasebook.Event

/-!
# Catalog entries

An entry is a text with its template. A text with a malformed placeholder becomes an entry too,
with that placeholder as literal text, and is reported.
-/
namespace Phrasebook

/-- A catalog text with its template. Malformed placeholders are literal text there. -/
structure Entry where
  text : String
  template : Template
  malformed : Bool
  deriving DecidableEq, Repr

namespace Entry

def ofText (text : String) : Entry :=
  match Template.parse text with
  | .ok template => ⟨text, template, false⟩
  | .error _ => ⟨text, Template.parseLenient text, true⟩

def events (text : String) : List Event :=
  match Template.parse text with
  | .ok _ => []
  | .error fault => [.malformedText text fault]

end Entry

end Phrasebook
