/-!
# Templates

A template is a catalog text taken apart: literal texts, and placeholders that are filled with the
parameter at a dotted path.
-/
namespace Phrasebook

/-- A part of a template. A raw placeholder is filled without escaping. -/
inductive Segment where
  | literal (text : String)
  | placeholder (path : String) (raw : Bool)
  deriving DecidableEq, Repr

namespace Segment

def isLiteral : Segment → Bool
  | literal _ => true
  | placeholder .. => false

def path? : Segment → Option String
  | literal _ => none
  | placeholder path _ => some path

end Segment

/-- A catalog text taken apart. -/
structure Template where
  segments : List Segment
  deriving DecidableEq, Repr

namespace Template

def isLiteral (t : Template) : Bool :=
  t.segments.all Segment.isLiteral

/-- The paths of the placeholders, in the order of the text. -/
def placeholders (t : Template) : List String :=
  t.segments.filterMap Segment.path?

end Template

end Phrasebook
