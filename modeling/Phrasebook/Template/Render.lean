import Phrasebook.Markup
import Phrasebook.Template.Basic
import Phrasebook.Value.Basic

/-!
# Filling templates

A placeholder is filled with the parameter whose whole name is its path, or else with what the
path leads to from the parameter named by its first part. One that leads nowhere is filled with
nothing and reported.
-/
namespace Phrasebook

open Text

/-- A filled template: its text, and the paths that led nowhere in the order of the text. -/
structure Rendered where
  text : String
  missing : List String
  deriving DecidableEq, Repr

namespace Template

/-- The parameter that a placeholder path stands for. -/
def resolve (params : Params) (path : String) : Option Value :=
  match params.get? path with
  | some value => some value
  | none => do
    let (head, rest) ← cut (· = '.') path
    (← params.get? head).getPath? rest

/-- A filled segment. Values are escaped for markup when `escape` is set and the placeholder is
not raw. -/
def renderSegment (params : Params) (escape : Bool) : Segment → Rendered
  | .literal text => ⟨text, []⟩
  | .placeholder path raw =>
    match resolve params path with
    | none => ⟨"", [path]⟩
    | some value =>
      if escape && !raw then ⟨Markup.escape value.display, []⟩ else ⟨value.display, []⟩

/-- A filled template. -/
def render (t : Template) (params : Params) (escape : Bool) : Rendered :=
  let parts := t.segments.map (renderSegment params escape)
  ⟨String.join (parts.map Rendered.text), parts.flatMap Rendered.missing⟩

end Template

end Phrasebook
