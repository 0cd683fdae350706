import Mathlib.Data.List.Basic
import Mathlib.Tactic.SplitIfs
import Phrasebook.Catalog.Translator

/-!
# Parameters add no markup

The significant characters of a translation are compared by the list of them, its skeleton. An
escaped text has an empty one, so a placeholder that is not raw adds nothing to the skeleton of
its translation, whatever value fills it. What remains is the skeleton of the literals, or of the
name itself where no entry is found.
-/
namespace Phrasebook

namespace Markup

/-- The characters that escaping takes out of a text. An ampersand stays, in front of its
entity. -/
def isSignificant (c : Char) : Bool :=
  c = '<' || c = '>' || c = '"' || c = '\'' || c = '/'

/-- The significant characters of a text, in their order. -/
def skeleton (s : String) : List Char :=
  s.toList.filter isSignificant

theorem filter_escapeChar (c : Char) : (escapeChar c).filter isSignificant = [] := by
  unfold escapeChar
  split_ifs with ampersand less greater quote apostrophe slash
  case neg => simp [isSignificant, less, greater, quote, apostrophe, slash]
  all_goals decide

@[simp] theorem skeleton_escape (s : String) : skeleton (escape s) = [] := by
  simp [skeleton, escape, List.filter_flatMap, filter_escapeChar]

theorem skeleton_join (parts : List String) :
    skeleton (String.join parts) = parts.flatMap skeleton := by
  rw [skeleton, String.toList_join, List.filter_flatMap]
  rfl

end Markup

open Markup

namespace Segment

def skeleton : Segment → List Char
  | literal text => Markup.skeleton text
  | placeholder _ _ => []

def isRaw : Segment → Bool
  | literal _ => false
  | placeholder _ raw => raw

end Segment

namespace Template

def Escaped (t : Template) : Prop :=
  ∀ segment ∈ t.segments, segment.isRaw = false

instance (t : Template) : Decidable t.Escaped :=
  inferInstanceAs (Decidable (∀ segment ∈ t.segments, segment.isRaw = false))

/-- A filled segment has the significant characters of its own only. -/
theorem skeleton_renderSegment (params : Params) {segment : Segment}
    (escaped : segment.isRaw = false) :
    skeleton (renderSegment params true segment).text = segment.skeleton := by
  cases segment with
  | literal text => rfl
  | placeholder path raw =>
    have notRaw : raw = false := escaped
    subst notRaw
    simp only [renderSegment]
    cases resolve params path with
    | none => rfl
    | some value => exact skeleton_escape value.display

/-- The significant characters of a filled template are those of its literals. -/
theorem skeleton_render (params : Params) {t : Template} (escaped : t.Escaped) :
    skeleton (t.render params true).text = t.segments.flatMap Segment.skeleton := by
  have each : ∀ segment ∈ t.segments,
      skeleton (renderSegment params true segment).text = segment.skeleton :=
    fun segment member => skeleton_renderSegment params (escaped segment member)
  simp only [render, skeleton_join, List.flatMap_map]
  exact List.flatMap_congr each

end Template

namespace Translator

/-- The significant characters of a translation come from the entry found or from the name. -/
def skeletonOf (t : Translator) (locale name : String) : List Char :=
  match t.lookup locale name with
  | some (_, entry) => entry.template.segments.flatMap Segment.skeleton
  | none => skeleton name

theorem skeleton_translate {t : Translator} (escapes : t.escapesValues = true)
    {locale name : String}
    (escaped : ∀ found ∈ t.lookup locale name, found.2.template.Escaped) (params : Params) :
    skeleton (t.translate locale name params).text = t.skeletonOf locale name := by
  unfold translate skeletonOf
  cases hit : t.lookup locale name with
  | none => rfl
  | some found =>
    simp only [escapes]
    exact Template.skeleton_render params (escaped found hit)

/-- Where values are escaped, two translations of one name have the same significant characters
in the same order, unless the entry found has a raw placeholder. -/
theorem skeleton_translate_eq (t : Translator) (escapes : t.escapesValues = true)
    (locale name : String)
    (escaped : ∀ found ∈ t.lookup locale name, found.2.template.Escaped) (P Q : Params) :
    skeleton (t.translate locale name P).text = skeleton (t.translate locale name Q).text := by
  calc
    skeleton (t.translate locale name P).text
      = t.skeletonOf locale name := skeleton_translate escapes escaped P
    _ = skeleton (t.translate locale name Q).text := (skeleton_translate escapes escaped Q).symm

/-- A translator whose text has markup of its own around two placeholders. -/
def tooltips : Translator where
  catalog := ⟨[("en", [("translation", ⟨[("tip",
    ⟨"<b title='\x7b\x7btip\x7d\x7d'>\x7b\x7buser.name\x7d\x7d</b>",
      ⟨[.literal "<b title='", .placeholder "tip" false, .literal "'>",
        .placeholder "user.name" false, .literal "</b>"]⟩, false⟩)]⟩)])]⟩
  fallbackLocales := []
  defaultNamespace := "translation"
  escapesValues := true
  active := "en"

/-- Parameters that would close the tag and open another. -/
def breakingOut : Params :=
  [("tip", .list [.string "'/><script>", .map [("a/b", .null)]]),
    ("user", .map [("name", .string "</b>")])]

theorem skeleton_translate_eq_of_tooltips :
    tooltips.escapesValues = true ∧
    (∀ found ∈ tooltips.lookup "en" "tip", found.2.template.Escaped) ∧
    skeleton (tooltips.translate "en" "tip" breakingOut).text =
      skeleton (tooltips.translate "en" "tip" []).text ∧
    (tooltips.translate "en" "tip" []).text = "<b title=''></b>" := by
  have escaped : ∀ found ∈ tooltips.lookup "en" "tip", found.2.template.Escaped := by
    intro found hit
    cases hit
    decide
  exact ⟨rfl, escaped, skeleton_translate_eq tooltips rfl "en" "tip" escaped breakingOut [], rfl⟩

end Translator

end Phrasebook
