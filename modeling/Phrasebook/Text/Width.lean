import Phrasebook.Text.Width.EmojiSequence

/-!
# Widths of texts on a terminal

The width of a text is the sum of the widths of its characters, but for those that are written
together: the letters of a ligature, the parts of an emoji, and a character with the selector behind
it. The text is read from its end, since what a character adds depends on what stands behind it.
-/
namespace Phrasebook.Text.Width

/-- A selector says how the character in front of it is shown. -/
inductive Selector where
  /-- As a text. -/
  | text
  /-- As an emoji. -/
  | emoji
  /-- A quotation mark as a wide one. -/
  | wide
deriving DecidableEq

/-- The selector that a character is. -/
def Selector.ofChar? (c : Char) : Option Selector :=
  if c = '\uFE0E' then some .text
  else if c = '\uFE0F' then some .emoji
  else if c = '\uFE01' then some .wide
  else none

def isQuotationMark (c : Char) : Bool :=
  c = '\u2018' || c = '\u2019' || c = '\u201C' || c = '\u201D'

/-- What a text begins with that may be written together with the characters in front of it. -/
inductive Opening where
  | plain
  | ligature (rest : Ligature)
  | vowel (rest : Vowel)
  | emoji (rest : EmojiSequence)

namespace Opening

/-- What a text begins with that begins with a character of its own. -/
def ofChar (c : Char) : Opening :=
  match Ligature.ofChar? c, Vowel.ofChar? c, EmojiSequence.ofChar? c with
  | some rest, _, _ => ligature rest
  | none, some rest, _ => vowel rest
  | none, none, some rest => emoji rest
  | none, none, none => plain

/-- What a character makes of what the text behind it begins with. There is no answer for a
character that is not written together with it. -/
def meet? : Opening → Char → Option (Int × Opening)
  | plain, _ => none
  | ligature rest, c =>
    (rest.meet? c).map fun (columns, rest) => (columns, (rest.map ligature).getD plain)
  | vowel rest, c =>
    (rest.meet? c).map fun (columns, rest) => (columns, (rest.map vowel).getD plain)
  | emoji rest, c => (rest.meet? c).map fun (columns, rest) => (columns, emoji rest)

/-- Whether an emoji in front of a selector is joined to the emoji that the text begins with. -/
def joinsEmoji : Opening → Bool
  | emoji (.joined .bare) => true
  | emoji (.joined .keycap) => true
  | _ => false

/-- What is left of an opening when no emoji can be joined to it: only a ligature goes on. -/
def withoutEmoji : Opening → Opening
  | ligature rest => ligature rest
  | _ => plain

/-- What is left behind a selector. A ligature goes on over it, and an emoji that is joined goes on
over the selector for emoji. -/
def behind (opening : Opening) (selector : Selector) : Opening :=
  if selector = .emoji && opening.joinsEmoji then opening else opening.withoutEmoji

def isLigature : Opening → Bool
  | ligature _ => true
  | _ => false

end Opening

/-- How a text begins, as far as it matters to a character in front of it. -/
structure Beginning where
  /-- The selectors that wait for the character that they show. -/
  selectors : List Selector
  opening : Opening

namespace Beginning

/-- The beginning of a text that changes nothing in front of it. -/
def plain : Beginning := ⟨[], .plain⟩

/-- The beginning with a selector in front of it. In front of a ligature all selectors wait, and
elsewhere only the first one does. -/
def select (text : Beginning) (selector : Selector) : Beginning :=
  ⟨selector :: (if text.opening.isLigature then text.selectors else []),
    text.opening.behind selector⟩

/-- The beginning when the selector for emoji, if it waits, does not suit the character in front. -/
def withoutEmoji (text : Beginning) : Beginning :=
  if .emoji ∈ text.selectors then
    ⟨text.selectors.filter (· ≠ .emoji), text.opening.withoutEmoji⟩
  else text

/-- The columns that a character adds in front of a text, and how the longer text begins. -/
def meet (text : Beginning) (c : Char) : Int × Beginning :=
  if .emoji ∈ text.selectors && Emoji.isSelectable c then
    (if text.opening.joinsEmoji then 0 else 2, ⟨[], .emoji .emoji⟩)
  else if c.toNat ≤ 0xA0 then (charWidth c, plain)
  else
    let text := text.withoutEmoji
    match Selector.ofChar? c with
    | some selector => (0, text.select selector)
    | none =>
      if .text ∈ text.selectors && Emoji.isNarrowable c then (1, plain)
      else if .wide ∈ text.selectors && isQuotationMark c then (2, plain)
      else
        match text.opening.meet? c with
        | some (columns, opening) => (columns, ⟨[], opening⟩)
        | none => (charWidth c, ⟨[], Opening.ofChar c⟩)

end Beginning

end Width

/-- The number of columns that a line of text takes up. -/
def width (s : String) : Nat :=
  (s.toList.foldr (fun c (columns, text) =>
    let (more, text) := Width.Beginning.meet text c
    (columns + more, text)) ((0 : Int), Width.Beginning.plain)).1.toNat

end Phrasebook.Text
