import Phrasebook.Text.Emoji
import Phrasebook.Text.Width.Ligature

/-!
# Sequences of emoji

Emoji with joiners between them are shown as one emoji of two columns, and so are an emoji with its
modifier and the two regional letters of a flag. A sequence is read from its end.
-/
namespace Phrasebook.Text.Width

/-- What stands before a joiner and an emoji, as far as it can be the end of an emoji. -/
inductive Joined where
  /-- Nothing yet. -/
  | bare
  /-- The key around a digit. -/
  | keycap
  /-- A number of regional letters. -/
  | regional (letters : Nat)
  /-- The tags that name a region on a flag: first the letters at their end, then the digits before
  these. -/
  | tags (letters digits : Nat)

/-- The beginning of a sequence of emoji. -/
inductive EmojiSequence where
  /-- A number of regional letters. -/
  | regional (letters : Nat)
  /-- A modifier of the skin colour. -/
  | modifier
  /-- An emoji. -/
  | emoji
  /-- The end of an emoji before a joiner and another emoji. -/
  | joined (part : Joined)

def isTagLetter (c : Char) : Bool :=
  0xE0061 ≤ c.toNat && c.toNat ≤ 0xE007A

def isTagDigit (c : Char) : Bool :=
  0xE0030 ≤ c.toNat && c.toNat ≤ 0xE0039

namespace Joined

/-- What a character makes of the end of an emoji that stands in front of a joiner. The emoji takes
up no columns of its own, so the second letter of a flag takes back the column of the first. -/
def meet? : Joined → Char → Option (Int × EmojiSequence)
  | bare, c =>
    if c = '\u20E3' then some (0, .joined keycap)
    else if Emoji.isRegional c then some (1, .joined (regional 1))
    else if Emoji.isModifier c then some (0, .modifier)
    else if c.toNat = 0xE007F then some (0, .joined (tags 0 0))
    else if Emoji.isPresented c then some (0, .emoji)
    else none
  | keycap, _ => none
  | regional letters, c =>
    if Emoji.isRegional c then
      some (if letters % 2 = 1 then -1 else 3, .joined (regional (letters + 1)))
    else if c = joiner && 2 ≤ letters then some (0, .joined bare)
    else none
  | tags letters digits, c =>
    if isTagLetter c && digits = 0 && letters < 6 then some (0, .joined (tags (letters + 1) 0))
    else if isTagDigit c && (if digits = 0 then letters ≤ 4 else digits < 3) then
      some (0, .joined (tags letters (digits + 1)))
    else if c.toNat = 0x1F3F4 && (digits = 3 || digits = 0 && 3 ≤ letters) then some (0, .emoji)
    else none

end Joined

namespace EmojiSequence

def ofChar? (c : Char) : Option EmojiSequence :=
  if Emoji.isRegional c then some (regional 1)
  else if Emoji.isModifier c then some modifier
  else if Emoji.isPresented c then some emoji
  else none

/-- What a character in front makes of a sequence: by how many columns the text becomes wider, and
the sequence it then begins with. There is no answer for a character that takes no part. -/
def meet? : EmojiSequence → Char → Option (Int × EmojiSequence)
  | regional letters, c =>
    if Emoji.isRegional c then some (1, regional (letters + 1))
    else if c = joiner && 2 ≤ letters then some (0, joined .bare)
    else none
  | modifier, c =>
    if Emoji.isModifiable c then some (0, emoji)
    else if c = joiner then some (0, joined .bare)
    else none
  | emoji, c => if c = joiner then some (0, joined .bare) else none
  | joined part, c => part.meet? c

end EmojiSequence

end Phrasebook.Text.Width
