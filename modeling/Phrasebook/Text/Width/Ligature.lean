import Phrasebook.Text.Width.Character

/-!
# Ligatures

In some scripts a few letters are written as one, so that together they take up a single column.
A text is read from its end: the later part of a ligature waits for the letters in front of it, and
each of these says by how many columns it makes the text wider.
-/
namespace Phrasebook.Text.Width

/-- The joiner, which asks for the characters on its sides to be written as one. -/
def joiner : Char := '\u200D'

/-- Whether a character is an ignorable mark, which stands inside a ligature without a trace. -/
def isIgnorableMark (c : Char) : Bool :=
  inRanges [(0x34F, 0x34F), (0x17B4, 0x17B5), (0x180B, 0x180D), (0x180F, 0x180F), (0xFE00, 0xFE0F),
    (0xE0100, 0xE01EF)] c

/-- The later part of a ligature. Where the ligature needs a joiner, `joined` says whether one has
been read. -/
inductive Ligature where
  /-- An Arabic alef, which a lam in front of it takes in. -/
  | alef
  /-- A Hebrew lamed, which joins an alef. -/
  | lamed (joined : Bool)
  /-- A Buginese ya, which joins a syllable of two characters. -/
  | ya (joined : Bool)
  /-- A Buginese ya with the vowel of that syllable. -/
  | yaWithVowel
  /-- A Tifinagh letter, which joins another one. -/
  | tifinagh (joined : Bool)
  /-- A Tifinagh letter with the consonant joiner in front of it. -/
  | tifinaghWithJoiner
  /-- The second letter of a Lisu tone. -/
  | lisuTone
  /-- An Old Turkic letter i, which joins another letter. -/
  | orkhonI (joined : Bool)
  /-- A Khmer letter that goes below the letter in front of it. -/
  | khmerLetter

namespace Ligature

def isAlef (c : Char) : Bool :=
  inRanges [(0x622, 0x623), (0x625, 0x625), (0x627, 0x627), (0x671, 0x673), (0x675, 0x675),
    (0x773, 0x774), (0x870, 0x882)] c

/-- Whether a character is an Arabic lam, which takes in an alef behind it. -/
def isLam (c : Char) : Bool :=
  inRanges [(0x644, 0x644), (0x6B5, 0x6B8), (0x76A, 0x76A), (0x8A6, 0x8A6), (0x8C7, 0x8C7)] c

def isTifinagh (c : Char) : Bool :=
  inRanges [(0x2D31, 0x2D65), (0x2D6F, 0x2D6F)] c

/-- Whether a character is a Khmer letter that takes up no column below another letter. -/
def isSubjoinable (c : Char) : Bool :=
  inRanges [(0x1780, 0x1782), (0x1784, 0x1787), (0x1789, 0x178C), (0x178E, 0x1793),
    (0x1795, 0x1798), (0x179B, 0x179D), (0x17A0, 0x17A0), (0x17A2, 0x17A2), (0x17A7, 0x17A7),
    (0x17AB, 0x17AC), (0x17AF, 0x17AF)] c

/-- The ligature of which a character is the last letter. -/
def ofChar? (c : Char) : Option Ligature :=
  if isAlef c then some alef
  else if c = '\u05DC' then some (lamed false)
  else if c = '\u1A10' then some (ya false)
  else if isTifinagh c then some (tifinagh false)
  else if c = '\uA4FC' || c = '\uA4FD' then some lisuTone
  else if c.toNat = 0x10C03 then some (orkhonI false)
  else if isSubjoinable c then some khmerLetter
  else none

/-- The ligature with a joiner in front of it. -/
def join : Ligature → Ligature
  | lamed _ => lamed true
  | ya _ => ya true
  | tifinagh _ => tifinagh true
  | orkhonI _ => orkhonI true
  | other => other

/-- What a letter in front makes of a ligature: by how many columns the text becomes wider, and what
is left to wait for. There is no answer for a letter that takes no part. -/
def letter? : Ligature → Char → Option (Int × Option Ligature)
  | lamed true, c => if c = '\u05D0' then some (0, none) else none
  | ya true, c => if c = '\u1A17' then some (0, some yaWithVowel) else none
  | yaWithVowel, c => if c = '\u1A15' then some (0, none) else none
  | tifinagh joined, c =>
    if c = '\u2D7F' then some (1, some tifinaghWithJoiner)
    else if joined && isTifinagh c then some (0, none)
    else none
  | tifinaghWithJoiner, c => if isTifinagh c then some (-1, none) else none
  | lisuTone, c => if inRanges [(0xA4F8, 0xA4FB)] c then some (0, none) else none
  | orkhonI true, c => if c.toNat = 0x10C32 then some (0, none) else none
  | khmerLetter, c => if c = '\u17D2' then some (-1, none) else none
  | _, _ => none

/-- What any character in front makes of a ligature. Marks between the letters change nothing: in
Arabic all that let letters join, elsewhere the ignorable ones and joiners. -/
def meet? (rest : Ligature) (c : Char) : Option (Int × Option Ligature) :=
  match rest with
  | alef =>
    if isLam c then some (0, none)
    else if isTransparent c then some (0, some alef)
    else none
  | rest =>
    if c = joiner then some (0, some rest.join)
    else if isIgnorableMark c then some (0, some rest)
    else rest.letter? c

end Ligature

/-- The later part of a Kirat Rai vowel. Such a vowel is written by one character or by several, and
takes up a single column either way. -/
inductive Vowel where
  | e
  | ai

namespace Vowel

def ofChar? (c : Char) : Option Vowel :=
  if c.toNat = 0x16D67 then some e else if c.toNat = 0x16D68 then some ai else none

def meet? : Vowel → Char → Option (Int × Option Vowel)
  | e, c =>
    if c.toNat = 0x16D63 || c.toNat = 0x16D69 then some (0, none)
    else if c.toNat = 0x16D67 then some (0, some ai)
    else if c.toNat = 0x16D68 then some (1, some e)
    else none
  | ai, c => if c.toNat = 0x16D63 then some (0, none) else none

end Vowel

end Phrasebook.Text.Width
