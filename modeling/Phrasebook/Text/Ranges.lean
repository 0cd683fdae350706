/-!
# Ranges of characters

Properties of characters are given by the ranges of code points that have them. What is printable
is taken from version 17 of the Unicode character data, widths and emoji from version 18.
-/
namespace Phrasebook.Text

/-- Whether a character lies in one of the ranges, which are given by their first and last code
points. -/
def inRanges (ranges : List (Nat × Nat)) (c : Char) : Bool :=
  ranges.any fun range => range.1 ≤ c.toNat && c.toNat ≤ range.2

end Phrasebook.Text
