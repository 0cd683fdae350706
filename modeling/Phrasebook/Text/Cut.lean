/-!
# Cutting texts at a separator

A text is cut once, at the first separating character, or at every one of them. The separators
belong to no piece.
-/
namespace Phrasebook.Text

/-- What stands before and behind the first character of `s` that satisfies `p`; `none` when no
character does. -/
def cutChars (p : Char → Bool) (s : List Char) : Option (List Char × List Char) :=
  match s.dropWhile (!p ·) with
  | [] => none
  | _ :: behind => some (s.takeWhile (!p ·), behind)

/-- The two parts of a text around its first character that satisfies `p`. -/
def cut (p : Char → Bool) (s : String) : Option (String × String) :=
  (cutChars p s.toList).map fun parts => (String.ofList parts.1, String.ofList parts.2)

/-- All pieces of a text between the characters equal to `separator`, empty ones included. -/
def pieces (separator : Char) (s : String) : List String :=
  (s.toList.splitOn separator).map String.ofList

end Phrasebook.Text
