/-!
# Text inside markup

The characters that are significant in markup are replaced by entities, one by one.
-/
namespace Phrasebook.Markup

def escapeChar (c : Char) : List Char :=
  if c = '&' then "&amp;".toList
  else if c = '<' then "&lt;".toList
  else if c = '>' then "&gt;".toList
  else if c = '"' then "&quot;".toList
  else if c = '\'' then "&#39;".toList
  else if c = '/' then "&#x2F;".toList
  else [c]

def escape (s : String) : String :=
  String.ofList (s.toList.flatMap escapeChar)

end Phrasebook.Markup
