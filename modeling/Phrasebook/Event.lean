import Phrasebook.Template.Parser

/-!
# Events

What goes on unnoticed in an answer is reported as an event: texts and keys that the catalog could
not take as written, and calls and placeholders that lack something. Operations give the list of
their events in the order in which these happen.
-/
namespace Phrasebook

/-- An event worth a warning. -/
inductive Event where
  | malformedText (text : String) (fault : Template.Malformed)
  | repeatedKey (key : String)
  | missingParameter (path : String)
  | noBody (lastArgument : String)
  | noArguments
  | parametersNotMap (shown : String)
  deriving DecidableEq, Repr

namespace Event

def message : Event → String
  | malformedText .. => "malformed interpolation, keeping it as literal text"
  | repeatedKey _ => "duplicate catalog key, keeping the first definition"
  | missingParameter _ => "missing interpolation parameter"
  | noBody _ => "trans call without a body producer, using empty key"
  | noArguments => "trans call without arguments, using empty key"
  | parametersNotMap _ => "trans parameters are not an object, ignoring"

def details : Event → List (String × String)
  | malformedText text fault => [("text", text), ("error", fault.message)]
  | repeatedKey key => [("key", key)]
  | missingParameter path => [("placeholder", path)]
  | noBody lastArgument => [("arg", lastArgument)]
  | noArguments => []
  | parametersNotMap shown => [("params", shown)]

end Event

end Phrasebook
