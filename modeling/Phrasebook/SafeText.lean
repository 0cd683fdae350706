/-!
# Safe text

A translation may hold markup on purpose, so the tag marks what it gives as text to be emitted
verbatim.
-/
namespace Phrasebook

/-- Text that a host emits verbatim. -/
structure SafeText where
  text : String
  deriving DecidableEq, Repr

namespace SafeText

def size (s : SafeText) : Nat := s.text.utf8ByteSize

def isEmpty (s : SafeText) : Bool := s.text.isEmpty

end SafeText

end Phrasebook
