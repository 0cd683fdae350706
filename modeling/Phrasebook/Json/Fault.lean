import Phrasebook.Json.Basic
import Phrasebook.Text.Place
import Phrasebook.Text.Quoted

/-!
# Faults of JSON texts

A fault is a cause and the number of bytes behind the place where reading stopped, so a reader
that knows only what is left of a text can report one. With the whole text the place is a line and
the number of bytes read on it.
-/
namespace Phrasebook.Json

open Text

/-- A value as it is named where another was wanted. -/
inductive Found where
  | null
  | boolean (b : Bool)
  | number (n : Number)
  | string (s : String)
  | sequence
  | map
  deriving DecidableEq, Repr

/-- Why a text cannot be read. -/
inductive Cause where
  | unfinishedValue
  | unfinishedList
  | unfinishedObject
  | unfinishedString
  | noValue
  | brokenWord
  | noColon
  | noCommaOrBrace
  | noCommaOrBracket
  | keyNotString
  | trailingComma
  | trailingCharacters
  | invalidEscape
  | invalidNumber
  | numberOutOfRange
  | controlCharacter
  | unfinishedPair
  | loneSurrogate
  | tooDeep
  | wrongType (found : Found) (expected : String)
  | repeatedField (name : String)
  | noAlternative (choice : String)
  deriving DecidableEq, Repr

/-- Causes by kind: the text is not JSON, it ends too early, or it is JSON of the wrong shape. -/
inductive Category where
  | malformed
  | cutShort
  | mismatched
  deriving DecidableEq, Repr

def Found.describe : Found → String
  | null => "null"
  | boolean b => s!"boolean `{b}`"
  | number (.integer n) => s!"integer `{String.ofList (writeInteger n)}`"
  | number (.float x) => s!"floating point `{String.ofList (floatLayout.write x)}`"
  | string s => s!"string {quoted s}"
  | sequence => "sequence"
  | map => "map"

namespace Cause

def category : Cause → Category
  | unfinishedValue | unfinishedList | unfinishedObject | unfinishedString => .cutShort
  | wrongType .. | repeatedField _ | noAlternative _ => .mismatched
  | _ => .malformed

def message : Cause → String
  | unfinishedValue => "EOF while parsing a value"
  | unfinishedList => "EOF while parsing a list"
  | unfinishedObject => "EOF while parsing an object"
  | unfinishedString => "EOF while parsing a string"
  | noValue => "expected value"
  | brokenWord => "expected ident"
  | noColon => "expected `:`"
  | noCommaOrBrace => "expected `,` or `\x7d`"
  | noCommaOrBracket => "expected `,` or `]`"
  | keyNotString => "key must be a string"
  | trailingComma => "trailing comma"
  | trailingCharacters => "trailing characters"
  | invalidEscape => "invalid escape"
  | invalidNumber => "invalid number"
  | numberOutOfRange => "number out of range"
  | controlCharacter => "control character (\\u0000-\\u001F) found while parsing a string"
  | unfinishedPair => "unexpected end of hex escape"
  | loneSurrogate => "lone leading surrogate in hex escape"
  | tooDeep => "recursion limit exceeded"
  | wrongType found expected => s!"invalid type: {found.describe}, expected {expected}"
  | repeatedField name => s!"duplicate field `{name}`"
  | noAlternative choice => s!"data did not match any variant of untagged enum {choice}"

end Cause

/-- A cause and the number of bytes behind the place that it names. -/
structure Fault where
  cause : Cause
  unread : Nat
  deriving DecidableEq, Repr

namespace Fault

/-- A fault noticed in front of `rest`. -/
def before (rest : List Char) (cause : Cause) : Fault :=
  ⟨cause, byteLength rest⟩

/-- A fault of the next byte of `rest`; at the end of the text there is none to step over. -/
def on (rest : List Char) (cause : Cause) : Fault :=
  ⟨cause, byteLength rest - 1⟩

/-- The line of a fault, counted from one, and the number of bytes read on that line. -/
def place (fault : Fault) (text : String) : Place :=
  let behind := Place.ofOffset text.toList (text.utf8ByteSize - fault.unread)
  ⟨behind.line, behind.column - 1⟩

def message (fault : Fault) (text : String) : String :=
  let place := fault.place text
  s!"{fault.cause.message} at line {place.line} column {place.column}"

end Fault

end Phrasebook.Json
