import Phrasebook.Json.Fault

/-!
# The tokens of JSON

Each reader takes the characters that are left of a text and gives what it read together with the
characters behind it. Blanks, words, strings, and the marks between the parts of arrays and
objects are read here; numbers stand in a module of their own.
-/
namespace Phrasebook.Json

/-- Reads a value from the front of what is left of a text. -/
abbrev Reader (α : Type) := List Char → Except Fault (α × List Char)

def isSpace (c : Char) : Bool :=
  c == ' ' || c == '\n' || c == '\t' || c == '\r'

def skipSpace (s : List Char) : List Char :=
  s.dropWhile isSpace

/-- Reads the letters left of one of the words `null`, `true` and `false`. -/
def word : List Char → List Char → Except Fault (List Char)
  | [], s => .ok s
  | _ :: _, [] => .error (.before [] .unfinishedValue)
  | letter :: letters, c :: s =>
    if c = letter then word letters s else .error (.on (c :: s) .brokenWord)

def hexDigit? (c : Char) : Option Nat :=
  if '0' ≤ c ∧ c ≤ '9' then some (c.toNat - '0'.toNat)
  else if 'a' ≤ c ∧ c ≤ 'f' then some (c.toNat - 'a'.toNat + 10)
  else if 'A' ≤ c ∧ c ≤ 'F' then some (c.toNat - 'A'.toNat + 10)
  else none

/-- The four digits of a unicode escape. They take up four bytes, so a text with fewer bytes left
ends too early and anything else in those bytes is an invalid escape. -/
def fourHexDigits (s : List Char) : Except Fault (Nat × List Char) :=
  if Text.byteLength (s.take 4) < 4 then .error (.before [] .unfinishedString)
  else
    match s with
    | a :: b :: c :: d :: rest =>
      match hexDigit? a, hexDigit? b, hexDigit? c, hexDigit? d with
      | some a, some b, some c, some d => .ok (((a * 16 + b) * 16 + c) * 16 + d, rest)
      | _, _, _, _ => .error ⟨.invalidEscape, Text.byteLength s - 4⟩
    | _ => .error ⟨.invalidEscape, Text.byteLength s - 4⟩

/-- Whether a code unit opens a surrogate pair. -/
def isLeading (unit : Nat) : Bool :=
  0xD800 ≤ unit && unit ≤ 0xDBFF

/-- Whether a code unit closes a surrogate pair. -/
def isTrailing (unit : Nat) : Bool :=
  0xDC00 ≤ unit && unit ≤ 0xDFFF

/-- The second escape of a surrogate pair, read from behind the first. -/
def trailingEscape (s : List Char) : Except Fault (Nat × List Char) :=
  match s with
  | [] => .error (.before [] .unfinishedString)
  | '\\' :: [] => .error (.before [] .unfinishedString)
  | '\\' :: 'u' :: digits =>
    match fourHexDigits digits with
    | .error fault => .error fault
    | .ok (unit, rest) =>
      if isTrailing unit then .ok (unit, rest) else .error (.before rest .loneSurrogate)
  | '\\' :: other => .error (.on other .unfinishedPair)
  | other => .error (.on other .unfinishedPair)

/-- The character beyond the first plane that a surrogate pair stands for. -/
def pairedChar (leading trailing : Nat) : Char :=
  Char.ofNat (0x10000 + (leading - 0xD800) * 0x400 + (trailing - 0xDC00))

/-- The character of a unicode escape, read from behind its `\u`. A leading surrogate needs a
second escape with the trailing one. -/
def unicodeEscape (s : List Char) : Except Fault (Char × List Char) :=
  match fourHexDigits s with
  | .error fault => .error fault
  | .ok (unit, rest) =>
    if isTrailing unit then .error (.before rest .loneSurrogate)
    else if isLeading unit then
      match trailingEscape rest with
      | .error fault => .error fault
      | .ok (trailing, rest) => .ok (pairedChar unit trailing, rest)
    else .ok (Char.ofNat unit, rest)

/-- The character that a letter behind a backslash stands for. -/
def shortEscape? (c : Char) : Option Char :=
  if c = '"' ∨ c = '\\' ∨ c = '/' then some c
  else if c = 'b' then some (Char.ofNat 0x08)
  else if c = 'f' then some (Char.ofNat 0x0C)
  else if c = 'n' then some '\n'
  else if c = 'r' then some '\r'
  else if c = 't' then some '\t'
  else none

theorem fourHexDigits_length {s rest : List Char} {unit : Nat}
    (success : fourHexDigits s = .ok (unit, rest)) : rest.length < s.length := by
  simp only [fourHexDigits] at success
  split at success
  · cases success
  · split at success
    · split at success
      · cases success; simp only [List.length_cons]; omega
      · cases success
    · cases success

theorem trailingEscape_length {s rest : List Char} {unit : Nat}
    (success : trailingEscape s = .ok (unit, rest)) : rest.length < s.length := by
  unfold trailingEscape at success
  split at success
  · cases success
  · cases success
  · split at success
    · cases success
    · rename_i found
      have shorter := fourHexDigits_length found
      split at success
      · cases success
        simp only [List.length_cons]
        omega
      · cases success
  · cases success
  · cases success

theorem unicodeEscape_length {s rest : List Char} {c : Char}
    (success : unicodeEscape s = .ok (c, rest)) : rest.length < s.length := by
  unfold unicodeEscape at success
  split at success
  · cases success
  · rename_i found
    have shorter := fourHexDigits_length found
    split at success
    · cases success
    · split at success
      · split at success
        · cases success
        · rename_i second
          have shorterSecond := trailingEscape_length second
          simp only [Except.ok.injEq, Prod.mk.injEq] at success
          rw [← success.2]
          omega
      · simp only [Except.ok.injEq, Prod.mk.injEq] at success
        rw [← success.2]
        exact shorter

/-- The characters of a string, read from behind its opening quote to behind the closing one. -/
def stringChars (s : List Char) : Except Fault (List Char × List Char) :=
  match s with
  | [] => .error (.before [] .unfinishedString)
  | '"' :: rest => .ok ([], rest)
  | '\\' :: [] => .error (.before [] .unfinishedString)
  | '\\' :: 'u' :: rest =>
    match escape : unicodeEscape rest with
    | .error fault => .error fault
    | .ok (c, behind) =>
      have : behind.length < rest.length := unicodeEscape_length escape
      (stringChars behind).map fun (chars, rest) => (c :: chars, rest)
  | '\\' :: c :: rest =>
    match shortEscape? c with
    | none => .error (.on (c :: rest) .invalidEscape)
    | some meant => (stringChars rest).map fun (chars, rest) => (meant :: chars, rest)
  | c :: rest =>
    if c.toNat < 0x20 then .error (.before rest .controlCharacter)
    else (stringChars rest).map fun (chars, rest) => (c :: chars, rest)
termination_by s.length

def stringBody (s : List Char) : Except Fault (String × List Char) :=
  (stringChars s).map fun (chars, rest) => (String.ofList chars, rest)

/-- Whether an array goes on: then what is left begins with an item, else it stands behind the
closing bracket. `first` says that no item has been read. -/
def nextItem (first : Bool) (s : List Char) : Except Fault (Bool × List Char) :=
  match skipSpace s with
  | [] => .error (.before [] .unfinishedList)
  | ']' :: rest => .ok (false, rest)
  | c :: rest =>
    if first then .ok (true, c :: rest)
    else if c = ',' then
      match skipSpace rest with
      | [] => .error (.before [] .unfinishedValue)
      | ']' :: behind => .error (.on (']' :: behind) .trailingComma)
      | item => .ok (true, item)
    else .error (.on (c :: rest) .noCommaOrBracket)

/-- The name of the next member of an object, or none behind the closing brace. `first` says that
no member has been read. -/
def nextKey (first : Bool) (s : List Char) : Except Fault (Option String × List Char) :=
  let key : List Char → Except Fault (Option String × List Char)
    | '"' :: rest => (stringBody rest).map fun (name, rest) => (some name, rest)
    | other => .error (.on other .keyNotString)
  match skipSpace s with
  | [] => .error (.before [] .unfinishedObject)
  | '\x7d' :: rest => .ok (none, rest)
  | c :: rest =>
    if first then key (c :: rest)
    else if c = ',' then
      match skipSpace rest with
      | [] => .error (.before [] .unfinishedValue)
      | '\x7d' :: behind => .error (.on ('\x7d' :: behind) .trailingComma)
      | name => key name
    else .error (.on (c :: rest) .noCommaOrBrace)

def colon (s : List Char) : Except Fault (List Char) :=
  match skipSpace s with
  | [] => .error (.before [] .unfinishedObject)
  | ':' :: rest => .ok rest
  | other => .error (.on other .noColon)

end Phrasebook.Json
