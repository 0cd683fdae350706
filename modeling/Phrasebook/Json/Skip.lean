import Phrasebook.Json.Scan

/-!
# Skipping JSON values

A value that nobody wants is only checked for its form: numbers may be as great and containers
nest as deep as they like, and the units of unicode escapes need not pair up. The open containers
are kept on a stack, so the depth of a text costs no recursion.
-/
namespace Phrasebook.Json.Skip

inductive Frame where
  | list
  | object
  deriving DecidableEq, Repr

/-- What may come next: a value, or the rest of the innermost open container. -/
inductive Awaited where
  | value
  | rest (afterItem : Bool)
  deriving DecidableEq, Repr

def string (s : List Char) : Except Fault (List Char) :=
  match s with
  | [] => .error (.before [] .unfinishedString)
  | '"' :: rest => .ok rest
  | '\\' :: [] => .error (.before [] .unfinishedString)
  | '\\' :: 'u' :: rest =>
    match escape : fourHexDigits rest with
    | .error fault => .error fault
    | .ok (_, behind) =>
      have : behind.length < rest.length := fourHexDigits_length escape
      string behind
  | '\\' :: c :: rest =>
    if (shortEscape? c).isSome then string rest else .error (.on (c :: rest) .invalidEscape)
  | c :: rest =>
    if c.toNat < 0x20 then .error (.before (c :: rest) .controlCharacter) else string rest
termination_by s.length

def digits (s : List Char) : Except Fault (List Char) :=
  if s.head?.any Char.isDigit then .ok (s.dropWhile Char.isDigit)
  else .error (.on s .invalidNumber)

def exponent (s : List Char) : Except Fault (List Char) :=
  match s with
  | [] => .ok []
  | c :: rest =>
    if c = 'e' ∨ c = 'E' then
      match rest with
      | '+' :: behind | '-' :: behind => digits behind
      | other => digits other
    else .ok (c :: rest)

def number (s : List Char) : Except Fault (List Char) :=
  match s.takeWhile Char.isDigit with
  | [] => .error (.on s .invalidNumber)
  | '0' :: _ :: _ => .error (.on (s.drop 1) .invalidNumber)
  | _ =>
    match s.dropWhile Char.isDigit with
    | '.' :: rest => do exponent (← digits rest)
    | rest => exponent rest

def name (s : List Char) : Except Fault (List Char) :=
  match skipSpace s with
  | [] => .error (.before [] .unfinishedObject)
  | '"' :: rest => do colon (← string rest)
  | other => .error (.on other .keyNotString)

/-- The progress of skipping: what is awaited, the open containers, and what is left. It is done
when nothing is open and nothing awaited but the rest of a container. -/
structure State where
  awaited : Awaited
  frames : List Frame
  left : List Char

/-- What is awaited inside a container in which an item begins. -/
def beginItem (frame : Frame) (frames : List Frame) (s : List Char) : Except Fault State :=
  match frame with
  | .list => .ok ⟨.value, frame :: frames, s⟩
  | .object => return ⟨.value, frame :: frames, ← name s⟩

/-- Goes on where a value is awaited. -/
def stepValue (frames : List Frame) (s : List Char) : Except Fault State :=
  let done (left : List Char) : State := ⟨.rest true, frames, left⟩
  match skipSpace s with
  | [] => .error (.before [] .unfinishedValue)
  | 'n' :: rest => return done (← word ['u', 'l', 'l'] rest)
  | 't' :: rest => return done (← word ['r', 'u', 'e'] rest)
  | 'f' :: rest => return done (← word ['a', 'l', 's', 'e'] rest)
  | '-' :: rest => return done (← number rest)
  | '"' :: rest => return done (← string rest)
  | '[' :: rest => .ok ⟨.rest false, .list :: frames, rest⟩
  | '\x7b' :: rest => .ok ⟨.rest false, .object :: frames, rest⟩
  | c :: rest =>
    if c.isDigit then return done (← number (c :: rest))
    else .error (.on (c :: rest) .noValue)

/-- Goes on inside a container, in front of its first item or behind one. -/
def stepRest (afterItem : Bool) (frame : Frame) (frames : List Frame) (s : List Char) :
    Except Fault State :=
  match skipSpace s, frame with
  | [], .list => .error (.before [] .unfinishedList)
  | [], .object => .error (.before [] .unfinishedObject)
  | ']' :: rest, .list => .ok ⟨.rest true, frames, rest⟩
  | '\x7d' :: rest, .object => .ok ⟨.rest true, frames, rest⟩
  | c :: rest, frame =>
    if !afterItem then beginItem frame frames (c :: rest)
    else if c = ',' then beginItem frame frames rest
    else
      match frame with
      | .list => .error (.on (c :: rest) .noCommaOrBracket)
      | .object => .error (.on (c :: rest) .noCommaOrBrace)

/-- Goes on until nothing is open, in at most `bound` steps. Each step takes a character. -/
def run : (bound : Nat) → State → Except Fault (List Char)
  | 0, state => .error (.on state.left .unfinishedValue)
  | bound + 1, state =>
    match state.awaited, state.frames with
    | .value, frames => do run bound (← stepValue frames state.left)
    | .rest _, [] => .ok state.left
    | .rest afterItem, frame :: frames => do
      run bound (← stepRest afterItem frame frames state.left)

def value (s : List Char) : Except Fault (List Char) :=
  run (2 * s.length + 2) ⟨.value, [], s⟩

end Phrasebook.Json.Skip
