import Phrasebook.Config.Reader

/-!
# Reports of a command

A command ends with an exit code, what it prints, and notices for the reader of its error output.
A notice about a text points at the place of what is wrong in it.
-/
namespace Phrasebook.CommandLine

open Text

inductive Exit where
  | success
  | usage
  | badData
  | failure
  deriving DecidableEq, Repr

def Exit.code : Exit → Nat
  | success => 0
  | usage => 2
  | badData => 65
  | failure => 70

/-- A line of the error output, or a text with the place of what is wrong in it. -/
inductive Notice where
  | pointer (source : String) (place : Place) (message : String)
  | failure (message : String)
  | remark (text : String)
  deriving DecidableEq, Repr

namespace Notice

def text : Notice → String
  | pointer source place message =>
    s!"error: {message}\n  at {source}:{place.line}:{place.column}\n"
  | failure message => s!"error: {message}\n"
  | remark text => text ++ "\n"

def location? : Notice → Option String
  | pointer source place _ => some s!"{source}:{place.line}:{place.column}"
  | _ => none

/-- Points at a place of a text. The place goes through its byte offset, which stays inside the
text. -/
def pointAt (source text : String) (place : Place) (message : String) : Notice :=
  .pointer source (Place.shown text.toList (place.offsetIn text.toList)) message

end Notice

structure Report where
  exit : Exit
  output : String
  notices : List Notice

namespace Report

def errors (r : Report) : String :=
  String.join (r.notices.map Notice.text)

def locations (r : Report) : List String :=
  r.notices.filterMap Notice.location?

end Report

/-- Text in colour; the codes are written whatever the output is. -/
def colored (code : String) (text : String) : String :=
  "\x1b[" ++ code ++ "m" ++ text ++ "\x1b[39m"

/-- The word in front of warnings: bold and yellow. -/
def warningLabel : String :=
  "\x1b[1m" ++ colored "33" "warning:" ++ "\x1b[0m"

def warning (text : String) : Notice :=
  .remark (warningLabel ++ " " ++ text)

/-- How files are read: a path gives a text or the reason why there is none. -/
abbrev Files := String → Except String String

def loadConfig (files : Files) (path : String) : Except Config.LoadError Config :=
  match files path with
  | .error reason => .error (.unreadable path reason)
  | .ok text => Config.ofText path text

def loadErrorMessage : Config.LoadError → String
  | .invalid _ text fault => s!"invalid configuration: {fault.message text}"
  | error => error.message

/-- The notice of a load error. Only a text that is no configuration has a place to point at. -/
def loadErrorNotice (error : Config.LoadError) : Notice :=
  match error with
  | .invalid origin text fault =>
    .pointAt origin text (fault.place text) (loadErrorMessage error)
  | _ => .failure (loadErrorMessage error)

end Phrasebook.CommandLine
