import Phrasebook.CommandLine.Run

/-!
# The program

Reads the files that the command line names, runs it and prints its report.
-/
namespace Phrasebook

def readFailure : IO.Error → String
  | .noFileOrDirectory .. => "No such file or directory (os error 2)"
  | .permissionDenied _ code _ => s!"Permission denied (os error {code})"
  | .inappropriateType _ code _ => s!"Is a directory (os error {code})"
  | error => toString error

def readText (path : String) : IO (Except String String) := do
  try
    match String.fromUTF8? (← IO.FS.readBinFile path) with
    | some text => return .ok text
    | none => return .error "stream did not contain valid UTF-8"
  catch error => return .error (readFailure error)

/-- The files of some paths, read once each. -/
def readFiles (paths : List String) : IO CommandLine.Files := do
  let found ← paths.mapM fun path => return (path, ← readText path)
  return fun path => (found.lookup path).getD (.error "No such file or directory (os error 2)")

end Phrasebook

open Phrasebook CommandLine in
def main (arguments : List String) : IO UInt32 := do
  let environment? ← IO.getEnv configVariable
  let report ←
    match Command.ofArguments environment? arguments with
    | .ok command => pure (command.report (← readFiles command.paths))
    | .error stop => pure stop.report
  IO.print report.output
  IO.eprint report.errors
  return UInt32.ofNat report.exit.code
