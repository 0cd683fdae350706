import Phrasebook.CommandLine.Arguments
import Phrasebook.CommandLine.Check
import Phrasebook.CommandLine.Coverage
import Phrasebook.CommandLine.Eval

/-!
# Running a command line

A command line gives a report. Files come in as a function from paths, so a run is a value.
-/
namespace Phrasebook.CommandLine

def versionText : String := "i18n-tag 0.1.0\n"

def helpText : String :=
  "Translation configuration tools for the trans tag\n\n" ++
  "Usage: i18n-tag [--color auto|always|never] [-v] COMMAND\n\n" ++
  "Commands:\n" ++
  "  check     Validate configuration files and every text in them\n" ++
  "  coverage  Report translation coverage against the default locale\n" ++
  "  eval      Translate a key\n" ++
  "  help      Print this message\n"

def configVariable : String := "I18N_TAG_CONFIG"

def Command.paths : Command → List String
  | check files .. => files
  | coverage config .. => [config]
  | eval config .. => [config]

/-- The report on a configuration that must be loaded first. -/
def withConfig (files : Files) (path : String) (report : Config → Report) : Report :=
  match loadConfig files path with
  | .ok config => report config
  | .error error => ⟨.failure, "", [loadErrorNotice error]⟩

def Command.report (files : Files) : Command → Report
  | check paths strict json => Check.report files paths strict json
  | coverage path locales strict json =>
    withConfig files path fun config => Coverage.report config locales strict json
  | eval path locale? key params strict json =>
    withConfig files path fun config => Eval.report config locale? key params strict json

def Stop.report : Stop → Report
  | usage error => ⟨.usage, "", [.failure error.message]⟩
  | help => ⟨.success, helpText, []⟩
  | version => ⟨.success, versionText, []⟩

/-- Runs a command line, given the configuration file that the environment names. -/
def run (files : Files) (environment? : Option String) (arguments : List String) : Report :=
  match Command.ofArguments environment? arguments with
  | .ok command => command.report files
  | .error stop => stop.report

end Phrasebook.CommandLine
