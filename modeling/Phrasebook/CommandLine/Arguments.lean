import Phrasebook.Text.Cut

/-!
# Command lines

A command line names one of three commands. Options stand in any order among the other arguments,
with values behind them or attached, and single letters may share a dash. Two dashes end the
options. A value that stands behind its option is checked when the next option is met or the
arguments end; everything else is checked where it stands, and the first thing wrong ends the
reading. So do the options for help and the version, unless something before them is wrong.
-/
namespace Phrasebook.CommandLine

/-- What the program is asked to do. -/
inductive Command where
  | check (files : List String) (strict json : Bool)
  | coverage (config : String) (locales : List String) (strict json : Bool)
  | eval (config : String) (locale? : Option String) (key : String)
      (params : List (String × String)) (strict json : Bool)
  deriving DecidableEq, Repr

inductive Flag where
  | color
  | verbose
  | help
  | version
  | config
  | locale
  | param
  | strict
  | json
  deriving DecidableEq, Repr

/-- Why a command line is refused. -/
inductive UsageError where
  | noCommand
  | unknownCommand (name : String)
  | unknownFlag (text : String)
  | missingValue (flag : Flag)
  | unwantedValue (flag : Flag)
  | invalidValue (flag : Flag) (value : String)
  | repeated (flag : Flag)
  | unexpected (argument : String)
  | emptyPath
  | missing (argument : String)
  deriving DecidableEq, Repr

inductive Stop where
  | usage (error : UsageError)
  | help
  | version
  deriving DecidableEq, Repr

namespace Flag

/-- The name behind two dashes. -/
def long : Flag → String
  | color => "color"
  | verbose => "verbose"
  | help => "help"
  | version => "version"
  | config => "config"
  | locale => "locale"
  | param => "param"
  | strict => "strict"
  | json => "json"

/-- The letter behind one dash. -/
def letter? : Flag → Option Char
  | verbose => some 'v'
  | help => some 'h'
  | version => some 'V'
  | config => some 'c'
  | param => some 'p'
  | _ => none

def takesValue : Flag → Bool
  | color | config | locale | param => true
  | _ => false

def allows : Flag → String → Bool
  | color, value => ["auto", "always", "never"].contains value
  | config, value => value ≠ ""
  | param, value => value.contains '='
  | _, _ => true

end Flag

namespace UsageError

def message : UsageError → String
  | noCommand => "a command is required: check, coverage, eval or help"
  | unknownCommand name => s!"unrecognized command '{name}'"
  | unknownFlag text => s!"unexpected option '{text}'"
  | missingValue flag => s!"a value is required for '--{flag.long}'"
  | unwantedValue flag => s!"no value is accepted for '--{flag.long}'"
  | invalidValue flag value => s!"invalid value '{value}' for '--{flag.long}'"
  | repeated flag => s!"'--{flag.long}' cannot be used multiple times"
  | unexpected argument => s!"unexpected argument '{argument}'"
  | emptyPath => "a file name must not be empty"
  | missing argument => s!"a required argument is missing: {argument}"

end UsageError

/-- The parts of a command line: in front of the command's name, and behind each name. -/
inductive Level where
  | top
  | check
  | coverage
  | eval
  deriving DecidableEq, Repr

namespace Level

def flags : Level → List Flag
  | top => [.color, .verbose, .help, .version]
  | check => [.color, .verbose, .help, .strict, .json]
  | coverage => [.color, .verbose, .help, .config, .locale, .strict, .json]
  | eval => [.color, .verbose, .help, .config, .locale, .param, .strict, .json]

def repeats : Level → Flag → Bool
  | _, .param => true
  | coverage, .locale => true
  | _, _ => false

def flagOfName? (level : Level) (name : String) : Option Flag :=
  level.flags.find? (·.long == name)

def flagOfLetter? (level : Level) (letter : Char) : Option Flag :=
  level.flags.find? (·.letter? == some letter)

def ofName? : String → Option Level
  | "check" => some check
  | "coverage" => some coverage
  | "eval" => some eval
  | _ => none

end Level

/-- What a level has read: the options with their values, the one whose value is not checked yet
or still to come, and the other arguments. -/
structure Parsed where
  options : List (Flag × String) := []
  pending? : Option (Flag × Option String) := none
  operands : List String := []

namespace Parsed

def has (p : Parsed) (flag : Flag) : Bool :=
  p.options.any fun option => option.1 == flag

def values (p : Parsed) (flag : Flag) : List String :=
  (p.options.filter fun option => option.1 == flag).map Prod.snd

/-- Takes in an option; one without a value has the empty one. -/
def take (p : Parsed) (level : Level) (flag : Flag) (value : String) : Except Stop Parsed :=
  if p.has flag && !level.repeats flag then .error (.usage (.repeated flag))
  else if flag.allows value then .ok { p with options := p.options ++ [(flag, value)] }
  else .error (.usage (.invalidValue flag value))

def settle (p : Parsed) (level : Level) : Except Stop Parsed :=
  match p.pending? with
  | none => .ok p
  | some (flag, none) => .error (.usage (.missingValue flag))
  | some (flag, some value) => { p with pending? := none }.take level flag value

/-- An option that has no value, or ends the reading. -/
def switch (p : Parsed) (level : Level) (flag : Flag) : Except Stop Parsed := do
  let p ← p.settle level
  match flag with
  | .help => throw .help
  | .version => throw .version
  | _ => p.take level flag ""

/-- An option with an attached value, or one whose value is to come. -/
def valued (p : Parsed) (level : Level) (flag : Flag) (attached? : Option String) :
    Except Stop Parsed := do
  let p ← p.settle level
  match attached? with
  | some value => p.take level flag value
  | none => return { p with pending? := some (flag, none) }

/-- An argument that begins with two dashes, given without them. -/
def longArgument (p : Parsed) (level : Level) (text : String) : Except Stop Parsed :=
  let (name, attached?) : String × Option String :=
    match Text.cut (· = '=') text with
    | some (name, value) => (name, some value)
    | none => (text, none)
  match level.flagOfName? name with
  | none => .error (.usage (.unknownFlag ("--" ++ name)))
  | some flag =>
    if flag.takesValue then p.valued level flag attached?
    else if attached?.isSome then .error (.usage (.unwantedValue flag))
    else p.switch level flag

/-- Letters behind one dash. A letter whose option has a value takes the rest as that value, with
or without an equals sign in front. -/
def letters (level : Level) : List Char → Parsed → Except Stop Parsed
  | [], p => .ok p
  | letter :: rest, p =>
    match level.flagOfLetter? letter with
    | none => .error (.usage (.unknownFlag ("-" ++ String.singleton letter)))
    | some flag =>
      if flag.takesValue then
        match rest with
        | [] => p.valued level flag none
        | '=' :: value => p.valued level flag (some (String.ofList value))
        | value => p.valued level flag (some (String.ofList value))
      else do letters level rest (← p.switch level flag)

def operand (p : Parsed) (level : Level) (argument : String) : Except Stop Parsed := do
  let p ← p.settle level
  let room :=
    match level with
    | .check => true
    | .eval => p.operands.isEmpty
    | _ => false
  if !room then throw (.usage (.unexpected argument))
  if level = .check && argument = "" then throw (.usage .emptyPath)
  return { p with operands := p.operands ++ [argument] }

def awaiting? (p : Parsed) : Option Flag :=
  match p.pending? with
  | some (flag, none) => some flag
  | _ => none

end Parsed

/-- Reads the arguments behind a command's name. -/
def readLevel (level : Level) : List String → Parsed → Except Stop Parsed
  | [], p => p.settle level
  | argument :: rest, p =>
    match argument.toList with
    | ['-', '-'] => do rest.foldlM (·.operand level ·) (← p.settle level)
    | '-' :: '-' :: name => do readLevel level rest (← p.longArgument level (String.ofList name))
    | '-' :: letter :: more => do readLevel level rest (← Parsed.letters level (letter :: more) p)
    | _ =>
      match p.awaiting? with
      | some flag => readLevel level rest { p with pending? := some (flag, some argument) }
      | none => do readLevel level rest (← p.operand level argument)

/-- Reads the arguments up to the command's name; gives that name, or none, and what follows. -/
def readTop : List String → Parsed → Except Stop (Option (String × List String) × Parsed)
  | [], p => return (none, ← p.settle .top)
  | argument :: rest, p =>
    match argument.toList with
    | ['-', '-'] => return (none, ← p.settle .top)
    | '-' :: '-' :: name => do readTop rest (← p.longArgument .top (String.ofList name))
    | '-' :: letter :: more => do readTop rest (← Parsed.letters .top (letter :: more) p)
    | _ =>
      match p.awaiting? with
      | some flag => readTop rest { p with pending? := some (flag, some argument) }
      | none => return (some (argument, rest), p)

/-- The configuration file: the one named by its option, or else by the environment. -/
def configFile (p : Parsed) (environment? : Option String) : Except Stop String :=
  match p.values .config, environment? with
  | path :: _, _ => .ok path
  | [], some path =>
    if path = "" then .error (.usage (.invalidValue .config path)) else .ok path
  | [], none => .error (.usage (.missing "--config"))

/-- The name and the value of a parameter, which its first equals sign separates. -/
def nameAndValue (text : String) : String × String :=
  (Text.cut (· = '=') text).getD (text, "")

def Command.ofParsed (level : Level) (p : Parsed) (environment? : Option String) :
    Except Stop Command := do
  let strict := p.has .strict
  let json := p.has .json
  match level, p.operands with
  | .check, [] => throw (.usage (.missing "files"))
  | .check, files => return .check files strict json
  | .eval, key :: _ =>
    return .eval (← configFile p environment?) (p.values .locale).head? key
      ((p.values .param).map nameAndValue) strict json
  | .eval, [] => throw (.usage (.missing "key"))
  | .coverage, _ =>
    return .coverage (← configFile p environment?)
      ((p.values .locale).flatMap (Text.pieces ',')) strict json
  | .top, _ => throw (.usage .noCommand)

def helpCommand : List String → Stop
  | [] => .help
  | [name] =>
    if (Level.ofName? name).isSome || name = "help" then .help
    else .usage (.unknownCommand name)
  | _ :: name :: _ => .usage (.unknownCommand name)

/-- Reads a command line, given the configuration file that the environment names. -/
def Command.ofArguments (environment? : Option String) (arguments : List String) :
    Except Stop Command := do
  match ← readTop arguments {} with
  | (none, _) => throw (.usage .noCommand)
  | (some (name, rest), top) =>
    if name = "help" then throw (helpCommand rest)
    match Level.ofName? name with
    | none => throw (.usage (.unknownCommand name))
    | some level =>
      let command ← Command.ofParsed level (← readLevel level rest {}) environment?
      let _ ← top.settle .top
      return command

end Phrasebook.CommandLine
