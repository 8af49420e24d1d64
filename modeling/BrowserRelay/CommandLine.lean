import BrowserRelay.Config.Load
import BrowserRelay.Failure

/-!
# The command line

Options are spelled with two dashes and take their value from the next argument or
from behind an equals sign; each may be given once.  Nothing but options is
accepted.
-/

namespace BrowserRelay.CommandLine

/-- What the command line asks for. -/
inductive Request where
  | serve (overrides : Overrides)
  | showVersion
  | showHelp
  deriving DecidableEq

/-- Why a command line makes no sense. -/
inductive Fault where
  | unexpectedArgument (argument : String)
  | missingValue (option : String)
  | unexpectedValue (option : String)
  | repeated (option : String)
  deriving DecidableEq

/-- The wording of a fault. -/
def Fault.message : Fault → String
  | unexpectedArgument argument => "unexpected argument '" ++ argument ++ "' found"
  | missingValue option => "a value is required for '--" ++ option ++ "' but none was supplied"
  | unexpectedValue option => "unexpected value for '--" ++ option ++ "' found"
  | repeated option => "the argument '--" ++ option ++ "' cannot be used multiple times"

/-- The options that take a value. -/
inductive ValueOption where
  | config
  | workingDirectory
  | browser
  | outputDirectory
  | logFile
  | actionLog
  deriving DecidableEq

namespace ValueOption

def all : List ValueOption :=
  [config, workingDirectory, browser, outputDirectory, logFile, actionLog]

def name : ValueOption → String
  | config => "config"
  | workingDirectory => "working-dir"
  | browser => "browser"
  | outputDirectory => "output-dir"
  | logFile => "log-file"
  | actionLog => "action-log"

/-- Whether the value of an option may be empty.  A path may not. -/
def allowsEmpty : ValueOption → Bool
  | browser => true
  | _ => false

def given (overrides : Overrides) : ValueOption → Option String
  | config => overrides.configPath
  | workingDirectory => overrides.workingDirectory
  | browser => overrides.browser
  | outputDirectory => overrides.outputDirectory
  | logFile => overrides.logFile
  | actionLog => overrides.actionLog

def give (overrides : Overrides) (value : String) : ValueOption → Overrides
  | config => { overrides with configPath := some value }
  | workingDirectory => { overrides with workingDirectory := some value }
  | browser => { overrides with browser := some value }
  | outputDirectory => { overrides with outputDirectory := some value }
  | logFile => { overrides with logFile := some value }
  | actionLog => { overrides with actionLog := some value }

/-- Accept a value unless the option has one or the value must not be empty. -/
def accept (option : ValueOption) (overrides : Overrides) (value : String) :
    Except Fault Overrides :=
  if (option.given overrides).isSome then .error (.repeated option.name)
  else if value.isEmpty && !option.allowsEmpty then .error (.missingValue option.name)
  else .ok (option.give overrides value)

end ValueOption

/-- Whether an argument cannot be a value because it looks like an option. -/
def looksLikeOption (argument : String) : Bool :=
  argument.toList.head? = some '-' && argument ≠ "-"

def splitAtEquals (characters : List Char) : String × Option String :=
  let name := String.ofList (characters.takeWhile (· ≠ '='))
  match characters.dropWhile (· ≠ '=') with
  | [] => (name, none)
  | _ :: value => (name, some (String.ofList value))

/-- Read the arguments behind those that were read already. -/
def readFrom (overrides : Overrides) : List String → Except Fault Request
  | [] => .ok (.serve overrides)
  | argument :: rest =>
      match argument.toList with
      | ['-', '-'] =>
          match rest with
          | [] => .ok (.serve overrides)
          | next :: _ => .error (.unexpectedArgument next)
      | '-' :: '-' :: spelled =>
          let (name, value?) := splitAtEquals spelled
          match ValueOption.all.find? fun option => option.name = name with
          | some option =>
              match value?, rest with
              | some value, rest =>
                  match option.accept overrides value with
                  | .error fault => .error fault
                  | .ok overrides => readFrom overrides rest
              | none, [] => .error (.missingValue name)
              | none, value :: rest =>
                  if looksLikeOption value then .error (.missingValue name)
                  else
                    match option.accept overrides value with
                    | .error fault => .error fault
                    | .ok overrides => readFrom overrides rest
          | none =>
              match name, value? with
              | "version", none => .ok .showVersion
              | "help", none => .ok .showHelp
              | "no-eager-start", none =>
                  if overrides.noEagerStart then .error (.repeated name)
                  else readFrom { overrides with noEagerStart := true } rest
              | "version", some _ => .error (.unexpectedValue name)
              | "help", some _ => .error (.unexpectedValue name)
              | "no-eager-start", some _ => .error (.unexpectedValue name)
              | _, _ => .error (.unexpectedArgument argument)
      | '-' :: 'V' :: _ => .ok .showVersion
      | '-' :: 'h' :: _ => .ok .showHelp
      | _ => .error (.unexpectedArgument argument)

/-- Read the arguments of the command line, without the name of the program. -/
def read (arguments : List String) : Except Failure Request :=
  match readFrom {} arguments with
  | .error fault => .error (.commandLine fault.message)
  | .ok request => .ok request

def versionText : String := "scriptgen 0.1.0\n"

def helpText : String :=
  "Supervising stdio proxy for a browser-automation service that records actions into " ++
    "replay scripts\n\nUsage: scriptgen [OPTIONS]\n\nOptions:\n" ++
    "      --config <CONFIG>\n      --working-dir <WORKING_DIR>\n" ++
    "      --browser <BROWSER>          Browser passed to the service as `--browser`; " ++
    "empty disables the flag\n" ++
    "      --output-dir <OUTPUT_DIR>\n      --log-file <LOG_FILE>\n" ++
    "      --action-log <ACTION_LOG>\n" ++
    "      --no-eager-start             Start the service on the first request instead of " ++
    "at boot\n  -h, --help                       Print help\n" ++
    "  -V, --version                    Print version\n"

end BrowserRelay.CommandLine
