import BrowserRelay.Config.Sections
import BrowserRelay.Failure
import BrowserRelay.Files.Path
import BrowserRelay.Files.Store
import BrowserRelay.Relay.Launch
import BrowserRelay.Text.Blank

/-!
# Loading the settings

Settings come from three places: the defaults, a settings file laid over them, and
the flags of the command line laid over both.  They are checked only when all is laid
together.
-/

namespace BrowserRelay

/-- What the command line says about the settings. -/
structure Overrides where
  configPath : Option String := none
  workingDirectory : Option String := none
  browser : Option String := none
  outputDirectory : Option String := none
  logFile : Option String := none
  actionLog : Option String := none
  noEagerStart : Bool := false
  deriving DecidableEq

/-- Lay what the command line says over settings. -/
def Settings.overridden (settings : Settings) (overrides : Overrides) : Settings :=
  { settings with
    service :=
      { settings.service with
        browser := overrides.browser.getD settings.service.browser
        eagerStart := settings.service.eagerStart && !overrides.noEagerStart }
    logging := { settings.logging with
      logFile := overrides.logFile.getD settings.logging.logFile }
    script := { settings.script with
      outputDirectory := overrides.outputDirectory.getD settings.script.outputDirectory }
    recording := { settings.recording with
      actionLogPath := overrides.actionLog.getD settings.recording.actionLogPath } }

/-- The directory that the relay was started in and the one it works in. -/
structure Scope where
  startDirectory : String
  workingDirectory : String
  deriving DecidableEq

namespace Scope

/-- The scope of a relay: the command line goes before the settings file, and
without either the relay works where it was started. -/
def choose (startDirectory : String) (fromFile : Option String) (overrides : Overrides) :
    Scope :=
  match overrides.workingDirectory.or fromFile with
  | none => ⟨startDirectory, startDirectory⟩
  | some directory => ⟨startDirectory, Path.join startDirectory directory⟩

def resolve (scope : Scope) (path : String) : String :=
  Path.join scope.workingDirectory path

end Scope

/-- Anchor the paths of the settings at the working directory. -/
def Settings.resolvePaths (settings : Settings) (scope : Scope) : Settings :=
  { settings with
    logging := { settings.logging with logFile := scope.resolve settings.logging.logFile }
    script := { settings.script with
      outputDirectory := scope.resolve settings.script.outputDirectory }
    recording := { settings.recording with
      actionLogPath := scope.resolve settings.recording.actionLogPath } }

/-- How the service is started under given settings: in the working directory, with
a flag for the browser unless that is blank. -/
def Settings.launchRequest (settings : Settings) (scope : Scope) : LaunchRequest :=
  { program := settings.service.command
    arguments := settings.service.arguments ++
      (if Text.isBlankText settings.service.browser then []
       else ["--browser", settings.service.browser])
    directory := some scope.workingDirectory }

def Settings.requiredTexts (settings : Settings) : List (String × String) :=
  [("service.command", settings.service.command),
    ("health_check.method", settings.health.method),
    ("health_check.id_prefix", settings.health.idPrefix),
    ("tool.name", settings.tool.name),
    ("script_generation.file_stem", settings.script.fileStem)]

def Settings.requiredDurations (settings : Settings) : List (String × Nat) :=
  [("service.startup_timeout_ms", settings.service.startupTimeout),
    ("service.call_timeout_ms", settings.service.callTimeout),
    ("health_check.interval_ms", settings.health.interval)]

/-- What is wrong with settings, if anything is.  Identifiers of probes must not
look like calls of the relay's own tool. -/
def Settings.complaint? (settings : Settings) : Option String :=
  match settings.requiredTexts.find? fun (_, text) => Text.isBlankText text with
  | some (key, _) => some (key ++ " must not be empty")
  | none =>
      match settings.requiredDurations.find? fun (_, duration) => duration = 0 with
      | some (key, _) => some (key ++ " must be greater than zero")
      | none =>
          if settings.health.idPrefix.toList.isPrefixOf settings.tool.name.toList then
            some "tool.name must not start with health_check.id_prefix"
          else none

def Settings.check (settings : Settings) : Except Failure Unit :=
  match settings.complaint? with
  | some complaint => .error (.invalidConfig complaint)
  | none => .ok ()

/-- Read the settings file, if the command line names one. -/
def Settings.readFile (overrides : Overrides) (startDirectory : String) (store : FileStore) :
    Except Failure SettingsFile × FileStore :=
  match overrides.configPath with
  | none => (.ok ⟨{}, none⟩, store)
  | some path =>
      match store.read (Path.join startDirectory path) with
      | (.error failure, store) => (.error failure, store)
      | (.ok text, store) =>
          match Settings.overlaidText {} text with
          | .error fault => (.error (.configParse fault.message), store)
          | .ok file => (.ok file, store)

def Settings.load (overrides : Overrides) (startDirectory : String) (store : FileStore) :
    Except Failure (Settings × Scope) × FileStore :=
  match Settings.readFile overrides startDirectory store with
  | (.error failure, store) => (.error failure, store)
  | (.ok file, store) =>
      let settings := file.settings.overridden overrides
      match settings.check with
      | .error failure => (.error failure, store)
      | .ok () =>
          (.ok (settings, Scope.choose startDirectory file.workingDirectory overrides), store)

end BrowserRelay
