import BrowserRelay.Config.Settings
import BrowserRelay.Toml.Reader

/-!
# Settings in a file

A settings file names only what differs from other settings.  Keys that mean
nothing are passed over; a value of the wrong type is a fault.  A section is a table,
or an array that holds all of its fields in their order.
-/

namespace BrowserRelay

/-- Why a file does not hold settings. -/
inductive SettingsFault where
  | toml (error : ReadError Toml.ReadFault)
  | wrongType (key : String)
  deriving DecidableEq

/-- The wording of a fault. -/
def SettingsFault.message : SettingsFault → String
  | toml error => error.describe Toml.ReadFault.message
  | wrongType key => "value of the wrong type for `" ++ key ++ "`"

abbrev GivenFields := List (String × Toml)

namespace GivenFields

/-- The fields of a section of the file.  A date has no fields. -/
def ofSection (document : GivenFields) (key : String) (fields : List String) :
    Except SettingsFault GivenFields :=
  match document.lookup key with
  | none => .ok []
  | some (.table members) => .ok members
  | some (.moment _) => .ok []
  | some (.array items) =>
      if fields.length ≤ items.length then .ok (fields.zip items) else .error (.wrongType key)
  | some _ => .error (.wrongType key)

def text? (given : GivenFields) (key : String) : Except SettingsFault (Option String) :=
  match given.lookup key with
  | none => .ok none
  | some (.string text) => .ok (some text)
  | some _ => .error (.wrongType key)

def text (given : GivenFields) (key default : String) : Except SettingsFault String :=
  (given.text? key).map (·.getD default)

def flag (given : GivenFields) (key : String) (default : Bool) : Except SettingsFault Bool :=
  match given.lookup key with
  | none => .ok default
  | some (.bool value) => .ok value
  | some _ => .error (.wrongType key)

/-- A number below a bound, or another one if it is not given. -/
def count (given : GivenFields) (key : String) (bound default : Nat) :
    Except SettingsFault Nat :=
  match given.lookup key with
  | none => .ok default
  | some (.integer value) =>
      if 0 ≤ value ∧ value < bound then .ok value.toNat else .error (.wrongType key)
  | some _ => .error (.wrongType key)

def textItems? : List Toml → Option (List String)
  | [] => some []
  | .string text :: rest => (textItems? rest).map (text :: ·)
  | _ :: _ => none

def texts (given : GivenFields) (key : String) (default : List String) :
    Except SettingsFault (List String) :=
  match given.lookup key with
  | none => .ok default
  | some (.array items) =>
      match textItems? items with
      | some texts => .ok texts
      | none => .error (.wrongType key)
  | some _ => .error (.wrongType key)

def wide : Nat := Nat.pow 2 64

def narrow : Nat := Nat.pow 2 32

end GivenFields

/-- Lay the section on the service over other settings. -/
def ServiceSettings.overlaid (base : ServiceSettings) (document : GivenFields) :
    Except SettingsFault ServiceSettings := do
  let given ← document.ofSection "service"
    ["command", "args", "browser", "startup_timeout_ms", "restart_backoff_ms",
      "call_timeout_ms", "max_write_retries", "shutdown_grace_ms", "eager_start"]
  let command ← given.text "command" base.command
  let arguments ← given.texts "args" base.arguments
  let browser ← given.text "browser" base.browser
  let startupTimeout ← given.count "startup_timeout_ms" GivenFields.wide base.startupTimeout
  let restartBackoff ← given.count "restart_backoff_ms" GivenFields.wide base.restartBackoff
  let callTimeout ← given.count "call_timeout_ms" GivenFields.wide base.callTimeout
  let maxWriteRetries ← given.count "max_write_retries" GivenFields.narrow base.maxWriteRetries
  let shutdownGrace ← given.count "shutdown_grace_ms" GivenFields.wide base.shutdownGrace
  let eagerStart ← given.flag "eager_start" base.eagerStart
  return { command, arguments, browser, startupTimeout, restartBackoff, callTimeout,
           maxWriteRetries, shutdownGrace, eagerStart }

def HealthSettings.overlaid (base : HealthSettings) (document : GivenFields) :
    Except SettingsFault HealthSettings := do
  let given ← document.ofSection "health_check"
    ["method", "id_prefix", "interval_ms", "initial_delay_ms", "max_missed_probes"]
  let method ← given.text "method" base.method
  let idPrefix ← given.text "id_prefix" base.idPrefix
  let interval ← given.count "interval_ms" GivenFields.wide base.interval
  let initialDelay ← given.count "initial_delay_ms" GivenFields.wide base.initialDelay
  let maxMissedProbes ← given.count "max_missed_probes" GivenFields.narrow base.maxMissedProbes
  return { method, idPrefix, interval, initialDelay, maxMissedProbes }

/-- Lay the section on the run log over other settings. -/
def LoggingSettings.overlaid (base : LoggingSettings) (document : GivenFields) :
    Except SettingsFault LoggingSettings := do
  let given ← document.ofSection "logging"
    ["enabled", "log_file", "max_payload_bytes", "budget_bytes"]
  let enabled ← given.flag "enabled" base.enabled
  let logFile ← given.text "log_file" base.logFile
  let maxPayload ← given.count "max_payload_bytes" GivenFields.wide base.maxPayload
  let budget ← given.count "budget_bytes" GivenFields.wide base.budget
  return { enabled, logFile, maxPayload, budget }

/-- Lay the section on replay scripts over other settings. -/
def ScriptSettings.overlaid (base : ScriptSettings) (document : GivenFields) :
    Except SettingsFault ScriptSettings := do
  let given ← document.ofSection "script_generation" ["output_dir", "file_stem"]
  let outputDirectory ← given.text "output_dir" base.outputDirectory
  let fileStem ← given.text "file_stem" base.fileStem
  return { outputDirectory, fileStem }

/-- Lay the section on recorded actions over other settings. -/
def RecordingSettings.overlaid (base : RecordingSettings) (document : GivenFields) :
    Except SettingsFault RecordingSettings := do
  let given ← document.ofSection "recording" ["action_log_path"]
  let actionLogPath ← given.text "action_log_path" base.actionLogPath
  return { actionLogPath }

/-- Lay the section on the relay's own tool over other settings. -/
def ToolSettings.overlaid (base : ToolSettings) (document : GivenFields) :
    Except SettingsFault ToolSettings := do
  let given ← document.ofSection "tool" ["name", "description"]
  let name ← given.text "name" base.name
  let description ← given.text "description" base.description
  return { name, description }

/-- What a settings file says: settings laid over others, and the directory that
the relay is to work in. -/
structure SettingsFile where
  settings : Settings
  workingDirectory : Option String

def Settings.overlaid (base : Settings) (document : GivenFields) :
    Except SettingsFault SettingsFile := do
  let service ← base.service.overlaid document
  let health ← base.health.overlaid document
  let logging ← base.logging.overlaid document
  let script ← base.script.overlaid document
  let recording ← base.recording.overlaid document
  let tool ← base.tool.overlaid document
  let scope ← document.ofSection "scope" ["working_dir"]
  let workingDirectory ← scope.text? "working_dir"
  return { settings := { service, health, logging, script, recording, tool }, workingDirectory }

/-- Lay the text of a settings file over other settings. -/
def Settings.overlaidText (base : Settings) (text : String) :
    Except SettingsFault SettingsFile :=
  match Toml.parse text with
  | .error error => .error (.toml error)
  | .ok document => base.overlaid document

end BrowserRelay
