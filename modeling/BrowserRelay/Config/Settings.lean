/-!
# Settings

The settings of the relay in sections, with their default values.  Durations are
in milliseconds.
-/

namespace BrowserRelay

/-- How the browser service is started, restarted and written to. -/
structure ServiceSettings where
  command : String := "npx"
  arguments : List String := ["@playwright/mcp@latest"]
  browser : String := "msedge"
  startupTimeout : Nat := 30000
  restartBackoff : Nat := 1000
  callTimeout : Nat := 120000
  maxWriteRetries : Nat := 3
  shutdownGrace : Nat := 5000
  eagerStart : Bool := true
  deriving DecidableEq

/-- How the service is probed.  Unanswered probes are tolerated up to
`maxMissedProbes`; zero tolerates any number. -/
structure HealthSettings where
  method : String := "ping"
  idPrefix : String := "health_check_"
  interval : Nat := 5000
  initialDelay : Nat := 500
  maxMissedProbes : Nat := 0
  deriving DecidableEq

/-- Where the run log is written and how much room it may take, in bytes. -/
structure LoggingSettings where
  enabled : Bool := true
  logFile : String := ".scriptgen/logs/scriptgen.jsonl"
  maxPayload : Nat := 4096
  budget : Nat := 52428800
  deriving DecidableEq

/-- Where replay scripts are written. -/
structure ScriptSettings where
  outputDirectory : String := "generated-scripts"
  fileStem : String := "test"
  deriving DecidableEq

/-- Where recorded actions are kept. -/
structure RecordingSettings where
  actionLogPath : String := ".scriptgen/test-steps.json"
  deriving DecidableEq

/-- How the relay's own tool is advertised. -/
structure ToolSettings where
  name : String := "playwright_script_generator"
  description : String := "Generate a replay script from the recorded browser actions"
  deriving DecidableEq

/-- All settings of the relay. -/
structure Settings where
  service : ServiceSettings := {}
  health : HealthSettings := {}
  logging : LoggingSettings := {}
  script : ScriptSettings := {}
  recording : RecordingSettings := {}
  tool : ToolSettings := {}
  deriving DecidableEq

end BrowserRelay
