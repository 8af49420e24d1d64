import BrowserRelay.Json.Reader

/-!
# What can go wrong

Each way in which the relay can fail is a constructor that carries its causes.
The wording is made in one place, so that the same failure reads the same in a
reply to the client, in the run log and on the terminal.
-/

namespace BrowserRelay

/-- Why a text is not a list of recorded actions. -/
inductive ActionFault where
  | json (fault : Json.ReadFault)
  | invalidType (found expected : String)
  | unknownKind (name : String)
  | duplicateField (name : String)
  | missingField (name : String)
  | tooShort (length : Nat)
  deriving DecidableEq

/-- The names of the kinds of action, as they are listed in messages. -/
def actionKindNames : List String :=
  ["navigate", "fill", "click", "wait", "screenshot", "text", "get_elements", "snapshot",
    "press", "hover", "tool_call", "passthrough"]

/-- The wording of a fault in the text of recorded actions. -/
def ActionFault.message : ActionFault → String
  | json fault => fault.message
  | invalidType found expected => "invalid type: " ++ found ++ ", expected " ++ expected
  | unknownKind name =>
      "unknown variant `" ++ name ++ "`, expected one of " ++
        ", ".intercalate (actionKindNames.map fun kind => "`" ++ kind ++ "`")
  | duplicateField name => "duplicate field `" ++ name ++ "`"
  | missingField name => "missing field `" ++ name ++ "`"
  | tooShort length =>
      "invalid length " ++ toString length ++ ", expected struct RecordedAction with 3 elements"

/-- Why a line or a file could not be read. -/
inductive ParseCause where
  /-- The client's line is not JSON. -/
  | json (error : ReadError Json.ReadFault)
  /-- The service's line is not JSON; its first characters are kept. -/
  | serviceJson (error : ReadError Json.ReadFault) (excerpt : String)
  /-- The service's line is JSON, but not an object. -/
  | serviceNotObject
  /-- The action log is not a list of recorded actions. -/
  | actions (error : ReadError ActionFault)
  | other (detail : String)
  deriving DecidableEq

def ParseCause.message : ParseCause → String
  | json error => error.describe Json.ReadFault.message
  | serviceJson error excerpt =>
      "invalid json from browser service: " ++ error.describe Json.ReadFault.message ++
        "; input=" ++ excerpt
  | serviceNotObject => "browser service sent a non-object message"
  | actions error => error.describe ActionFault.message
  | other detail => detail

/-- Everything that can go wrong in the relay. -/
inductive Failure where
  | io (detail : String)
  | configParse (detail : String)
  | invalidConfig (detail : String)
  | commandLine (detail : String)
  | process (detail : String)
  | parse (cause : ParseCause)
  | invalidRequest (detail : String)
  | startupTimeout (milliseconds : Nat)
  | serviceWrite (detail : String)
  | serviceExit (detail : String)
  | timeout (milliseconds : Nat)
  | unsupportedAction (method : String)
  deriving DecidableEq

def Failure.message : Failure → String
  | io detail => "io error: " ++ detail
  | configParse detail => "config parse error: " ++ detail
  | invalidConfig detail => "invalid config: " ++ detail
  | commandLine detail => "cli error: " ++ detail
  | process detail => "process error: " ++ detail
  | parse cause => "parse error: " ++ cause.message
  | invalidRequest detail => "invalid request: " ++ detail
  | startupTimeout milliseconds =>
      "browser service did not become ready within " ++ toString milliseconds ++ " ms"
  | serviceWrite detail => "failed to write to browser service: " ++ detail
  | serviceExit detail => "browser service exited with " ++ detail
  | timeout milliseconds => "request timed out after " ++ toString milliseconds ++ " ms"
  | unsupportedAction method => "unsupported action: " ++ method

end BrowserRelay
