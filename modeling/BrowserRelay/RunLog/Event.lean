import BrowserRelay.Json.Printer
import BrowserRelay.Text.Sha256

/-!
# Events of the run log

What the relay does is noted as events of a level, a type and a payload.  A
payload whose text is too long is replaced by the beginning of that text.
-/

namespace BrowserRelay

/-- How much an event matters. -/
inductive LogLevel where
  | debug
  | info
  | warning
  | failure
  | other (name : String)
  deriving DecidableEq

/-- The name of a level. -/
def LogLevel.name : LogLevel → String
  | debug => "debug"
  | info => "info"
  | warning => "warn"
  | failure => "error"
  | other name => name

/-- One event of the run log. -/
structure LogEvent where
  level : LogLevel
  type : String
  payload : Json

namespace LogEvent

/-- The longest beginning of a list of characters that fits into a number of
bytes. -/
def fitting : Nat → List Char → List Char
  | _, [] => []
  | bytes, character :: rest =>
      if character.utf8Size ≤ bytes then
        character :: fitting (bytes - character.utf8Size) rest
      else []

/-- A payload that takes no more than a number of bytes: the payload itself, or
the beginning of its text followed by three dots. -/
def truncatePayload (limit : Nat) (payload : Json) : Json :=
  let text := payload.compact
  if text.utf8ByteSize ≤ limit then payload
  else .string (String.ofList (fitting (limit - 3) text.toList ++ ['.', '.', '.']))

/-- An event with its payload cut to a number of bytes. -/
def truncate (limit : Nat) (event : LogEvent) : LogEvent :=
  { event with payload := truncatePayload limit event.payload }

def toJson (event : LogEvent) : Json :=
  .object
    [("level", .string event.level.name), ("event_type", .string event.type),
      ("payload", event.payload)]

/-- The line that an event takes in the log, with its line feed. -/
def line (limit : Nat) (event : LogEvent) : String :=
  (event.truncate limit).toJson.compact ++ "\n"

/-- The greatest length of a line that is logged as it is, in bytes. -/
def largeLineThreshold : Nat := 16 * 1024

/-- A line as it is logged: as it is, or as its digest and length when it is too
long. -/
def loggableLine (line : String) : String :=
  if line.utf8ByteSize ≤ largeLineThreshold then line
  else
    "<hash:sha256:" ++ Sha256.shortDigest line ++ "> (" ++ toString line.utf8ByteSize ++ " bytes)"

end LogEvent

end BrowserRelay
