import BrowserRelay.Recording.Script
import BrowserRelay.Relay.Outside

/-!
# Emitting a replay script

The attempt to emit a script ends with a report, which names the file on success
and the reason otherwise.
-/

namespace BrowserRelay

/-- How the attempt to emit a script ended. -/
structure EmissionReport where
  isSuccess : Bool
  message : String
  file : Option String
  deriving DecidableEq

namespace EmissionReport

/-- The members of a report's JSON value. -/
def members (report : EmissionReport) : List (String × Json) :=
  [("status", .string (if report.isSuccess then "success" else "error")),
    ("message", .string report.message),
    ("generated_script_file", .ofOption (report.file.map .string))]

def toJson (report : EmissionReport) : Json := .object report.members

def announcement (report : EmissionReport) : String :=
  match report.file with
  | some file => "Script saved to: " ++ file
  | none => "Script generation failed: " ++ report.message

/-- The result of the tool call that asked for the script. -/
def toolResult (report : EmissionReport) : Json :=
  Json.ofMembers
    (report.members ++
      [("content",
          .array
            [Json.ofMembers
              [("type", .string "text"), ("text", .string report.announcement)]]),
        ("isError", .bool !report.isSuccess)])

end EmissionReport

namespace Emission

def writeScript (launch : LaunchRequest) (emission : Emission) (outside : Outside) :
    EmissionReport × Outside :=
  let steps := emission.actions.length
  let path := ("path", Json.string emission.target)
  match outside.files.writeWithDirectory emission.target
    (Script.render launch emission.pageUrl emission.actions) outside.clock with
  | (.ok (), files) =>
      (⟨true, "Generated a Node.js replay script with " ++ toString steps ++ " steps",
          some emission.target⟩,
        ({ outside with files := files }).note .info "script.generated"
          [path, ("steps", .ofNat steps)])
  | (.error failure, files) =>
      (⟨false, "failed to write script: " ++ failure.message, none⟩,
        ({ outside with files := files }).note .failure "script.write_failed"
          [path, ("error", .string failure.message)])

/-- Emit a script in the way that the edges provide for. -/
def emit (launch : LaunchRequest) (emission : Emission) (outside : Outside) :
    EmissionReport × Outside :=
  let noted := { outside with emissions := outside.emissions ++ [emission] }
  match outside.emitter with
  | .files => emission.writeScript launch noted
  | .notes none =>
      (⟨true, toString emission.actions.length ++ " steps", some emission.target⟩, noted)
  | .notes (some refusal) => (⟨false, refusal, none⟩, noted)

end Emission

end BrowserRelay
