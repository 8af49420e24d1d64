import BrowserRelay.Failure
import BrowserRelay.Json.Printer
import BrowserRelay.Message.RequestId

/-!
# Envelopes that the relay writes

The relay writes requests of its own to the service, and successes and errors to
the client, each as one line of compact JSON.
-/

namespace BrowserRelay.Envelope

/-- The version of the message format. -/
def version : Json := .string "2.0"

def request (id : RequestId) (method : String) (params : Option Json) : Json :=
  let bare :=
    Json.ofMembers [("jsonrpc", version), ("method", .string method), ("id", id.toJson)]
  match params with
  | none => bare
  | some params => bare.set "params" params

def success (id : RequestId) (result : Json) : Json :=
  Json.ofMembers [("jsonrpc", version), ("id", id.toJson), ("result", result)]

/-- The codes of the errors that the relay reports. -/
inductive ErrorCode where
  | parseError
  | invalidRequest
  | internalError
  | requestTimeout

def ErrorCode.number : ErrorCode → Int
  | parseError => -32700
  | invalidRequest => -32600
  | internalError => -32603
  | requestTimeout => -32001

/-- An error answer; it has no identifier when the request could not be read. -/
def error (id : Option RequestId) (code : Int) (message : String) : Json :=
  Json.ofMembers
    [("jsonrpc", version), ("id", Json.ofOption (id.map RequestId.toJson)),
      ("error", Json.ofMembers [("code", .ofInt code), ("message", .string message)])]

/-- The error answer for a failure that a caller is told about.  A line that could
not be read has no identifier to answer to. -/
def errorFor (id : Option RequestId) : Failure → Json
  | .parse _ => error none ErrorCode.parseError.number "Parse error"
  | .invalidRequest detail =>
      error id ErrorCode.invalidRequest.number ("Invalid Request: " ++ detail)
  | .timeout milliseconds =>
      error id ErrorCode.requestTimeout.number (Failure.timeout milliseconds).message
  | other => error id ErrorCode.internalError.number other.message

def requestLine (id : RequestId) (method : String) (params : Option Json) : String :=
  (request id method params).compact

def successLine (id : RequestId) (result : Json) : String :=
  (success id result).compact

def errorLine (id : Option RequestId) (code : Int) (message : String) : String :=
  (error id code message).compact

def errorLineFor (id : Option RequestId) (failure : Failure) : String :=
  (errorFor id failure).compact

end BrowserRelay.Envelope
