import BrowserRelay.Failure
import BrowserRelay.Message.RequestId
import BrowserRelay.Text.Blank

/-!
# Lines from the client

A client line is read just far enough to route it.  Its trimmed text is kept and
is what the browser service receives.
-/

namespace BrowserRelay

/-- A message received from the client. -/
structure ClientMessage where
  id : Option RequestId
  method : Option String
  params : Json
  raw : String

namespace ClientMessage

/-- Requests carry both a method and an identifier; notifications and responses
to the service never get an answer. -/
def expectsResponse (message : ClientMessage) : Bool :=
  message.id.isSome && message.method.isSome

def answerId (message : ClientMessage) : Option RequestId :=
  if message.expectsResponse then message.id else none

/-- The method, with the empty text for a message without one. -/
def methodName (message : ClientMessage) : String :=
  message.method.getD ""

def toolName (message : ClientMessage) : Option String :=
  if message.methodName = "tools/call" then (message.params.get? "name").bind Json.asString?
  else none

def toolArguments (message : ClientMessage) : Option Json :=
  message.toolName.bind fun _ => message.params.get? "arguments"

/-- The identifier of a message: none when it is missing or null. -/
def readId (message : Json) : Except Failure (Option RequestId) :=
  match message.get? "id" with
  | none => .ok none
  | some .null => .ok none
  | some value =>
      match RequestId.ofJson? value with
      | some id => .ok (some id)
      | none => .error (.invalidRequest "id must be a string or an integer")

/-- The method of a message: none only when it is missing. -/
def readMethod (message : Json) : Except Failure (Option String) :=
  match message.get? "method" with
  | none => .ok none
  | some (.string method) => .ok (some method)
  | some _ => .error (.invalidRequest "method must be a string")

/-- Read the routing fields of a message whose text is kept as `raw`. -/
def ofJson (raw : String) (message : Json) : Except Failure ClientMessage :=
  match message with
  | .object _ =>
      match readId message with
      | .error failure => .error failure
      | .ok id =>
          match readMethod message with
          | .error failure => .error failure
          | .ok method =>
              .ok
                { id := id
                  method := method
                  params := (message.get? "params").getD .null
                  raw := raw }
  | _ => .error (.invalidRequest "message must be a JSON object")

def parse (line : String) : Except Failure ClientMessage :=
  let raw := Text.trim line
  match Json.parse raw with
  | .error error => .error (.parse (.json error))
  | .ok message => ofJson raw message

end ClientMessage

end BrowserRelay
