import BrowserRelay.Failure
import BrowserRelay.Message.RequestId
import BrowserRelay.Text.Blank

/-!
# Lines from the browser service

A service line that carries an identifier and no method is a response.
Identifiers and methods of the wrong type count as missing.
-/

namespace BrowserRelay

/-- A message received from the browser service. -/
structure ServiceMessage where
  id : Option RequestId
  method : Option String
  value : Json

namespace ServiceMessage

/-- Whether the message answers a request. -/
def isResponse (message : ServiceMessage) : Bool :=
  message.id.isSome && message.method.isNone

/-- Whether the message carries a result and no error. -/
def isSuccess (message : ServiceMessage) : Bool :=
  (message.value.get? "result").isSome && (message.value.get? "error").isNone

/-- How many characters of an unreadable line are quoted. -/
def excerptLength : Nat := 256

def excerpt (line : String) : String :=
  String.ofList (line.toList.take excerptLength)

def parse (line : String) : Except Failure ServiceMessage :=
  match Json.parse (Text.trim line) with
  | .error error => .error (.parse (.serviceJson error (excerpt line)))
  | .ok (.object members) =>
      let value := Json.object members
      .ok
        { id := (value.get? "id").bind RequestId.ofJson?
          method := (value.get? "method").bind Json.asString?
          value := value }
  | .ok _ => .error (.parse .serviceNotObject)

end ServiceMessage

end BrowserRelay
