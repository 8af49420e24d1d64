import BrowserRelay.Message.ClientMessage

/-!
# Recorded actions

Every browser action that the client asks for is reduced to a recorded action: a
kind, and for most kinds a target and a payload.  Requests that are no browser
actions are not recorded, and neither are calls of the relay's own tool.
-/

namespace BrowserRelay

/-- What an action does.  A passthrough is a browser method without a kind of its
own, kept with its parameters. -/
inductive ActionKind where
  | navigate
  | fill
  | click
  | wait
  | screenshot
  | text
  | getElements
  | snapshot
  | press
  | hover
  | toolCall
  | passthrough
  deriving DecidableEq

/-- The name of a kind in the action log. -/
def ActionKind.name : ActionKind → String
  | navigate => "navigate"
  | fill => "fill"
  | click => "click"
  | wait => "wait"
  | screenshot => "screenshot"
  | text => "text"
  | getElements => "get_elements"
  | snapshot => "snapshot"
  | press => "press"
  | hover => "hover"
  | toolCall => "tool_call"
  | passthrough => "passthrough"

/-- All kinds, in the order in which messages list their names. -/
def ActionKind.all : List ActionKind :=
  [navigate, fill, click, wait, screenshot, text, getElements, snapshot, press, hover, toolCall,
    passthrough]

def ActionKind.ofName? (name : String) : Option ActionKind :=
  ActionKind.all.find? fun kind => kind.name = name

/-- One entry of the action log.  The target is the selector, the tool name or the
method of a passthrough; the payload is the value that the action carries. -/
structure RecordedAction where
  kind : ActionKind
  target : Option String := none
  payload : Option Json := none

namespace RecordedAction

/-- How long a wait lasts when nothing usable is given, in milliseconds. -/
def defaultWait : Nat := 1000

/-- Whether a method belongs to the browser vocabulary. -/
def isBrowserMethod (method : String) : Bool :=
  method.startsWith "browser/" || method.startsWith "page/" || method.startsWith "element/"

/-- The action that a client message asks for, if it is a browser action.
`ownTool` names the tool that the relay answers itself. -/
def ofMessage? (message : ClientMessage) (ownTool : String) : Option RecordedAction :=
  let params := message.params
  let selector := (params.get? "selector").bind Json.asString?
  match message.methodName with
  | "tools/call" =>
      match message.toolName with
      | none => none
      | some name =>
          if name = ownTool then none
          else some ⟨.toolCall, name, message.toolArguments.getD (.object [])⟩
  | "browser/navigate" => some ⟨.navigate, none, (params.get? "url").getD .null⟩
  | "page/fill" => some ⟨.fill, selector, params.get? "text"⟩
  | "element/fill" => some ⟨.fill, selector, params.get? "text"⟩
  | "page/click" => some ⟨.click, selector, none⟩
  | "element/click" => some ⟨.click, selector, none⟩
  | "page/wait" =>
      let duration := ((params.get? "milliseconds").bind Json.asNat?).getD defaultWait
      some ⟨.wait, none, Json.ofNat duration⟩
  | "page/screenshot" => some ⟨.screenshot, none, (params.get? "path").getD .null⟩
  | "page/text" => some ⟨.text, selector, none⟩
  | "element/text" => some ⟨.text, selector, none⟩
  | "page/elements" => some ⟨.getElements, selector, none⟩
  | "element/query" => some ⟨.getElements, selector, none⟩
  | "page/content" => some ⟨.snapshot, none, none⟩
  | "page/press" => some ⟨.press, selector, params.get? "key"⟩
  | "element/press" => some ⟨.press, selector, params.get? "key"⟩
  | "page/hover" => some ⟨.hover, selector, none⟩
  | "element/hover" => some ⟨.hover, selector, none⟩
  | method => if isBrowserMethod method then some ⟨.passthrough, method, params⟩ else none

end RecordedAction

end BrowserRelay
