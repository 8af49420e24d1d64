import BrowserRelay.Recording.Action

/-!
# Replaying an action

A recorded action is performed again by a call of the service or by a pause.  An
entry that lacks what its kind needs is skipped.
-/

namespace BrowserRelay

/-- How an action is performed again. -/
inductive ReplayStep where
  | call (method : String) (params : Json)
  | pause (milliseconds : Nat)
  | skipped (reason : String)

/-- The step that performs an action again. -/
def RecordedAction.replayStep (action : RecordedAction) : ReplayStep :=
  let selector := Json.string (action.target.getD "")
  let payload := action.payload.getD .null
  match action.kind with
  | .navigate => .call "browser/navigate" (.ofMembers [("url", payload)])
  | .fill => .call "page/fill" (.ofMembers [("selector", selector), ("text", payload)])
  | .click => .call "page/click" (.ofMembers [("selector", selector)])
  | .wait => .pause (payload.asNat?.getD RecordedAction.defaultWait)
  | .screenshot => .call "page/screenshot" (.ofMembers [("path", payload)])
  | .text => .call "page/text" (.ofMembers [("selector", selector)])
  | .getElements => .call "page/elements" (.ofMembers [("selector", selector)])
  | .snapshot => .call "page/content" (.object [])
  | .press => .call "page/press" (.ofMembers [("selector", selector), ("key", payload)])
  | .hover => .call "page/hover" (.ofMembers [("selector", selector)])
  | .toolCall =>
      match action.target with
      | none => .skipped "tool call without a tool name"
      | some name =>
          .call "tools/call"
            (.ofMembers
              [("name", .string name), ("arguments", action.payload.getD (.object []))])
  | .passthrough =>
      match action.target with
      | none => .skipped "browser operation without a method"
      | some method =>
          .call method
            (match payload with
            | .null => .object []
            | params => params)

end BrowserRelay
