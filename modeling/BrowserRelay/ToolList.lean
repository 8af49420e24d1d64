import BrowserRelay.Json.Value

/-!
# The list of tools

The relay offers a tool of its own beside those of the service.  It adds the tool
to every list that the service sends, in place of any tool of the same name, so
that it appears exactly once.
-/

namespace BrowserRelay.ToolList

/-- How the relay's own tool is advertised. -/
def localTool (name description : String) : Json :=
  Json.ofMembers
    [("name", .string name), ("description", .string description),
      ("inputSchema",
        Json.ofMembers [("type", .string "object"), ("properties", .object [])])]

def toolName? (tool : Json) : Option String :=
  (tool.get? "name").bind Json.asString?

/-- A list of tools with one more at its end in place of those of its name. -/
def addTool (tools : List Json) (tool : Json) : List Json :=
  let name := (toolName? tool).getD ""
  tools.filter (fun other => toolName? other ≠ some name) ++ [tool]

def listed? (response : Json) : Option (List Json) :=
  ((response.get? "result").bind fun result => result.get? "tools").bind Json.asArray?

/-- Add a tool to the list in a response.  A response without a list is unchanged. -/
def merge (response tool : Json) : Json :=
  match response.get? "result", listed? response with
  | some result, some tools =>
      response.set "result" (result.set "tools" (.array (addTool tools tool)))
  | _, _ => response

end BrowserRelay.ToolList
