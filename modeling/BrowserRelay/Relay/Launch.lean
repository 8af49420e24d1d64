/-!
# Launch requests
-/

namespace BrowserRelay

/-- How the browser service is started: its program, its arguments and the
directory that it runs in. -/
structure LaunchRequest where
  program : String
  arguments : List String
  directory : Option String := none
  deriving DecidableEq

end BrowserRelay
