import BrowserRelay.Files.Store
import BrowserRelay.Recording.ActionText

/-!
# The action log

The recorded actions are kept in memory and in a file, which is written anew after
every change.  What is in memory does not depend on whether writing succeeds, so
the file catches up with the next success.
-/

namespace BrowserRelay.ActionLog

/-- Write the actions to their file. -/
def persist (store : FileStore) (path : String) (actions : List RecordedAction)
    (modified : Int) : Except Failure Unit × FileStore :=
  store.writeWithDirectory path (RecordedAction.prettyList actions) modified

/-- The actions that an earlier run left behind, with the failure that kept them
from being read.  A missing file is an empty log. -/
def load (store : FileStore) (path : String) :
    List RecordedAction × Option Failure × FileStore :=
  if store.exists? path then
    match store.read path with
    | (.error failure, store) => ([], some failure, store)
    | (.ok text, store) =>
        match RecordedAction.parseList text with
        | .error error => ([], some (.parse (.actions error)), store)
        | .ok actions => (actions, none, store)
  else ([], none, store)

def recorded (actions : List RecordedAction) (action : RecordedAction) : List RecordedAction :=
  actions ++ [action]

end BrowserRelay.ActionLog
