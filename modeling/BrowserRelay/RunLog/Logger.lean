import BrowserRelay.RunLog.Event
import BrowserRelay.RunLog.Rotation

/-!
# Writing the run log

Events are appended to a file, one line each.  When the file has reached its share
of the budget it is moved aside, and the oldest rotations are deleted.
-/

namespace BrowserRelay

/-- Where events are written, how long a payload may be and how much room the log
may take. -/
structure RunLogger where
  path : String
  payloadLimit : Nat := 4096
  budget : Nat := 50 * 1024 * 1024

namespace RunLogger

/-- Make the directory of the log. -/
def makeDirectory (store : FileStore) (path : String) : Except Failure Unit × FileStore :=
  match Path.parent? path with
  | none => (.ok (), store)
  | some "" => (.ok (), store)
  | some parent => store.createDirectories parent

/-- Move the log aside if it has reached its share, and prune its rotations. -/
def rotateIfGrown (logger : RunLogger) (store : FileStore) (stamp : Nat) :
    Except Failure Unit × FileStore :=
  if store.sizeAt logger.path < Rotation.threshold logger.budget then (.ok (), store)
  else
    match Rotation.rotate store logger.path stamp with
    | .error failure => (.error failure, store)
    | .ok (_, rotated) =>
        match Rotation.enforceBudget rotated logger.path logger.budget with
        | .error failure => (.error failure, rotated)
        | .ok (_, pruned) => (.ok (), pruned)

/-- Append an event.  `modified` is the time at which the line is written and
`stamp` the time at which the log is moved aside. -/
def append (logger : RunLogger) (store : FileStore) (event : LogEvent) (modified stamp : Nat) :
    Except Failure Unit × FileStore :=
  match makeDirectory store logger.path with
  | (.error failure, store) => (.error failure, store)
  | (.ok (), store) =>
      match store.append logger.path (event.line logger.payloadLimit) modified with
      | .error refusal => (.error refusal.failure, store)
      | .ok store => rotateIfGrown logger store stamp

end RunLogger

end BrowserRelay
