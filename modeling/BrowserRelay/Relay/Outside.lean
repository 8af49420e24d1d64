import BrowserRelay.Files.Store
import BrowserRelay.Recording.Action
import BrowserRelay.RunLog.Event

/-!
# What the relay meets at its edges

The relay reads a clock, keeps files, starts and kills service processes, writes
lines to them and to the client, and notes what it does.  Everything that it did
is kept in order, and the outcomes of what it will do are given in advance.
-/

namespace BrowserRelay

/-- A line that was written to the service process of a generation. -/
structure WrittenLine where
  generation : Nat
  line : String
  deriving DecidableEq

/-- What a replay script was asked to be made of, and where. -/
structure Emission where
  pageUrl : String
  actions : List RecordedAction
  target : String

/-- How replay scripts are emitted: written to files, or only noted.  Notes may be
refused with a message. -/
inductive EmitterKind where
  | files
  | notes (refusal : Option String)
  deriving DecidableEq

/-- The edges of the relay.  The clock counts milliseconds from the epoch and may
stand before it. -/
structure Outside where
  clock : Int := 1700000000000
  files : FileStore := {}
  emitter : EmitterKind := .files
  launchOutcomes : Outcomes := []
  writeOutcomes : Outcomes := []
  killOutcomes : Outcomes := []
  replyOutcomes : Outcomes := []
  launched : List Nat := []
  written : List WrittenLine := []
  killed : List Nat := []
  replies : List String := []
  emissions : List Emission := []
  journal : List LogEvent := []

namespace Outside

/-- The reading of the clock in whole milliseconds, and zero before the epoch. -/
def nowMillis (outside : Outside) : Nat := outside.clock.toNat

def note (outside : Outside) (level : LogLevel) (type : String)
    (payload : List (String × Json)) : Outside :=
  { outside with journal := outside.journal ++ [⟨level, type, Json.ofMembers payload⟩] }

def launch (outside : Outside) (generation : Nat) : Except Failure Unit × Outside :=
  let later := { outside with launchOutcomes := outside.launchOutcomes.later }
  match outside.launchOutcomes.next with
  | some failure => (.error failure, later)
  | none => (.ok (), { later with launched := outside.launched ++ [generation] })

/-- Write a line to the service process of a generation. -/
def writeLine (outside : Outside) (generation : Nat) (line : String) :
    Except Failure Unit × Outside :=
  let later := { outside with writeOutcomes := outside.writeOutcomes.later }
  match outside.writeOutcomes.next with
  | some failure => (.error failure, later)
  | none => (.ok (), { later with written := outside.written ++ [⟨generation, line⟩] })

/-- Ask the service process of a generation to end.  The request counts even when
it fails. -/
def kill (outside : Outside) (generation : Nat) : Except Failure Unit × Outside :=
  let later :=
    { outside with
      killOutcomes := outside.killOutcomes.later
      killed := outside.killed ++ [generation] }
  match outside.killOutcomes.next with
  | some failure => (.error failure, later)
  | none => (.ok (), later)

def reply (outside : Outside) (line : String) : Outside :=
  let later := { outside with replyOutcomes := outside.replyOutcomes.later }
  match outside.replyOutcomes.next with
  | some failure =>
      later.note .failure "client.write_failed" [("error", .string failure.message)]
  | none => { later with replies := outside.replies ++ [line] }

end Outside

end BrowserRelay
