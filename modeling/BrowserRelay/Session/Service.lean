import BrowserRelay.Files.Path
import BrowserRelay.Files.Store
import BrowserRelay.Relay.Gateway
import BrowserRelay.Session.Programs
import BrowserRelay.Text.Lines

/-!
# Service processes

What a service process reports is found from the history of its program on the lines
that it has been given so far: the lines that it completes on its two streams, and its
end.
-/

namespace BrowserRelay

/-- What a process reports. -/
inductive ProcessReport where
  | outputLine (line : String)
  | errorLine (line : String)
  | exited (code : Option Int)
  deriving DecidableEq

/-- A report with its moment. -/
structure TimedReport where
  moment : Nat
  report : ProcessReport

namespace ProcessHistory

/-- The history of a process that is killed at a moment, unless it ended before. -/
def killedAt (history : ProcessHistory) (moment : Nat) : ProcessHistory :=
  let cut : ProcessHistory :=
    { history with
      written := history.written.filter fun written => written.moment ≤ moment
      ending := .killed moment }
  match history.ending with
  | .exited ended _ => if ended ≤ moment then history else cut
  | .killed ended => if ended ≤ moment then history else cut
  | .running => cut

def unendedBytes (bytes : List UInt8) : List UInt8 :=
  (bytes.reverse.takeWhile (· ≠ Text.lineFeed)).reverse

/-- The lines that pieces of text complete, each with the moment at which it was
complete, and the bytes that belong to no line yet. -/
def timedLines : List UInt8 → List WrittenBytes → List (Nat × String) × List UInt8
  | pending, [] => ([], pending)
  | pending, written :: rest =>
      let bytes := pending ++ written.bytes
      let lines := (Text.endedLinesOf bytes).map fun line => (written.moment, line)
      let (others, pending) := timedLines (unendedBytes bytes) rest
      (lines ++ others, pending)

/-- The moment from which nobody writes to the streams of the process. -/
def streamsEnd? (history : ProcessHistory) : Option Nat :=
  match history.ending with
  | .exited moment _ => history.othersEnd.map (max moment)
  | .killed moment => history.othersEnd.map (max moment)
  | .running => none

/-- The lines of one of the two streams.  At the end of the stream, bytes that belong
to no line make up one. -/
def streamLines (history : ProcessHistory) (isError : Bool) : List (Nat × String) :=
  let (lines, pending) := timedLines []
    (history.written.filter fun written => written.isError = isError)
  match history.streamsEnd? with
  | some moment => lines ++ (Text.linesOf pending).map fun line => (moment, line)
  | none => lines

/-- The reports of a process: its lines as they are completed, and its end behind the
lines of the same moment. -/
def reports (history : ProcessHistory) : List TimedReport :=
  let output := (history.streamLines false).map fun (moment, line) =>
    TimedReport.mk moment (.outputLine line)
  let errors := (history.streamLines true).map fun (moment, line) =>
    TimedReport.mk moment (.errorLine line)
  let ending : List TimedReport :=
    match history.ending with
    | .exited moment code => [⟨moment, .exited (some code)⟩]
    | .killed moment => [⟨moment, .exited none⟩]
    | .running => []
  (output ++ errors ++ ending).mergeSort fun first second =>
    decide (first.moment ≤ second.moment)

end ProcessHistory

/-- A process of a service: how and when it was started and on which system, the lines
it was given with their moments, when it was killed, its reports, and how many of these
were taken note of.  A process is cut off once it was given a line after it had left its
input; it is given no more then. -/
structure ServiceProcess where
  programs : Programs
  launch : LaunchRequest
  generation : Nat
  surroundings : Surroundings
  startedAt : Nat
  lines : List GivenBytes := []
  killedAt : Option Nat := none
  reports : List TimedReport := []
  taken : Nat := 0
  inputLeft : Option Nat := none
  isCutOff : Bool := false

namespace ServiceProcess

def directory (launch : LaunchRequest) : String :=
  launch.directory.getD "."

def surroundingsIn (store : FileStore) (directory : String) : Surroundings :=
  { contents? := fun path => store.contents? (Path.join directory path)
    isDirectory := fun path => (store.directoryAt (Path.join directory path)).toOption.isSome }

/-- How many milliseconds pass between the start of a process and what its program does
first. -/
def startingTime : Nat := 1

/-- What the process did so far.  One without a program ends at once. -/
def history (process : ServiceProcess) : ProcessHistory :=
  let moment := process.startedAt + startingTime
  let history :=
    match process.programs.history? process.launch.program process.launch.arguments with
    | none => { written := [], ending := .exited moment 127 }
    | some history =>
        history ⟨directory process.launch, process.surroundings, moment, process.lines⟩
  match process.killedAt with
  | none => history
  | some moment => history.killedAt moment

def refreshed (process : ServiceProcess) : ServiceProcess :=
  let history := process.history
  { process with reports := history.reports, inputLeft := history.inputLeft }

def giveLine (process : ServiceProcess) (moment : Nat) (line : String) : ServiceProcess :=
  if process.isCutOff || process.inputLeft.any (· ≤ moment) then
    { process with isCutOff := true }
  else
    let given : GivenBytes := ⟨moment, line.toUTF8.toList ++ [Text.lineFeed]⟩
    ({ process with lines := process.lines ++ [given] }).refreshed

/-- The event that is noted when a process is cut off. -/
def cutOffEvent (process : ServiceProcess) : LogEvent :=
  ⟨.warning, "child.stdin.closed",
    Json.ofMembers
      [("generation", .ofNat process.generation),
        ("error", .string Refusal.brokenPipe.message)]⟩

def writesPerEvent : Nat := 1000

/-- The outcomes of the writes to a process that come with one event. -/
def writeOutcomes (process : ServiceProcess) : Outcomes :=
  if process.isCutOff then
    Outcomes.failing writesPerEvent (.serviceWrite "child stdin is closed")
  else []

def kill (process : ServiceProcess) (moment : Nat) : ServiceProcess :=
  match process.killedAt with
  | some _ => process
  | none => ({ process with killedAt := some moment }).refreshed

/-- Kill a process as soon as it has written a number of lines. -/
def killAfterLines (process : ServiceProcess) (count : Nat) : ServiceProcess :=
  let lines := process.history.streamLines false
  match count with
  | 0 => process.kill process.startedAt
  | count + 1 =>
      match lines[count]? with
      | some (moment, _) => process.kill moment
      | none => process

def eventOf (process : ServiceProcess) : ProcessReport → Event
  | .outputLine line => .serviceOutput process.generation line
  | .errorLine line => .serviceError process.generation line
  | .exited code => .serviceExited process.generation code

/-- Whether a process has ended and all of its reports were taken note of. -/
def isDone (process : ServiceProcess) : Bool :=
  process.taken = process.reports.length &&
    process.reports.any fun timed =>
      match timed.report with
      | .exited _ => true
      | _ => false

def nextMoment? (process : ServiceProcess) : Option Nat :=
  (process.reports[process.taken]?).map TimedReport.moment

def takeReports (process : ServiceProcess) (moment : Nat) : List Event × ServiceProcess :=
  let due := (process.reports.drop process.taken).takeWhile fun report => report.moment ≤ moment
  (due.map fun timed => process.eventOf timed.report,
    { process with taken := process.taken + due.length })

end ServiceProcess

/-! ## Starting processes -/

namespace Programs

/-- How many bytes an argument of a program may have. -/
def longestArgument : Nat := 131071

/-- Why a program cannot be started in a directory, if it cannot.  A program of the
system is found by its name; a path leads to a file that is no program. -/
def programRefusal? (programs : Programs) (store : FileStore) (launch : LaunchRequest) :
    Option Refusal :=
  let isTooLong (argument : String) : Bool := longestArgument < argument.utf8ByteSize
  if (programs.history? launch.program launch.arguments).isSome then
    if launch.arguments.any isTooLong then some .tooManyBytes else none
  else if launch.program.contains '/' then
    match store.find (Path.join (ServiceProcess.directory launch) launch.program) with
    | .error refusal => some refusal
    | .ok _ => some .notPermitted
  else if launch.program ∈ [".", ".."] then some .notPermitted
  else if Place.longestName < launch.program.utf8ByteSize then some .nameTooLong
  else some .missing

def launchRefusal? (programs : Programs) (store : FileStore) (launch : LaunchRequest) :
    Option Failure :=
  let refuse (detail : String) : Option Failure :=
    some (.process ("failed to spawn " ++ launch.program ++ ": " ++ detail))
  let directory := ServiceProcess.directory launch
  if (launch.program :: directory :: launch.arguments).any (·.contains '\x00') then
    refuse "nul byte found in provided data"
  else
    match store.directoryAt directory with
    | .error refusal => refuse refusal.message
    | .ok _ => (programs.programRefusal? store launch).bind fun refusal => refuse refusal.message

def launchesPerEvent : Nat := 1000

/-- The outcomes of the launches that are asked for while the files stay as they
are. -/
def launchOutcomes (programs : Programs) (store : FileStore) (launch : LaunchRequest) :
    Outcomes :=
  match programs.launchRefusal? store launch with
  | none => []
  | some failure => Outcomes.failing launchesPerEvent failure

def start (programs : Programs) (store : FileStore) (launch : LaunchRequest)
    (generation moment : Nat) : ServiceProcess :=
  let directory := ServiceProcess.directory launch
  ({ programs := programs
     launch := launch
     generation := generation
     surroundings := ServiceProcess.surroundingsIn store directory
     startedAt := moment } : ServiceProcess).refreshed

end Programs

end BrowserRelay
