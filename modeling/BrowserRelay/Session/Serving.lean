import BrowserRelay.CommandLine
import BrowserRelay.Relay.Inbox
import BrowserRelay.RunLog.Logger
import BrowserRelay.Session.Service

/-!
# Sessions

A session is a run of the relay from its command line to its end: on the text that
the client sends, on a tree of files, and with a service that is one of the programs of
a system.  Time passes only while nothing is left to be handled.
-/

namespace BrowserRelay

/-- A session at work: the programs of the system, the inbox of the event loop, the processes of
the service, what the client was sent, and the run log, if one is kept. -/
structure Session where
  programs : Programs
  setup : Setup
  inbox : Inbox
  services : List ServiceProcess := []
  sent : String := ""
  logger : Option RunLogger := none
  startedAt : Nat

namespace Session

/-- The time since the session started, in milliseconds. -/
def now (session : Session) : Nat := session.inbox.scheduler.now

def clock (session : Session) : Nat := session.startedAt + session.now

def outside (session : Session) : Outside := session.inbox.loop.gateway.outside

def withOutside (session : Session) (outside : Outside) : Session :=
  let loop := session.inbox.loop
  let gateway := loop.gateway.withHost { loop.gateway.toHost with outside := outside }
  { session with inbox := { session.inbox with loop := { loop with gateway := gateway } } }

/-- Append events to the run log.  A log that cannot be written is passed over. -/
def writeLog (logger : Option RunLogger) (moment : Nat) (events : List LogEvent)
    (store : FileStore) : FileStore :=
  match logger with
  | none => store
  | some logger =>
      events.foldl (fun store event => (logger.append store event moment moment).2) store

/-- Give the edges what they need to know before the next event: the clock, whether
the service could be started, and whether its latest process can be written to. -/
def prepare (session : Session) : Session :=
  let outside := session.outside
  let launches := session.programs.launchOutcomes outside.files session.setup.launch
  let writes := (session.services.getLast?.map ServiceProcess.writeOutcomes).getD []
  session.withOutside
    { outside with clock := session.clock, launchOutcomes := launches, writeOutcomes := writes }

/-- Start the processes that were asked for, give all processes the lines that were
written to them, and kill those that are to end. -/
def serveProcesses (session : Session) (services : List ServiceProcess) :
    List ServiceProcess :=
  let outside := session.outside
  let started := outside.launched.map fun generation =>
    session.programs.start outside.files session.setup.launch generation session.now
  (services ++ started).map fun process =>
    let given := (outside.written.filter fun written =>
      written.generation = process.generation).foldl
        (fun process written => process.giveLine session.now written.line) process
    if outside.killed.contains process.generation then given.kill session.now else given

/-- The events of processes that are cut off now and were not before. -/
def cutOffEvents (before after : List ServiceProcess) : List LogEvent :=
  let known := (before.filter (·.isCutOff)).map ServiceProcess.generation
  (after.filter fun process => process.isCutOff && !known.contains process.generation).map
    ServiceProcess.cutOffEvent

/-- Carry out what the relay did at its edges, and forget that it did it. -/
def carryOut (session : Session) : Session :=
  let outside := session.outside
  let services := session.serveProcesses session.services
  let sent := String.join (outside.replies.map fun line => line ++ "\n")
  let events := outside.journal ++ cutOffEvents session.services services
  let files := writeLog session.logger session.clock events outside.files
  let settled :=
    { outside with
      files := { files with requested := [] }
      launched := [], written := [], killed := [], replies := [], emissions := [], journal := [] }
  { session.withOutside settled with services := services, sent := session.sent ++ sent }

/-- Let the reports of the processes up to the present arrive.  Processes that have
nothing more to report are forgotten. -/
def collect (session : Session) : Session :=
  let taken := session.services.map (·.takeReports session.now)
  { session with
    services := (taken.map Prod.snd).filter (!·.isDone)
    inbox := session.inbox.arrive (taken.flatMap Prod.fst) }

/-- The moment at which the next process reports something. -/
def nextReport? (session : Session) : Option Nat :=
  (session.services.filterMap ServiceProcess.nextMoment?).min?

/-- Let time pass up to the next report or timer; `none` if there will be neither. -/
def wait? (session : Session) : Option Session :=
  match session.nextReport?, session.inbox.nextDue? with
  | none, none => none
  | some moment, none =>
      some ({ session with inbox := session.inbox.waitUntil moment }).collect
  | none, some due => some { session with inbox := session.inbox.elapse due }
  | some moment, some due =>
      if moment ≤ due then
        some ({ session with inbox := session.inbox.waitUntil moment }).collect
      else some { session with inbox := session.inbox.elapse due }

/-- Give the timers that are ready their turns, and let time pass if none of them
elapsed. -/
def settleOrWait? (session : Session) : Option Session :=
  let settled := { session with inbox := session.inbox.settle }
  if settled.inbox.waiting.isEmpty then settled.wait? else some settled

/-- Handle events until the loop ends, or until nothing will happen any more. -/
def run : (fuel : Nat) → Session → Session
  | 0, session => session
  | fuel + 1, session =>
      if session.inbox.loop.isEnded then session
      else
        match session.inbox.waiting with
        | [] =>
            match session.settleOrWait? with
            | none => session
            | some session => run fuel session
        | _ :: _ =>
            let prepared := session.prepare
            run fuel ({ prepared with
              inbox := prepared.inbox.deliver prepared.setup }).carryOut

def eventFuel : Nat := 1000000

/-- What the client sends: its lines, and the end of its input. -/
def clientEvents (input : List UInt8) : List Event :=
  (Text.linesOf input).map .clientLine ++ [.clientClosed]

/-- What a session comes to: the code it ends with or a failure, what was written to
the client, and the files afterwards. -/
structure Outcome where
  result : Except Failure Nat
  output : String
  files : FileStore

def startedEvent (settings : Settings) (scope : Scope) : LogEvent :=
  ⟨.info, "process.started",
    Json.ofMembers
      [("working_dir", .string scope.workingDirectory),
        ("command", .string settings.service.command),
        ("browser", .string settings.service.browser),
        ("eager_start", .bool settings.service.eagerStart)]⟩

def stoppedEvent : LogEvent := ⟨.info, "process.stopped", .object []⟩

def loggerFor (settings : Settings) (scope : Scope) : Option RunLogger :=
  if settings.logging.enabled then
    some ⟨scope.resolve settings.logging.logFile, settings.logging.maxPayload,
      settings.logging.budget⟩
  else none

/-- Serve a client under settings: start the event loop, let the client's input arrive
and handle all that follows. -/
def serve (programs : Programs) (settings : Settings) (scope : Scope) (input : List UInt8)
    (startedAt : Nat) (store : FileStore) : Session :=
  let resolved := settings.resolvePaths scope
  let setup : Setup := ⟨resolved, settings.launchRequest scope⟩
  let outcomes := programs.launchOutcomes store setup.launch
  let outside : Outside :=
    { clock := startedAt, files := store, launchOutcomes := outcomes }
  let inbox := (Inbox.ofLoop (EventLoop.start setup outside)).arrive (clientEvents input)
  let session : Session :=
    { programs := programs
      setup := setup
      inbox := inbox
      logger := loggerFor settings scope
      startedAt := startedAt }
  session.carryOut.run eventFuel

/-- Run the relay on the arguments of a command line, with the programs of a system. -/
def executeOn (programs : Programs) (arguments : List String) (input : List UInt8)
    (startedAt : Nat) (store : FileStore) : Outcome :=
  match CommandLine.read arguments with
  | .error failure => ⟨.error failure, "", store⟩
  | .ok .showVersion => ⟨.ok 0, CommandLine.versionText, store⟩
  | .ok .showHelp => ⟨.ok 0, CommandLine.helpText, store⟩
  | .ok (.serve overrides) =>
      match Settings.load overrides "." store with
      | (.error failure, store) => ⟨.error failure, "", store⟩
      | (.ok (settings, scope), store) =>
          let logger := loggerFor settings scope
          let store := writeLog logger startedAt [startedEvent settings scope] store
          let session := serve programs settings scope input startedAt store
          let files := writeLog logger session.clock [stoppedEvent] session.outside.files
          ⟨.ok 0, session.sent, files⟩

/-- The files that a run of the relay reads, as far as the files read already tell:
the settings, the recorded actions and the run log. -/
def filesRead (arguments : List String) (store : FileStore) : List String :=
  match CommandLine.read arguments with
  | .ok (.serve overrides) =>
      let config := (overrides.configPath.map (Path.join ".")).toList
      match (Settings.load overrides "." store).1 with
      | .ok (settings, scope) =>
          let resolved := settings.resolvePaths scope
          config ++ [resolved.recording.actionLogPath, resolved.logging.logFile]
      | .error _ => config
  | _ => []

/-- The directory in which the service of a run works, as far as the files read already
tell. -/
def directoryUsed? (arguments : List String) (store : FileStore) : Option String :=
  match CommandLine.read arguments with
  | .ok (.serve overrides) =>
      match (Settings.load overrides "." store).1 with
      | .ok (_, scope) => some scope.workingDirectory
      | .error _ => none
  | _ => none

end Session

end BrowserRelay
