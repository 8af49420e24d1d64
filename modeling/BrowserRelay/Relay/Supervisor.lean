import BrowserRelay.Config.Settings
import BrowserRelay.Relay.Launch
import BrowserRelay.Relay.Outside
import BrowserRelay.Timers.Table

/-!
# Supervising the service process

There is at most one service process.  Every start opens a new generation, and
what belongs to an earlier generation is stale and changes nothing.  A process
that fails to end cleanly is started again after a while.
-/

namespace BrowserRelay

/-- What a relay is set up with: its settings and how its service is started. -/
structure Setup where
  settings : Settings := {}
  launch : LaunchRequest

/-- Whether there is a service process, and whether it has answered a probe. -/
inductive ServiceState where
  | noProcess
  | starting
  | ready
  deriving DecidableEq

/-- What a request to start the service led to. -/
inductive StartOutcome where
  | alreadyRunning (ready : Bool)
  | spawned (generation : Nat)
  deriving DecidableEq

/-- What the report of a process's end led to. -/
inductive ExitOutcome where
  | stale
  | stopped
  | restartScheduled
  deriving DecidableEq

/-- The service process, its generation, the armed timers and the edges. -/
structure Host where
  state : ServiceState := .noProcess
  generation : Nat := 0
  timers : TimerTable := {}
  outside : Outside := {}

namespace Host

/-- Note an event. -/
def note (host : Host) (level : LogLevel) (type : String) (payload : List (String × Json)) :
    Host :=
  { host with outside := host.outside.note level type payload }

def schedule (host : Host) (timer : Timer) (rule : TimerRule) : Host :=
  { host with timers := host.timers.schedule timer rule }

def cancel (host : Host) (timer : Timer) : Host :=
  { host with timers := host.timers.cancel timer }

def hasProcess (host : Host) : Bool := host.state ≠ .noProcess

def isReady (host : Host) : Bool := host.state = .ready

/-- Whether a generation is that of the present process. -/
def isCurrent (host : Host) (generation : Nat) : Bool :=
  host.hasProcess && generation = host.generation

/-- Disarm the timers that watch over the present process. -/
def cancelProbeTimers (host : Host) : Host :=
  ((host.cancel .firstProbe).cancel .probeInterval).cancel .startupDeadline

/-- Arm the timers that watch over a process just started. -/
def armStartTimers (setup : Setup) (host : Host) : Host :=
  (host.schedule .firstProbe (.once setup.settings.health.initialDelay)).schedule
    .startupDeadline (.once setup.settings.service.startupTimeout)

/-- Start the service unless there is a process already.  The generation counts
every attempt. -/
def start (setup : Setup) (host : Host) : Except Failure StartOutcome × Host :=
  match host.state with
  | .starting => (.ok (.alreadyRunning false), host)
  | .ready => (.ok (.alreadyRunning true), host)
  | .noProcess =>
      let generation := host.generation + 1
      let calm := host.cancel .restart
      let program := Json.string setup.launch.program
      match calm.outside.launch generation with
      | (.error failure, outside) =>
          (.error failure,
            ({ calm with generation := generation, outside := outside }).note
              .failure "service.spawn.failed"
              [("program", program), ("generation", .ofNat generation),
                ("error", .string failure.message)])
      | (.ok (), outside) =>
          let started : Host :=
            { calm with state := .starting, generation := generation, outside := outside }
          (.ok (.spawned generation),
            (started.armStartTimers setup).note .info "service.spawned"
              [("program", program), ("args", .ofStrings setup.launch.arguments),
                ("generation", .ofNat generation)])

def markReady (host : Host) : Host :=
  match host.state with
  | .noProcess => host
  | _ => { host with state := .ready }

def markNotReady (host : Host) : Host :=
  match host.state with
  | .noProcess => host
  | _ => { host with state := .starting }

def writeLine (host : Host) (line : String) : Except Failure Unit × Host :=
  if host.hasProcess then
    let (result, outside) := host.outside.writeLine host.generation line
    (result, { host with outside := outside })
  else (.error (.serviceWrite "browser service is not running"), host)

def release (host : Host) : Host :=
  ({ host with state := .noProcess }).cancelProbeTimers

/-- The process of a generation has exited.  It is started again later unless it
exited with code zero; a process ended by a signal has no code. -/
def onExit (setup : Setup) (host : Host) (generation : Nat) (code : Option Int) :
    ExitOutcome × Host :=
  if host.isCurrent generation then
    if code = some 0 then
      (.stopped,
        host.release.note .info "service.exited"
          [("generation", .ofNat generation), ("code", .ofInt 0)])
    else
      let backoff := setup.settings.service.restartBackoff
      (.restartScheduled,
        (host.release.note .warning "service.exited"
          [("generation", .ofNat generation), ("code", .ofOption (code.map Json.ofInt)),
            ("restart_in_ms", .ofNat backoff)]).schedule .restart (.once backoff))
  else (.stale, host)

/-- The process of a generation has failed.  It is not started again. -/
def onFailed (host : Host) (generation : Nat) (detail : String) : ExitOutcome × Host :=
  if host.isCurrent generation then
    (.stopped,
      host.release.note .failure "service.failed"
        [("generation", .ofNat generation), ("error", .string detail)])
  else (.stale, host)

/-- Give up a process that can no longer be written to. -/
def teardown (host : Host) : Host :=
  let outside :=
    if host.hasProcess then (host.outside.kill host.generation).2 else host.outside
  ({ host with state := .noProcess, outside := outside }).cancelProbeTimers.note
    .warning "service.teardown" [("generation", .ofNat host.generation)]

def terminate (host : Host) : Host :=
  let calm := { host with timers := host.timers.cancelAll, state := .noProcess }
  if host.hasProcess then
    match host.outside.kill host.generation with
    | (.ok (), outside) => { calm with outside := outside }
    | (.error failure, outside) =>
        ({ calm with outside := outside }).note .warning "service.kill.failed"
          [("generation", .ofNat host.generation), ("error", .string failure.message)]
  else calm

end Host

end BrowserRelay
