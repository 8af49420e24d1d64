import BrowserRelay.Message.Envelope
import BrowserRelay.Message.ServiceMessage
import BrowserRelay.Relay.Supervisor

/-!
# Calls in flight and requests in waiting

The exchange adds to the host what is needed to pass requests on: the health of
the service, the calls that were written to it and not answered yet, those that
timed out, and the requests that wait for the service to be ready.
-/

namespace BrowserRelay

/-- What to do with the response to a request. -/
inductive ResponsePlan where
  /-- Pass it on. -/
  | relay
  /-- Add the relay's own tool to the list of tools in it. -/
  | mergeTools
  /-- Pass it on, and take the page for the present one if it is a success. -/
  | navigate (url : String)
  deriving DecidableEq

/-- A call that was written to the service process of a generation. -/
structure PendingCall where
  id : RequestId
  plan : ResponsePlan
  generation : Nat
  deriving DecidableEq

/-- A call that timed out, and the generation that may still answer it. -/
structure ExpiredCall where
  id : RequestId
  generation : Nat
  deriving DecidableEq

/-- A client line that waits to be written to the service, and how often writing
it has failed. -/
structure QueuedRequest where
  id : Option RequestId
  line : String
  plan : ResponsePlan
  attempts : Nat := 0
  deriving DecidableEq

/-- What is known about the probes: the stamp of the latest, whether it is still
unanswered, and how many in a row went unanswered. -/
structure Health where
  lastStamp : Nat := 0
  awaiting : Bool := false
  missed : Nat := 0
  deriving DecidableEq

/-- How a request was answered: with the response of the service, or with a failure. -/
inductive Answer where
  | response (line : String)
  | failed (failure : Failure)
  deriving DecidableEq

/-- The line in which the client is told the answer to a request. -/
def Answer.line (id : RequestId) : Answer → String
  | response line => line
  | failed failure => Envelope.errorLineFor (some id) failure

/-- What the relay did with a line. -/
inductive Deed where
  /-- It accepted a request of the client, to which an answer is owed from now on. -/
  | accepted (id : RequestId)
  /-- It took a message of the client in, to pass it on. -/
  | forwarded (entry : QueuedRequest)
  /-- It wrote a message of the client to the process of a generation. -/
  | written (generation : Nat) (entry : QueuedRequest)
  /-- It failed to write a message of the client to the process of a generation. -/
  | refused (generation : Nat) (entry : QueuedRequest)
  /-- It wrote a probe to the process of a generation. -/
  | probed (generation : Nat) (id : RequestId) (line : String)
  /-- It answered a request that it had accepted. -/
  | answered (id : RequestId) (answer : Answer)
  /-- It sent the client a line that answers no request it had accepted. -/
  | told (line : String)
  deriving DecidableEq

/-- The host with the probes, the calls and the queue.  The ledger keeps the deeds of
the relay in their order; nothing that the relay does depends on it. -/
structure Exchange extends Host where
  health : Health := {}
  pending : List PendingCall := []
  expired : List ExpiredCall := []
  queue : List QueuedRequest := []
  ledger : List Deed := []

/-! ## The queue -/

namespace RequestQueue

def hasId (id : RequestId) (entry : QueuedRequest) : Bool := entry.id = some id

def find? (queue : List QueuedRequest) (id : RequestId) : Option QueuedRequest :=
  queue.find? (hasId id)

/-- The queue without the first entry with an identifier. -/
def remove (queue : List QueuedRequest) (id : RequestId) : List QueuedRequest :=
  queue.eraseP (hasId id)

def enqueue (queue : List QueuedRequest) (entry : QueuedRequest) : List QueuedRequest :=
  queue ++ [entry]

def requeueFront (queue : List QueuedRequest) (entry : QueuedRequest) : List QueuedRequest :=
  entry :: queue

def contains (queue : List QueuedRequest) (id : RequestId) : Bool :=
  queue.any (hasId id)

end RequestQueue

/-! ## The calls -/

namespace CallTable

def find? (calls : List PendingCall) (id : RequestId) : Option PendingCall :=
  calls.find? fun call => call.id = id

def remove (calls : List PendingCall) (id : RequestId) : List PendingCall :=
  calls.filter fun call => call.id ≠ id

/-- The calls with one more, in place of one with its identifier. -/
def insert (calls : List PendingCall) (call : PendingCall) : List PendingCall :=
  remove calls call.id ++ [call]

def ofGeneration (calls : List PendingCall) (generation : Nat) : List PendingCall :=
  calls.filter fun call => call.generation = generation

end CallTable

namespace Exchange

def withHost (exchange : Exchange) (host : Host) : Exchange :=
  { exchange with toHost := host }

def enter (exchange : Exchange) (deed : Deed) : Exchange :=
  { exchange with ledger := exchange.ledger ++ [deed] }

def isPending (exchange : Exchange) (id : RequestId) : Bool :=
  (CallTable.find? exchange.pending id).isSome

/-! ## Probes -/

def isProbeId (setup : Setup) (id : RequestId) : Bool :=
  match id.asText? with
  | none => false
  | some text => setup.settings.health.idPrefix.toList.isPrefixOf text.toList

/-- Forget what is known about the probes of a process that is gone. -/
def resetHealth (exchange : Exchange) : Exchange :=
  { exchange with health := { exchange.health with awaiting := false, missed := 0 } }

/-- The stamp of the next probe: the time, or one more than the latest stamp if the
clock has not moved on. -/
def nextStamp (exchange : Exchange) : Nat :=
  max exchange.outside.nowMillis (exchange.health.lastStamp + 1)

def probeId (setup : Setup) (stamp : Nat) : RequestId :=
  .text (setup.settings.health.idPrefix ++ toString stamp)

def takeProbeId (setup : Setup) (exchange : Exchange) : RequestId × Exchange :=
  let stamp := exchange.nextStamp
  (probeId setup stamp, { exchange with health := { exchange.health with lastStamp := stamp } })

/-- What an attempt to probe the service led to. -/
inductive ProbeOutcome where
  | sent (id : RequestId) (demoted : Bool)
  | startRequested
  | startFailed (failure : Failure)
  | writeFailed
  deriving DecidableEq

/-- Count a probe that went unanswered, and take the service for not ready when
there were too many: whether it was, and the exchange after it. -/
def countMissed (setup : Setup) (exchange : Exchange) : Bool × Exchange :=
  if exchange.health.awaiting then
    let missed := exchange.health.missed + 1
    let counted := { exchange with health := { exchange.health with missed := missed } }
    let tolerated := setup.settings.health.maxMissedProbes
    if 0 < tolerated ∧ tolerated ≤ missed ∧ exchange.isReady then
      (true,
        counted.withHost
          (counted.toHost.markNotReady.note .warning "health.demoted"
            [("missed", .ofNat missed), ("generation", .ofNat exchange.generation)]))
    else (false, counted)
  else (false, exchange)

def sendProbe (setup : Setup) (exchange : Exchange) (demoted : Bool) : ProbeOutcome × Exchange :=
  let (id, stamped) := exchange.takeProbeId setup
  let shown := ("id", Json.string id.display)
  let line := Envelope.requestLine id setup.settings.health.method none
  match stamped.toHost.writeLine line with
  | (.error failure, host) =>
      (.writeFailed,
        stamped.withHost
          ((host.cancel .probeInterval).markNotReady.note .warning "health.probe.write_failed"
            [shown, ("error", .string failure.message)]))
  | (.ok (), host) =>
      let probed := stamped.enter (.probed stamped.generation id line)
      (.sent id demoted,
        { probed.withHost (host.note .debug "health.probe.sent" [shown]) with
          health := { stamped.health with awaiting := true } })

/-- Probe the service, or start it if there is no process. -/
def probe (setup : Setup) (exchange : Exchange) : ProbeOutcome × Exchange :=
  if exchange.hasProcess then
    let (demoted, counted) := exchange.countMissed setup
    counted.sendProbe setup demoted
  else
    match exchange.toHost.start setup with
    | (.ok _, host) => (.startRequested, exchange.withHost host)
    | (.error failure, host) => (.startFailed failure, exchange.withHost host)

/-- A probe was answered: whether this made the service ready, and the exchange
after it. -/
def onProbeResponse (setup : Setup) (exchange : Exchange) : Bool × Exchange :=
  let answered := exchange.resetHealth
  match exchange.state with
  | .starting =>
      (true,
        answered.withHost
          (((answered.toHost.markReady.cancel .startupDeadline).schedule .probeInterval
            (.every setup.settings.health.interval)).note .info "service.ready"
            [("generation", .ofNat exchange.generation)]))
  | _ => (false, answered)

/-! ## Passing requests on -/

/-- What an attempt to pass a request on led to.  Orphaned calls were written to a
process that is gone and will never be answered. -/
inductive DispatchOutcome where
  | queued
  | sent
  | retrying (orphaned : List PendingCall)
  | respawnFailed (failure : Failure) (orphaned : List PendingCall)
  | abandoned (entry : QueuedRequest) (failure : Failure) (orphaned : List PendingCall)
  deriving DecidableEq

/-- Note a request that was written to the present process. -/
def addPending (exchange : Exchange) (entry : QueuedRequest) : Exchange :=
  match entry.id with
  | none => exchange
  | some id =>
      { exchange with
        pending := CallTable.insert exchange.pending ⟨id, entry.plan, exchange.generation⟩ }

/-- Take the calls of a generation out of the tables.  Its expired calls are
forgotten. -/
def takeGeneration (exchange : Exchange) (generation : Nat) : List PendingCall × Exchange :=
  (CallTable.ofGeneration exchange.pending generation,
    { exchange with
      pending := exchange.pending.filter fun call => call.generation ≠ generation
      expired := exchange.expired.filter fun call => call.generation ≠ generation })

/-- Give up the present process, and take its calls out of the tables. -/
def giveUp (exchange : Exchange) : List PendingCall × Exchange :=
  (exchange.withHost exchange.toHost.teardown).takeGeneration exchange.generation

/-- Writing a request has failed: the process is given up, and the request goes back
to the head of the queue for a new process unless it has failed too often. -/
def afterFailedWrite (setup : Setup) (exchange : Exchange) (entry : QueuedRequest)
    (failure : Failure) : DispatchOutcome × Exchange :=
  let (orphaned, bare) := exchange.giveUp
  let failed := { entry with attempts := entry.attempts + 1 }
  if setup.settings.service.maxWriteRetries < failed.attempts then
    (.abandoned failed failure orphaned, bare)
  else
    let requeued := { bare with queue := RequestQueue.requeueFront bare.queue failed }
    match requeued.toHost.start setup with
    | (.ok _, host) => (.retrying orphaned, requeued.withHost host)
    | (.error failure, host) => (.respawnFailed failure orphaned, requeued.withHost host)

/-- Pass a request on to a ready service; for any other it waits in the queue. -/
def dispatch (setup : Setup) (exchange : Exchange) (entry : QueuedRequest) :
    DispatchOutcome × Exchange :=
  if exchange.isReady then
    match exchange.toHost.writeLine entry.line with
    | (.ok (), host) =>
        (.sent,
          ((exchange.withHost host).enter (.written exchange.generation entry)).addPending entry)
    | (.error failure, host) =>
        ((exchange.withHost host).enter (.refused exchange.generation entry)).afterFailedWrite
          setup entry failure
  else (.queued, { exchange with queue := RequestQueue.enqueue exchange.queue entry })

/-- Pass waiting requests on for as long as the service stays ready, up to a
number of them. -/
def drainUpTo (setup : Setup) : Nat → Exchange → List DispatchOutcome × Exchange
  | 0, exchange => ([], exchange)
  | count + 1, exchange =>
      if exchange.isReady then
        match exchange.queue with
        | [] => ([], exchange)
        | entry :: rest =>
            let (outcome, exchange) := ({ exchange with queue := rest }).dispatch setup entry
            let (outcomes, exchange) := drainUpTo setup count exchange
            (outcome :: outcomes, exchange)
      else ([], exchange)

/-- Pass waiting requests on for as long as the service stays ready.  Every request
that is passed on leaves the queue, so there are no more of them than wait now. -/
def drain (setup : Setup) (exchange : Exchange) : List DispatchOutcome × Exchange :=
  drainUpTo setup exchange.queue.length exchange

/-! ## Responses -/

/-- What a line from the service turns out to be. -/
inductive ServiceOutput where
  /-- The response to a probe. -/
  | probe
  /-- The response to a pending call. -/
  | matched (call : PendingCall) (message : ServiceMessage) (raw : String)
  /-- A request, a notification, or a response that nobody waits for. -/
  | unmatched (raw : String)
  /-- The response to a call that has timed out. -/
  | late (id : RequestId)
  /-- No message at all. -/
  | garbage (failure : Failure)

/-- Find out what a line from the service is.  A call that it answers is taken out
of the tables. -/
def classify (setup : Setup) (exchange : Exchange) (line : String) : ServiceOutput × Exchange :=
  match ServiceMessage.parse line with
  | .error failure => (.garbage failure, exchange)
  | .ok message =>
      let raw := Text.trim line
      match message.id, message.method with
      | some id, none =>
          if isProbeId setup id then (.probe, exchange)
          else
            match CallTable.find? exchange.pending id with
            | some call =>
                (.matched call message raw,
                  { exchange with pending := CallTable.remove exchange.pending id })
            | none =>
                if exchange.expired.any fun call => call.id = id then
                  (.late id,
                    { exchange with
                      expired := exchange.expired.filter fun call => call.id ≠ id })
                else (.unmatched raw, exchange)
      | _, _ => (.unmatched raw, exchange)

/-- Give up a pending call whose time is over.  Its response will be late. -/
def expire (exchange : Exchange) (id : RequestId) : Option PendingCall × Exchange :=
  match CallTable.find? exchange.pending id with
  | none => (none, exchange)
  | some call =>
      (some call,
        { exchange with
          pending := CallTable.remove exchange.pending id
          expired := (exchange.expired.filter fun other => other.id ≠ id) ++
            [⟨id, call.generation⟩] })

end Exchange

end BrowserRelay
