import BrowserRelay.Relay.Gateway
import Mathlib.Logic.Function.Basic
import Mathlib.Logic.Relation

/-!
# The traffic of the relay

The traffic of an exchange is what its accounting is about: the state of the service, the
armed timers, the lines written to the service, the tables, the queue and the ledger.  The
clock, the files, the recording and the replies are left out.

Whatever the gateway does with the traffic is made of few moves.  An invariant of the
traffic that every move keeps is kept by the gateway.
-/

namespace BrowserRelay

/-! ## Rules of armed timers -/

namespace TimerTable

/-- When a timer fires, if it is armed. -/
def rule? (table : TimerTable) (timer : Timer) : Option TimerRule :=
  (table.arm? timer).map TimerArm.rule

theorem isArmed_eq (table : TimerTable) (timer : Timer) :
    table.isArmed timer = (table.rule? timer).isSome := by
  simp [isArmed, rule?]

@[simp]
theorem rule?_cancel (table : TimerTable) (timer : Timer) :
    (table.cancel timer).rule? = Function.update table.rule? timer none := by
  funext other
  by_cases same : other = timer
  · subst other
    simp [rule?, arm?, cancel, List.find?_eq_none]
  · have kept (arm : TimerArm) : (arm.timer ≠ timer ∧ arm.timer = other) ↔ arm.timer = other :=
      and_iff_right_of_imp fun found => found ▸ same
    simp only [rule?, arm?, cancel, List.find?_filter, decide_eq_true_eq, kept,
      Function.update_of_ne same]

@[simp]
theorem rule?_schedule (table : TimerTable) (timer : Timer) (rule : TimerRule) :
    (table.schedule timer rule).rule? = Function.update table.rule? timer (some rule) := by
  have cancelled := rule?_cancel table timer
  funext other
  have before := congrFun cancelled other
  simp only [rule?, arm?, schedule, List.find?_append, List.find?_singleton] at before ⊢
  by_cases same : other = timer
  · subst other
    simp only [Function.update_self, Option.map_eq_none_iff] at before
    simp [before]
  · rw [Function.update_of_ne same] at before ⊢
    simpa [Ne.symm same] using before

end TimerTable

/-! ## The process -/

theorem Host.hasProcess_iff {host : Host} : host.hasProcess = true ↔ host.state ≠ .noProcess := by
  simp [hasProcess]

theorem Host.hasProcess_eq_false_iff {host : Host} :
    host.hasProcess = false ↔ host.state = .noProcess := by
  simp [hasProcess]

/-! ## The traffic -/

/-- What the accounting of an exchange is about. -/
structure Traffic where
  state : ServiceState
  generation : Nat
  armed : Timer → Option TimerRule
  written : List WrittenLine
  pending : List PendingCall
  expired : List ExpiredCall
  queue : List QueuedRequest
  ledger : List Deed

/-- The traffic of an exchange. -/
def Exchange.traffic (exchange : Exchange) : Traffic where
  state := exchange.state
  generation := exchange.generation
  armed := exchange.timers.rule?
  written := exchange.outside.written
  pending := exchange.pending
  expired := exchange.expired
  queue := exchange.queue
  ledger := exchange.ledger

namespace Traffic

/-- Enter a deed into the ledger. -/
def enter (traffic : Traffic) (deed : Deed) : Traffic :=
  { traffic with ledger := traffic.ledger ++ [deed] }

/-- Arm a timer. -/
def arm (traffic : Traffic) (timer : Timer) (rule : TimerRule) : Traffic :=
  { traffic with armed := Function.update traffic.armed timer (some rule) }

/-- Disarm a timer. -/
def disarm (traffic : Traffic) (timer : Timer) : Traffic :=
  { traffic with armed := Function.update traffic.armed timer none }

/-! ### The process -/

/-- A process is started. -/
def launch (setup : Setup) (traffic : Traffic) : Traffic :=
  { ((traffic.disarm .restart).arm .firstProbe (.once setup.settings.health.initialDelay)).arm
      .startupDeadline (.once setup.settings.service.startupTimeout) with
    state := .starting
    generation := traffic.generation + 1 }

/-- A process cannot be started. -/
def failLaunch (traffic : Traffic) : Traffic :=
  { traffic.disarm .restart with generation := traffic.generation + 1 }

/-- The process has become ready. -/
def wake (setup : Setup) (traffic : Traffic) : Traffic :=
  ({ traffic with state := .ready }.disarm .startupDeadline).arm .probeInterval
    (.every setup.settings.health.interval)

/-- The process is taken for not ready. -/
def demote (traffic : Traffic) : Traffic :=
  { traffic with state := .starting }

/-- The process is gone. -/
def release (traffic : Traffic) : Traffic :=
  (({ traffic with state := .noProcess }.disarm .firstProbe).disarm .probeInterval).disarm
    .startupDeadline

/-- The process is started again after a while, if it is said after which. -/
def armRestart (traffic : Traffic) (backoff : Option Nat) : Traffic :=
  { traffic with
    armed :=
      match backoff with
      | none => traffic.armed
      | some backoff => Function.update traffic.armed .restart (some (.once backoff)) }

/-- A probe is written to the process. -/
def probe (traffic : Traffic) (id : RequestId) (line : String) : Traffic :=
  { traffic.enter (.probed traffic.generation id line) with
    written := traffic.written ++ [⟨traffic.generation, line⟩] }

/-! ### Answers -/

/-- A request is answered. -/
def answer (traffic : Traffic) (id : RequestId) (answer : Answer) : Traffic :=
  traffic.enter (.answered id answer)

/-- A request is answered with a failure, and its deadline disarmed. -/
def fail (traffic : Traffic) (id : RequestId) (failure : Failure) : Traffic :=
  (traffic.disarm (.callDeadline id)).answer id (.failed failure)

/-- Requests are answered with a failure one after the other, and their deadlines
disarmed. -/
def failAll (traffic : Traffic) (ids : List RequestId) (failure : Failure) : Traffic :=
  { traffic with
    armed := fun timer =>
      if timer ∈ ids.map Timer.callDeadline then none else traffic.armed timer
    ledger := traffic.ledger ++ ids.map fun id => .answered id (.failed failure) }

/-- Every request in the queue is answered with a failure. -/
def failQueue (traffic : Traffic) (failure : Failure) : Traffic :=
  ({ traffic with queue := [] }).failAll (traffic.queue.filterMap QueuedRequest.id) failure

/-! ### Calls -/

/-- The identifiers of the calls that were written to the present process. -/
def presentIds (traffic : Traffic) : List RequestId :=
  (CallTable.ofGeneration traffic.pending traffic.generation).map PendingCall.id

/-- The calls that were written to the present process are forgotten. -/
def forget (traffic : Traffic) : Traffic :=
  { traffic with
    pending := traffic.pending.filter fun call => call.generation ≠ traffic.generation
    expired := traffic.expired.filter fun call => call.generation ≠ traffic.generation }

/-- The calls that were written to the present process are answered with a failure. -/
def failPresent (traffic : Traffic) (failure : Failure) : Traffic :=
  traffic.forget.failAll traffic.presentIds failure

/-- If a message is a request, a call of the present process is pending. -/
def addPending (traffic : Traffic) (entry : QueuedRequest) : Traffic :=
  { traffic with
    pending :=
      match entry.id with
      | none => traffic.pending
      | some id => CallTable.insert traffic.pending ⟨id, entry.plan, traffic.generation⟩ }

/-- A message is written to the process. -/
def write (traffic : Traffic) (entry : QueuedRequest) : Traffic :=
  addPending
    { traffic.enter (.written traffic.generation entry) with
      written := traffic.written ++ [⟨traffic.generation, entry.line⟩] }
    entry

/-- A message cannot be written to the process. -/
def refuse (traffic : Traffic) (entry : QueuedRequest) : Traffic :=
  traffic.enter (.refused traffic.generation entry)

/-- A message that could not be written goes back to the head of the queue. -/
def requeue (traffic : Traffic) (entry : QueuedRequest) : Traffic :=
  { traffic with queue := entry :: traffic.queue }

/-- A pending call is no longer waited for. -/
def resolve (traffic : Traffic) (id : RequestId) : Traffic :=
  { traffic with pending := CallTable.remove traffic.pending id }

/-- A pending call is answered with the response to it. -/
def respond (traffic : Traffic) (id : RequestId) (line : String) : Traffic :=
  ((traffic.resolve id).disarm (.callDeadline id)).answer id (.response line)

/-- A pending call has timed out. -/
def expire (traffic : Traffic) (call : PendingCall) : Traffic :=
  { traffic.resolve call.id with
    expired := (traffic.expired.filter fun other => other.id ≠ call.id) ++
      [⟨call.id, call.generation⟩] }

/-- A call that has timed out is answered after all. -/
def forgetExpired (traffic : Traffic) (id : RequestId) : Traffic :=
  { traffic with expired := traffic.expired.filter fun call => call.id ≠ id }

/-- A request is taken out of the queue. -/
def withdraw (traffic : Traffic) (id : RequestId) : Traffic :=
  { traffic with queue := RequestQueue.remove traffic.queue id }

/-! ### Messages of the client -/

/-- A message is accepted; if it is a request, an answer is owed. -/
def accept (traffic : Traffic) (id : Option RequestId) : Traffic :=
  { traffic with ledger := traffic.ledger ++ id.toList.map Deed.accepted }

/-- A message that was accepted is turned away; if it is a request, it is answered. -/
def turnAway (traffic : Traffic) (id : Option RequestId) (failure : Failure) : Traffic :=
  { traffic.accept id with
    ledger := (traffic.accept id).ledger ++
      id.toList.map fun id => .answered id (.failed failure) }

/-- The deadline of a call is armed. -/
def armDeadline (setup : Setup) (traffic : Traffic) (id : Option RequestId) : Traffic :=
  { traffic with
    armed :=
      match id with
      | none => traffic.armed
      | some id =>
          Function.update traffic.armed (.callDeadline id)
            (some (.once setup.settings.service.callTimeout)) }

/-- An accepted message is taken in, behind all others. -/
def takeIn (setup : Setup) (traffic : Traffic) (entry : QueuedRequest) : Traffic :=
  { ((traffic.accept entry.id).armDeadline setup entry.id).enter (.forwarded entry) with
    queue := traffic.queue ++ [entry] }

/-! ### Conditions -/

/-- No call with an identifier is in flight. -/
def IsFree (traffic : Traffic) (id : RequestId) : Prop :=
  CallTable.find? traffic.pending id = none ∧ RequestQueue.contains traffic.queue id = false

/-- A service that is ready leaves nobody waiting. -/
def IsSettled (traffic : Traffic) : Prop :=
  traffic.state = .ready → traffic.queue = []

theorem armed_disarm_of_ne (traffic : Traffic) {timer other : Timer} (apart : other ≠ timer) :
    (traffic.disarm timer).armed other = traffic.armed other :=
  Function.update_of_ne apart _ _

/-! ### Answers beside other changes -/

@[simp]
theorem failAll_nil (traffic : Traffic) (failure : Failure) :
    traffic.failAll [] failure = traffic := by
  simp [failAll]

theorem failAll_cons (traffic : Traffic) (id : RequestId) (ids : List RequestId)
    (failure : Failure) :
    traffic.failAll (id :: ids) failure = (traffic.fail id failure).failAll ids failure := by
  simp only [failAll, fail, answer, enter, disarm, List.map_cons, List.append_assoc,
    List.cons_append, List.nil_append, mk.injEq, true_and, and_true]
  funext timer
  by_cases first : timer = .callDeadline id
  · simp [first]
  · simp [first, Function.update_of_ne]

theorem failAll_launch (setup : Setup) (traffic : Traffic) (ids : List RequestId)
    (failure : Failure) :
    (traffic.launch setup).failAll ids failure = (traffic.failAll ids failure).launch setup := by
  simp only [launch, failAll, disarm, arm, mk.injEq, true_and, and_true]
  funext timer
  cases timer <;> simp

theorem failAll_failLaunch (traffic : Traffic) (ids : List RequestId) (failure : Failure) :
    traffic.failLaunch.failAll ids failure = (traffic.failAll ids failure).failLaunch := by
  simp only [failLaunch, failAll, disarm, mk.injEq, true_and, and_true]
  funext timer
  cases timer <;> simp

end Traffic

/-! ## Moves -/

/-- What the gateway does with the traffic on its own. -/
inductive Move (setup : Setup) : Traffic → Traffic → Prop
  /-- A process is started where there was none. -/
  | launched {traffic : Traffic} (idle : traffic.state = .noProcess) :
      Move setup traffic (traffic.launch setup)
  /-- A process cannot be started where there was none. -/
  | launchFailed {traffic : Traffic} (idle : traffic.state = .noProcess) :
      Move setup traffic traffic.failLaunch
  /-- The process is given a probe. -/
  | probed {traffic : Traffic} (running : traffic.state ≠ .noProcess)
      (id : RequestId) (line : String) : Move setup traffic (traffic.probe id line)
  /-- A probe cannot be written to the process. -/
  | probeRefused {traffic : Traffic} (running : traffic.state ≠ .noProcess) :
      Move setup traffic (traffic.demote.disarm .probeInterval)
  /-- The process has left too many probes unanswered. -/
  | demoted {traffic : Traffic} (ready : traffic.state = .ready) :
      Move setup traffic traffic.demote
  /-- The message that has waited longest is written. -/
  | wrote {traffic : Traffic} {entry : QueuedRequest} {rest : List QueuedRequest}
      (ready : traffic.state = .ready) (waiting : traffic.queue = entry :: rest) :
      Move setup traffic ({ traffic with queue := rest }.write entry)
  /-- The message that has waited longest cannot be written, once too often. -/
  | abandoned {traffic : Traffic} {entry : QueuedRequest} {rest : List QueuedRequest}
      (failure : Failure) (ready : traffic.state = .ready)
      (waiting : traffic.queue = entry :: rest)
      (tooOften : setup.settings.service.maxWriteRetries < entry.attempts + 1) :
      Move setup traffic
        ((({ traffic with queue := rest }.refuse entry).release.failPresent failure).failAll
          entry.id.toList failure)
  /-- The message that has waited longest cannot be written, and keeps its place. -/
  | retried {traffic : Traffic} {entry : QueuedRequest} {rest : List QueuedRequest}
      (failure : Failure) (ready : traffic.state = .ready)
      (waiting : traffic.queue = entry :: rest)
      (again : entry.attempts + 1 ≤ setup.settings.service.maxWriteRetries) :
      Move setup traffic
        ((({ traffic with queue := rest }.refuse entry).release.failPresent failure).requeue
          { entry with attempts := entry.attempts + 1 })
  /-- The process has ended. -/
  | ended {traffic : Traffic} (failure : Failure) (backoff : Option Nat)
      (running : traffic.state ≠ .noProcess) :
      Move setup traffic ((traffic.release.armRestart backoff).failPresent failure)
  /-- Nothing will serve those who wait. -/
  | queueFailed {traffic : Traffic} (failure : Failure) (idle : traffic.state = .noProcess) :
      Move setup traffic (traffic.failQueue failure)
  /-- A call was not responded to in time. -/
  | expired {traffic : Traffic} {id : RequestId} {call : PendingCall} (failure : Failure)
      (found : CallTable.find? traffic.pending id = some call) :
      Move setup traffic ((traffic.expire call).answer id (.failed failure))
  /-- A request has waited too long to be written. -/
  | withdrawn {traffic : Traffic} {id : RequestId} (failure : Failure)
      (unsent : CallTable.find? traffic.pending id = none)
      (waiting : RequestQueue.contains traffic.queue id = true) :
      Move setup traffic ((traffic.withdraw id).answer id (.failed failure))
  /-- The request that started the process has waited too long for it. -/
  | startedLate {traffic : Traffic} {id : RequestId} (failure : Failure)
      (starting : traffic.state = .starting)
      (waiting : RequestQueue.contains traffic.queue id = true) :
      Move setup traffic ((traffic.withdraw id).fail id failure)
  /-- The client is sent a line that answers no request. -/
  | told {traffic : Traffic} (line : String) : Move setup traffic (traffic.enter (.told line))
  /-- A timer elapses. -/
  | elapsed {traffic : Traffic} (timer : Timer) : Move setup traffic (traffic.disarm timer)

/-- Moves one after the other. -/
abbrev Moves (setup : Setup) : Traffic → Traffic → Prop := Relation.ReflTransGen (Move setup)

end BrowserRelay
