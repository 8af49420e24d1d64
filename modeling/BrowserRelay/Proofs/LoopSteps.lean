import BrowserRelay.Proofs.Answers
import BrowserRelay.Proofs.Chores
import BrowserRelay.Relay.EventLoop

/-!
# Steps of the event loop

An event ends the loop, or grants the time of grace, or is handed to the gateway while the loop
goes on.  Whichever it is, the gateway does with the event what it does without the loop, and as
long as the loop goes on, answers are owed to the requests in flight.
-/

namespace BrowserRelay

/-- One thing that happens to an event loop. -/
inductive LoopStep where
  /-- An event is handled, whether or not it was to be expected. -/
  | handle (event : Event)
  /-- A timer elapses, if it is armed.  Its event may be handled at any time. -/
  | elapse (timer : Timer)
  /-- From now on the clock, the files and the outcomes to come are others. -/
  | meanwhile (outside : Outside)

/-- Whether the loop hands an event to the gateway. -/
def Event.isPassed : Event → Bool
  | clientClosed => false
  | shutdown => false
  | timer .shutdownGrace => false
  | _ => true

/-- When the relay ends, a process that is still running is asked to end. -/
theorem Host.outside_terminate (host : Host) :
    ∃ journal, host.terminate.outside =
      { (if host.hasProcess then (host.outside.kill host.generation).2 else host.outside) with
        journal := journal } := by
  unfold terminate
  by_cases present : host.hasProcess = true
  · simp only [present, if_true]
    cases killed : host.outside.kill host.generation with
    | mk result outside => cases result <;> exact ⟨_, rfl⟩
  · simp only [present]
    exact ⟨_, rfl⟩

namespace Gateway

theorem ledger_startService (setup : Setup) (gateway : Gateway) :
    (gateway.startService setup).2.ledger = gateway.ledger := by
  unfold startService
  split <;> rfl

theorem voice_terminate (gateway : Gateway) :
    gateway.terminate.outside.voice = gateway.outside.voice := by
  let noted := gateway.note .info "gateway.terminate"
    [("pending", .ofNat gateway.pending.length), ("queued", .ofNat gateway.queue.length)]
  obtain ⟨journal, ended⟩ := noted.toHost.outside_terminate
  have same : gateway.terminate.outside = noted.toHost.terminate.outside := rfl
  rw [same, ended]
  split
  · exact (noted.outside.serves_kill noted.generation).voice
  · rfl

end Gateway

namespace EventLoop

variable {setup : Setup} {loop : EventLoop}

/-- What one step does. -/
def step (setup : Setup) (loop : EventLoop) : LoopStep → EventLoop
  | .handle event => loop.handle setup event
  | .elapse timer =>
      { loop with
        gateway := { loop.gateway with timers := (loop.gateway.timers.fire timer).2 } }
  | .meanwhile outside =>
      { loop with
        gateway := { loop.gateway with outside := loop.gateway.outside.change outside } }

/-- The loop after steps from the start. -/
def after (setup : Setup) (outside : Outside) (steps : List LoopStep) : EventLoop :=
  steps.foldl (step setup) (start setup outside)

theorem after_concat (setup : Setup) (outside : Outside) (steps : List LoopStep)
    (last : LoopStep) :
    after setup outside (steps ++ [last]) = (after setup outside steps).step setup last :=
  List.foldl_append

/-- The gateway when it has noted that the client has closed its input. -/
def noteClosed (loop : EventLoop) : Gateway :=
  loop.gateway.note .info "client.closed"
    [("pending", .ofNat loop.gateway.pending.length),
      ("queued", .ofNat loop.gateway.queue.length)]

/-- The loop goes on for the time of grace. -/
def grant (setup : Setup) (loop : EventLoop) : EventLoop :=
  { loop with
    gateway := loop.noteClosed.withHost
      (loop.noteClosed.toHost.schedule .shutdownGrace (.once setup.settings.service.shutdownGrace))
    isClosing := true }

/-- The loop ends with an event, and leaves the gateway to be terminated. -/
inductive Ends (setup : Setup) (loop : EventLoop) : Event → Gateway → Prop
  /-- The client has closed its input, and nothing waits for the service. -/
  | closedIdle (idle : loop.gateway.isIdle = true) :
      Ends setup loop .clientClosed loop.noteClosed
  /-- The loop is told to end. -/
  | told : Ends setup loop .shutdown loop.gateway
  /-- The time of grace is over. -/
  | graceOver : Ends setup loop (.timer .shutdownGrace) loop.gateway
  /-- The client has closed its input earlier, and nothing waits for the service any more. -/
  | leftIdle {event : Event} (closing : loop.isClosing = true) (passed : event.isPassed = true)
      (idle : (loop.gateway.handleEvent setup event).isIdle = true) :
      Ends setup loop event (loop.gateway.handleEvent setup event)

/-! ## Events -/

theorem handle_passed (going : loop.isEnded = false) {event : Event}
    (passed : event.isPassed = true) : loop.handle setup event = loop.pass setup event := by
  unfold handle
  rw [going]
  cases event with
  | clientClosed => simp [Event.isPassed] at passed
  | shutdown => simp [Event.isPassed] at passed
  | timer timer =>
      cases timer with
      | shutdownGrace => simp [Event.isPassed] at passed
      | _ => rfl
  | _ => rfl

theorem handle_ended (ended : loop.isEnded = true) (event : Event) :
    loop.handle setup event = loop := by
  simp only [handle, ended, if_true]

theorem Ends.handle (going : loop.isEnded = false) {event : Event} {left : Gateway}
    (ends : loop.Ends setup event left) :
    loop.handle setup event = ({ loop with gateway := left } : EventLoop).finish := by
  cases ends with
  | closedIdle idle =>
      have noted : loop.noteClosed.isIdle = true := idle
      simp only [EventLoop.handle, going, Bool.false_eq_true, if_false]
      exact if_pos noted
  | told =>
      simp only [EventLoop.handle, going, Bool.false_eq_true, if_false]
      rfl
  | graceOver =>
      simp only [EventLoop.handle, going, Bool.false_eq_true, if_false]
      rfl
  | leftIdle closing passed idle =>
      rw [handle_passed going passed, pass]
      simp only [closing, idle, Bool.and_self, if_true]

/-- A loop that goes on ends with an event, or grants the time of grace, or hands the event to the
gateway and goes on. -/
theorem handle_cases (setup : Setup) (going : loop.isEnded = false) (event : Event) :
    (∃ left, loop.Ends setup event left ∧
        loop.handle setup event = ({ loop with gateway := left } : EventLoop).finish) ∨
      (event = .clientClosed ∧ loop.handle setup event = loop.grant setup) ∨
      event.isPassed = true ∧
        loop.handle setup event =
          { loop with gateway := loop.gateway.handleEvent setup event } := by
  have ending {left : Gateway} (ends : loop.Ends setup event left) :
      ∃ left, loop.Ends setup event left ∧
        loop.handle setup event = ({ loop with gateway := left } : EventLoop).finish :=
    ⟨left, ends, ends.handle going⟩
  by_cases passed : event.isPassed = true
  · by_cases finished : loop.isClosing = true ∧ (loop.gateway.handleEvent setup event).isIdle = true
    · exact .inl (ending (.leftIdle finished.1 passed finished.2))
    · refine .inr (.inr ⟨passed, ?_⟩)
      rw [← Bool.and_eq_true] at finished
      rw [handle_passed going passed, pass]
      exact if_neg finished
  · have special : event = .clientClosed ∨ event = .shutdown ∨ event = .timer .shutdownGrace := by
      cases event with
      | clientClosed => exact .inl rfl
      | shutdown => exact .inr (.inl rfl)
      | timer timer =>
          cases timer with
          | shutdownGrace => exact .inr (.inr rfl)
          | _ => exact absurd rfl passed
      | _ => exact absurd rfl passed
    rcases special with rfl | rfl | rfl
    · by_cases idle : loop.gateway.isIdle = true
      · exact .inl (ending (.closedIdle idle))
      · have noted : ¬loop.noteClosed.isIdle = true := idle
        refine .inr (.inl ⟨rfl, ?_⟩)
        simp only [handle, going, Bool.false_eq_true, if_false]
        exact if_neg noted
    · exact .inl (ending .told)
    · exact .inl (ending .graceOver)

/-- The loop ends in exactly these events. -/
theorem isEnded_handle_iff (going : loop.isEnded = false) (event : Event) :
    (loop.handle setup event).isEnded = true ↔ ∃ left, loop.Ends setup event left := by
  constructor
  · intro ended
    rcases loop.handle_cases setup going event with
      ⟨left, ends, -⟩ | ⟨-, handled⟩ | ⟨-, handled⟩
    · exact ⟨left, ends⟩
    · rw [handled] at ended
      exact absurd (going.symm.trans ended) (by simp)
    · rw [handled] at ended
      exact absurd (going.symm.trans ended) (by simp)
  · rintro ⟨left, ends⟩
    rw [ends.handle going]
    rfl

/-- An event with which the loop does not end closes it, or is handed to the gateway. -/
theorem handle_cases_of_goes (setup : Setup) (going : loop.isEnded = false) {event : Event}
    (goes : (loop.handle setup event).isEnded = false) :
    (event = .clientClosed ∧ loop.handle setup event = loop.grant setup) ∨
      event.isPassed = true ∧
        loop.handle setup event =
          { loop with gateway := loop.gateway.handleEvent setup event } := by
  rcases loop.handle_cases setup going event with ⟨left, ends, -⟩ | other
  · have ended := (isEnded_handle_iff going event).mpr ⟨left, ends⟩
    exact absurd (goes.symm.trans ended) (by simp)
  · exact other

/-! ## While the loop goes on -/

/-- What holds of a gateway as long as its loop goes on: nobody waits for a service that is ready,
the tables are about the present process, and answers are owed to the requests in flight. -/
structure IsSound (gateway : Gateway) : Prop where
  settled : gateway.traffic.IsSettled
  present : gateway.traffic.IsPresent
  accountable : gateway.traffic.IsAccountable

namespace IsSound

variable {before after : Gateway}

theorem passage {arrival : Option Arrival} (sound : IsSound before)
    (passage : Passage setup before.traffic arrival after.traffic)
    (settled : after.traffic.IsSettled) : IsSound after :=
  ⟨settled, passage.isPresent sound.present, passage.isAccountable sound.present sound.accountable⟩

/-- Timers play no part in what is kept. -/
theorem timers (sound : IsSound before) (armed : Timer → Option TimerRule)
    (same : after.traffic = { before.traffic with armed := armed }) : IsSound after := by
  have settled := sound.settled
  have present := sound.present
  have accountable := sound.accountable
  refine ⟨?_, ?_, ?_⟩
  · rw [same]
    exact settled
  · rw [same]
    exact ⟨present.pending, present.expired, present.idle⟩
  · rw [same]
    exact accountable

theorem idle (sound : IsSound before) (idle : before.isIdle = true) (id : RequestId) :
    (before.ledger.filterMap Deed.acceptedId?).count id =
      before.ledger.countP (Deed.isAnswerTo id) := by
  have counted := sound.accountable.count_accepted id
  have nobody : before.traffic.inFlight = [] := by
    simp only [Gateway.isIdle, Bool.and_eq_true, List.isEmpty_iff] at idle
    have pending : before.traffic.pending = [] := idle.1
    have queue : before.traffic.queue = [] := idle.2
    rw [Traffic.inFlight, pending, queue]
    rfl
  rwa [nobody, List.count_nil, Nat.add_zero] at counted

end IsSound

/-- At the start the service was asked for if the settings say so. -/
theorem start_eq (setup : Setup) (outside : Outside) :
    ∃ gateway journal, (gateway = Gateway.initial setup outside ∨
        gateway = (Gateway.initial setup outside).step setup .start) ∧
      (start setup outside).gateway =
        { gateway with outside := { gateway.outside with journal := journal } } := by
  unfold start
  dsimp only
  split
  case isTrue =>
    refine ⟨(Gateway.initial setup outside).step setup .start, ?_⟩
    rw [Gateway.step]
    cases (Gateway.initial setup outside).startService setup with
    | mk outcome gateway => cases outcome <;> exact ⟨_, .inr rfl, rfl⟩
  case isFalse => exact ⟨Gateway.initial setup outside, _, .inl rfl, rfl⟩

theorem isSound_initial (setup : Setup) (outside : Outside) :
    IsSound (Gateway.initial setup outside) := by
  have settled := Gateway.settled_initial setup outside
  have start := Gateway.traffic_initial setup outside
  refine ⟨settled, ?_, ?_⟩
  · rw [start]
    exact .of_empty rfl rfl
  · rw [start]
    exact .nothing

theorem isSound_start (setup : Setup) (outside : Outside) :
    IsSound (start setup outside).gateway := by
  have initial := isSound_initial setup outside
  obtain ⟨passage, settled⟩ := (Gateway.initial setup outside).passage_step setup .start
    initial.settled
  obtain ⟨gateway, journal, rfl | rfl, started⟩ := start_eq setup outside
  · rw [started]
    exact initial.timers _ rfl
  · rw [started]
    exact (initial.passage passage settled).timers _ rfl

theorem isSound_handleEvent (setup : Setup) (sound : IsSound loop.gateway) (event : Event) :
    IsSound (loop.gateway.handleEvent setup event) := by
  obtain ⟨passage, settled⟩ := loop.gateway.passage_step setup (.event event) sound.settled
  exact sound.passage passage settled

theorem Ends.isSound {event : Event} {left : Gateway} (ends : loop.Ends setup event left)
    (sound : IsSound loop.gateway) : IsSound left := by
  cases ends with
  | closedIdle => exact sound.timers loop.gateway.traffic.armed rfl
  | told => exact sound
  | graceOver => exact sound
  | leftIdle => exact isSound_handleEvent setup sound event

theorem isSound_step (setup : Setup) (step : LoopStep) (sound : IsSound loop.gateway)
    (goes : (loop.step setup step).isEnded = false) : IsSound (loop.step setup step).gateway := by
  cases step with
  | meanwhile outside => exact sound.timers loop.gateway.traffic.armed rfl
  | elapse timer =>
      exact sound.timers (loop.gateway.timers.fire timer).2.rule? rfl
  | handle event =>
      by_cases ended : loop.isEnded = true
      · rw [step, handle_ended ended]
        exact sound
      have going : loop.isEnded = false := Bool.not_eq_true _ ▸ ended
      rcases handle_cases_of_goes setup going goes with ⟨rfl, handled⟩ | ⟨-, handled⟩
      · rw [step, handled]
        exact sound.timers _ rfl
      · rw [step, handled]
        exact isSound_handleEvent setup sound event

/-- A loop that goes on after a step went on before it. -/
theorem going_of_step {step : LoopStep} (goes : (loop.step setup step).isEnded = false) :
    loop.isEnded = false := by
  cases step with
  | meanwhile outside => exact goes
  | elapse timer => exact goes
  | handle event =>
      by_contra ended
      have finished : loop.isEnded = true := Bool.not_eq_false _ ▸ ended
      rw [EventLoop.step, handle_ended finished] at goes
      exact ended goes

theorem isSound_after (setup : Setup) (outside : Outside) (steps : List LoopStep)
    (goes : (after setup outside steps).isEnded = false) :
    IsSound (after setup outside steps).gateway := by
  induction steps using List.reverseRecOn with
  | nil => exact isSound_start setup outside
  | append_singleton steps last ih =>
      rw [after_concat] at goes ⊢
      exact isSound_step setup last (ih (going_of_step goes)) goes

/-! ## What the loop accepts and answers -/

/-- The request that is accepted in a step. -/
def accepted? (setup : Setup) (loop : EventLoop) : LoopStep → Option RequestId
  | .handle event =>
      if loop.isEnded then none
      else (loop.gateway.accepted? setup (.event event)).bind ClientMessage.answerId
  | _ => none

/-- The requests that are accepted in the course of steps. -/
def acceptedIds (setup : Setup) : EventLoop → List LoopStep → List RequestId
  | _, [] => []
  | loop, first :: steps =>
      (loop.accepted? setup first).toList ++ acceptedIds setup (loop.step setup first) steps

/-- Whether or not the loop ends, what it does and what the client is sent is what the gateway
does with the event. -/
theorem handle_tells (setup : Setup) (going : loop.isEnded = false) (event : Event) :
    (loop.handle setup event).gateway.ledger = (loop.gateway.handleEvent setup event).ledger ∧
      (loop.handle setup event).gateway.outside.voice =
        (loop.gateway.handleEvent setup event).outside.voice := by
  rcases loop.handle_cases setup going event with
    ⟨left, ends, handled⟩ | ⟨rfl, handled⟩ | ⟨-, handled⟩
  · rw [handled]
    cases ends with
    | closedIdle => exact ⟨rfl, Gateway.voice_terminate loop.noteClosed⟩
    | told => exact ⟨rfl, Gateway.voice_terminate loop.gateway⟩
    | graceOver => exact ⟨rfl, Gateway.voice_terminate loop.gateway⟩
    | leftIdle => exact ⟨rfl, Gateway.voice_terminate _⟩
  · rw [handled]
    exact ⟨rfl, rfl⟩
  · rw [handled]
    exact ⟨rfl, rfl⟩

theorem acceptedIds_step (setup : Setup) (step : LoopStep)
    (sound : loop.isEnded = false → IsSound loop.gateway) :
    (loop.step setup step).gateway.ledger.filterMap Deed.acceptedId? =
      loop.gateway.ledger.filterMap Deed.acceptedId? ++ (loop.accepted? setup step).toList := by
  cases step with
  | meanwhile outside => exact (List.append_nil _).symm
  | elapse timer => exact (List.append_nil _).symm
  | handle event =>
      by_cases ended : loop.isEnded = true
      · rw [EventLoop.step, handle_ended ended, accepted?, if_pos ended]
        exact (List.append_nil _).symm
      have going : loop.isEnded = false := Bool.not_eq_true _ ▸ ended
      obtain ⟨passage, -⟩ :=
        loop.gateway.passage_step setup (.event event) (sound going).settled
      obtain ⟨deeds, grows, accepted, -⟩ := passage.grows
      have ledger : (loop.gateway.handleEvent setup event).ledger = loop.gateway.ledger ++ deeds :=
        grows.ledger
      rw [EventLoop.step, (handle_tells setup going event).1, ledger, List.filterMap_append,
        accepted, Gateway.acceptedId?_arrival, accepted?, if_neg ended]

theorem acceptedIds_append (setup : Setup) (loop : EventLoop) (first second : List LoopStep) :
    loop.acceptedIds setup (first ++ second) = loop.acceptedIds setup first ++
      (first.foldl (step setup) loop).acceptedIds setup second := by
  induction first generalizing loop with
  | nil => rfl
  | cons step steps ih => simp only [List.cons_append, acceptedIds, ih, List.append_assoc]; rfl

theorem ledger_start (setup : Setup) (outside : Outside) :
    (start setup outside).gateway.ledger = [] := by
  have nothing : (Gateway.initial setup outside).ledger = [] :=
    congrArg Traffic.ledger (Gateway.traffic_initial setup outside)
  obtain ⟨gateway, journal, rfl | rfl, started⟩ := start_eq setup outside
  · rw [started]
    exact nothing
  · rw [started]
    exact ((Gateway.initial setup outside).ledger_startService setup).trans nothing

/-- The ledger tells which requests were accepted in a run. -/
theorem acceptedIds_after (setup : Setup) (outside : Outside) (steps : List LoopStep) :
    (after setup outside steps).gateway.ledger.filterMap Deed.acceptedId? =
      (start setup outside).acceptedIds setup steps := by
  induction steps using List.reverseRecOn with
  | nil =>
      have nothing : (after setup outside []).gateway.ledger = [] := ledger_start setup outside
      rw [nothing]
      rfl
  | append_singleton steps last ih =>
      have single : ((after setup outside steps).acceptedIds setup [last]) =
          ((after setup outside steps).accepted? setup last).toList := List.append_nil _
      rw [after_concat, acceptedIds_append,
        acceptedIds_step setup last (isSound_after setup outside steps), ih, ← single]
      rfl

end EventLoop

end BrowserRelay
