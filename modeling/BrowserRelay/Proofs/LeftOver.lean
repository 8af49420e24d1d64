import BrowserRelay.Proofs.Mailbox
import BrowserRelay.Proofs.Probes

/-!
# Deadlines that have been left over

When the event of a timer is handled, the gateway looks at its state, but not at which arm of the
timer has elapsed.  So the event of a deadline that has been left over strikes the call with the
same identifier, or the start, that came after the one it was meant for; if there is none, it
changes nothing.  It cannot strike unless a request with that identifier, or an event of the
process, was waiting already when the deadline elapsed.
-/

namespace BrowserRelay

/-- Whether an event is an output or the end of a process. -/
def Event.isOfProcess : Event → Bool
  | serviceOutput _ _ => true
  | serviceExited _ _ => true
  | serviceFailed _ _ => true
  | _ => false

/-- The identifier of the request that the client makes with an event, if it makes one. -/
def Event.requestId? : Event → Option RequestId
  | clientLine line => (ClientMessage.parse line).toOption.bind ClientMessage.answerId
  | _ => none

namespace Gateway

variable {setup : Setup} {gateway : Gateway}

/-- Whether the gateway does anything about the event of a timer. -/
def heeds (gateway : Gateway) : Timer → Bool
  | .firstProbe => true
  | .probeInterval => true
  | .startupDeadline => gateway.state = .starting
  | .restart => gateway.state = .noProcess
  | .callDeadline id => gateway.isInFlight id
  | .shutdownGrace => false

/-- A start makes the next generation, whether or not it succeeds. -/
theorem ne_of_launch {later : Gateway}
    (launch : later.traffic = gateway.traffic.launch setup ∨
      ∃ failure, later.traffic = gateway.traffic.failLaunch.failQueue failure) :
    later ≠ gateway := by
  have next : later.generation = gateway.generation + 1 := by
    rcases launch with launched | ⟨failure, failed⟩
    · exact congrArg Traffic.generation launched
    · exact congrArg Traffic.generation failed
  rintro rfl
  exact Nat.succ_ne_self _ next.symm

/-- Where there is no process one is started, or that fails; otherwise the probe takes a stamp. -/
theorem onProbeTimer_ne (setup : Setup) (gateway : Gateway) :
    gateway.onProbeTimer setup ≠ gateway := by
  by_cases idle : gateway.state = .noProcess
  · exact ne_of_launch (traffic_onProbeTimer_idle setup idle)
  · intro same
    have stamped := lastStamp_onProbeTimer setup idle
    rw [same, Exchange.nextStamp] at stamped
    omega

theorem onRestart_eq_iff : gateway.onRestart setup = gateway ↔ gateway.state ≠ .noProcess := by
  constructor
  · intro same idle
    exact ne_of_launch (traffic_onRestart_idle setup idle) same
  · exact onRestart_running setup

theorem onStartupDeadline_eq_iff :
    gateway.onStartupDeadline setup = gateway ↔ gateway.state ≠ .starting := by
  constructor
  · intro same starting
    simp only [onStartupDeadline, starting] at same
    cases trigger : gateway.startupTrigger with
    | none =>
        simp only [trigger] at same
        have noted := congrArg (fun gateway => gateway.outside.journal.length) same
        simp [note, withHost, Host.note, Outside.note] at noted
    | some id =>
        simp only [trigger] at same
        have forgotten := congrArg Gateway.startupTrigger same
        rw [trigger] at forgotten
        split at forgotten
        case isTrue => exact absurd forgotten (Option.some_ne_none id ∘ Eq.symm)
        case isFalse => exact absurd forgotten (Option.some_ne_none id ∘ Eq.symm)
  · intro other
    unfold onStartupDeadline
    split
    case h_1 starting => exact absurd starting other
    case h_2 => rfl

theorem onCallDeadline_eq_iff {id : RequestId} :
    gateway.onCallDeadline setup id = gateway ↔ gateway.isInFlight id = false := by
  have grows {later : Traffic} {failure : Failure}
      (late : (gateway.onCallDeadline setup id).traffic = later)
      (ledger : later.ledger = gateway.ledger ++ [.answered id (.failed failure)]) :
      gateway.onCallDeadline setup id ≠ gateway := by
    intro same
    have kept : gateway.ledger = gateway.ledger ++ [.answered id (.failed failure)] := by
      rw [← ledger, ← late, same]
      rfl
    exact absurd kept (by simp)
  rcases gateway.traffic_onCallDeadline setup id with
    ⟨call, found, late⟩ | ⟨unsent, ⟨waits, late⟩ | ⟨absent, -⟩⟩
  · have pending : gateway.isInFlight id = true := by
      rw [isInFlight, Exchange.isPending, found, Option.isSome_some, Bool.true_or]
    exact iff_of_false (grows late rfl) (by simp [pending])
  · have waiting : gateway.isInFlight id = true := by
      rw [isInFlight, waits, Bool.or_true]
    exact iff_of_false (grows late rfl) (by simp [waiting])
  · have grounded : gateway.isInFlight id = false := by
      rw [isInFlight, Exchange.isPending, unsent, absent]
      rfl
    refine iff_of_true ?_ grounded
    simp only [onCallDeadline, takeExpired, Exchange.expire, unsent, absent, Bool.false_eq_true,
      if_false]

theorem onTimer_eq_iff (setup : Setup) {timer : Timer} :
    gateway.onTimer setup timer = gateway ↔ gateway.heeds timer = false := by
  cases timer with
  | firstProbe => simp [onTimer, heeds, onProbeTimer_ne]
  | probeInterval => simp [onTimer, heeds, onProbeTimer_ne]
  | startupDeadline => simp [onTimer, heeds, onStartupDeadline_eq_iff]
  | restart => simp [onTimer, heeds, onRestart_eq_iff]
  | callDeadline id => simp [onTimer, heeds, onCallDeadline_eq_iff]
  | shutdownGrace => simp [onTimer, heeds]

/-- The call that is answered when the event of a timer is handled, and what it is told. -/
def lateAnswer? (setup : Setup) (gateway : Gateway) : Timer → Option (RequestId × Failure)
  | .callDeadline id =>
      if gateway.isInFlight id then some (id, .timeout setup.settings.service.callTimeout)
      else none
  | .startupDeadline =>
      if gateway.state = .starting then
        (gateway.startupTrigger.filter (RequestQueue.contains gateway.queue)).map fun id =>
          (id, .startupTimeout setup.settings.service.startupTimeout)
      else none
  | _ => none

/-- The deeds that come with a late answer. -/
def lateDeeds (setup : Setup) (gateway : Gateway) (timer : Timer) : List Deed :=
  (gateway.lateAnswer? setup timer).toList.map fun late => .answered late.1 (.failed late.2)

theorem ledger_onStartupDeadline (setup : Setup) (gateway : Gateway) :
    (gateway.onStartupDeadline setup).ledger =
      gateway.ledger ++ gateway.lateDeeds setup .startupDeadline := by
  cases present : gateway.state with
  | noProcess => simp [onStartupDeadline, lateDeeds, lateAnswer?, present]
  | ready => simp [onStartupDeadline, lateDeeds, lateAnswer?, present]
  | starting =>
      cases trigger : gateway.startupTrigger with
      | none => simp [onStartupDeadline, lateDeeds, lateAnswer?, present, trigger, note, withHost]
      | some id =>
          simp only [onStartupDeadline, lateDeeds, lateAnswer?, present, trigger, if_true]
          cases waits : RequestQueue.contains gateway.queue id with
          | true =>
              simp only [Option.filter_some, waits, if_true]
              exact congrArg (fun later : Gateway => later.ledger) (if_pos waits)
          | false =>
              have absent : ¬RequestQueue.contains gateway.queue id = true := by simp [waits]
              simp only [Option.filter_some, waits]
              exact (congrArg (fun later : Gateway => later.ledger) (if_neg absent)).trans
                (List.append_nil _).symm

theorem ledger_onCallDeadline (setup : Setup) (gateway : Gateway) (id : RequestId) :
    (gateway.onCallDeadline setup id).ledger =
      gateway.ledger ++ gateway.lateDeeds setup (.callDeadline id) := by
  rw [lateDeeds, lateAnswer?, isInFlight, Exchange.isPending]
  rcases gateway.traffic_onCallDeadline setup id with
    ⟨call, found, late⟩ | ⟨unsent, ⟨waits, late⟩ | ⟨absent, late⟩⟩
  · rw [found]
    exact congrArg Traffic.ledger late
  · rw [unsent, waits]
    exact congrArg Traffic.ledger late
  · rw [unsent, absent]
    exact (congrArg Traffic.ledger late).trans (List.append_nil _).symm

theorem ledger_onTimer (setup : Setup) (gateway : Gateway) {timer : Timer}
    (deadline : timer.isDeadline = true) :
    (gateway.onTimer setup timer).ledger = gateway.ledger ++ gateway.lateDeeds setup timer := by
  cases timer with
  | startupDeadline => exact gateway.ledger_onStartupDeadline setup
  | callDeadline id => exact gateway.ledger_onCallDeadline setup id
  | _ => simp [Timer.isDeadline] at deadline

/-! ## A process that is starting -/

/-- The process of a generation is starting. -/
def Starts (gateway : Gateway) (generation : Nat) : Prop :=
  gateway.state = .starting ∧ gateway.generation = generation

namespace Starts

variable {later : Gateway} {generation : Nat}

theorem of_traffic {traffic : Traffic} (same : later.traffic = traffic)
    (starting : traffic.state = .starting) (kept : traffic.generation = generation) :
    later.Starts generation :=
  ⟨(congrArg Traffic.state same).trans starting, (congrArg Traffic.generation same).trans kept⟩

theorem forward (starts : gateway.Starts generation) (setup : Setup) (message : ClientMessage)
    (settled : gateway.traffic.IsSettled) :
    (gateway.forward setup message).Starts generation := by
  have present : (gateway.accept message).hasProcess = true := by
    rw [Host.hasProcess_iff, toHost_accept]
    simp [starts.1]
  have started : (gateway.accept message).ensureStarted setup message.answerId =
      (.ok (), gateway.accept message) := by
    simp only [ensureStarted, present, if_true]
  rw [forward_started started]
  rcases forwardStarted_cases setup (gateway.traffic_accept message) settled with
    ⟨taken, ready, -, -, -, same⟩ | ⟨-, waits⟩
  · have state : taken.state = gateway.state := congrArg Traffic.state same
    exact absurd (starts.1.symm.trans (state.symm.trans ready)) (by simp)
  · exact .of_traffic waits starts.1 starts.2

theorem handleClientLine (starts : gateway.Starts generation) (setup : Setup) (line : String)
    (settled : gateway.traffic.IsSettled) :
    (gateway.handleClientLine setup line).Starts generation := by
  rcases gateway.handleClientLine_cases setup line with
    ⟨message, -, forwarded, -⟩ | ⟨-, same | ⟨told, same⟩⟩
  · rw [forwarded]
    exact starts.forward setup message settled
  · exact .of_traffic same starts.1 starts.2
  · exact .of_traffic same starts.1 starts.2

/-- A probe may fail, but is not the end of the process. -/
theorem onProbeTimer (starts : gateway.Starts generation) (setup : Setup) :
    (gateway.onProbeTimer setup).Starts generation := by
  have running : gateway.state ≠ .noProcess := by simp [starts.1]
  have probed := traffic_onProbeTimer_running setup running
  obtain ⟨counted, missed, -, outcome⟩ := gateway.toExchange.probe_cases setup running
  have spared : counted = gateway.traffic := by
    rcases missed with ⟨-, same⟩ | ⟨⟨ready, -⟩, -⟩
    · exact same
    · exact absurd (starts.1.symm.trans ready) (by simp)
  rcases outcome with ⟨-, id, line, sent⟩ | ⟨-, refused⟩
  · have later := probed.trans sent
    rw [spared] at later
    exact .of_traffic later starts.1 starts.2
  · have later := probed.trans refused
    rw [spared] at later
    exact .of_traffic later rfl starts.2

theorem onTimer (starts : gateway.Starts generation) (setup : Setup) (timer : Timer) :
    (gateway.onTimer setup timer).Starts generation := by
  cases timer with
  | firstProbe => exact starts.onProbeTimer setup
  | probeInterval => exact starts.onProbeTimer setup
  | startupDeadline =>
      rcases gateway.traffic_onStartupDeadline setup with same | ⟨id, failure, -, -, late⟩
      · exact .of_traffic same starts.1 starts.2
      · exact .of_traffic late starts.1 starts.2
  | restart =>
      rw [Gateway.onTimer, onRestart_running setup (by simp [starts.1])]
      exact starts
  | callDeadline id =>
      rcases gateway.traffic_onCallDeadline setup id with
        ⟨call, -, late⟩ | ⟨-, ⟨-, late⟩ | ⟨-, late⟩⟩
      all_goals
        exact .of_traffic late starts.1 starts.2
  | shutdownGrace => exact starts

/-- A process that is starting goes on with it as long as it says nothing and does not end. -/
theorem handleEvent (starts : gateway.Starts generation) (setup : Setup) {event : Event}
    (outer : event.isOfProcess = false) (settled : gateway.traffic.IsSettled) :
    (gateway.handleEvent setup event).Starts generation := by
  cases event with
  | clientLine line => exact starts.handleClientLine setup line settled
  | timer timer => exact starts.onTimer setup timer
  | clientClosed => exact starts
  | serviceError _ line => exact starts
  | shutdown => exact starts
  | serviceOutput _ line => simp [Event.isOfProcess] at outer
  | serviceExited _ code => simp [Event.isOfProcess] at outer
  | serviceFailed _ detail => simp [Event.isOfProcess] at outer

end Starts

end Gateway

namespace EventLoop

variable {setup : Setup} {loop : EventLoop}

/-- As long as the loop goes on, the event of a timer changes nothing if the gateway does not heed
it, and then only. -/
theorem handle_timer_eq_iff (setup : Setup) {timer : Timer} (apart : timer ≠ .shutdownGrace)
    (going : loop.isEnded = false)
    (busy : loop.isClosing = true → loop.gateway.isIdle = false) :
    loop.handle setup (.timer timer) = loop ↔ loop.gateway.heeds timer = false := by
  rw [← Gateway.onTimer_eq_iff setup]
  constructor
  · intro same
    rcases handle_cases setup going (.timer timer) with
      ⟨left, -, handled⟩ | ⟨closed, -⟩ | ⟨-, handled⟩
    · have finished : loop.isEnded = true := by
        rw [← same, handled]
        rfl
      exact absurd (going.symm.trans finished) (by simp)
    · exact absurd closed (by simp)
    · exact congrArg EventLoop.gateway (handled.symm.trans same)
  · intro same
    have unchanged : loop.gateway.handleEvent setup (.timer timer) = loop.gateway := same
    rcases handle_cases setup going (.timer timer) with
      ⟨left, ends, -⟩ | ⟨closed, -⟩ | ⟨-, handled⟩
    · cases ends with
      | graceOver => exact absurd rfl apart
      | leftIdle closing passed idle =>
          rw [unchanged, busy closing] at idle
          exact absurd idle (by simp)
    · exact absurd closed (by simp)
    · rw [handled, unchanged]

/-- A process that is starting goes on with it after an event that is not of the process, or the
loop ends. -/
theorem starts_handle (setup : Setup) {event : Event} (outer : event.isOfProcess = false)
    {generation : Nat} (sound : loop.isEnded = false → IsSound loop.gateway)
    (same : loop.gateway.generation = generation)
    (starting : loop.isEnded = false → loop.gateway.state = .starting) :
    (loop.handle setup event).gateway.generation = generation ∧
      ((loop.handle setup event).isEnded = false →
        (loop.handle setup event).gateway.state = .starting) := by
  by_cases ended : loop.isEnded = true
  · rw [handle_ended ended]
    exact ⟨same, starting⟩
  have going : loop.isEnded = false := Bool.not_eq_true _ ▸ ended
  have starts : loop.gateway.Starts generation := ⟨starting going, same⟩
  have handles := starts.handleEvent setup outer (sound going).settled
  rcases handle_cases setup going event with
    ⟨left, ends, handled⟩ | ⟨-, handled⟩ | ⟨-, handled⟩
  · have kept : left.generation = generation := by
      cases ends with
      | closedIdle => exact same
      | told => exact same
      | graceOver => exact same
      | leftIdle => exact handles.2
    rw [handled]
    exact ⟨left.generation_terminate.trans kept, fun goes => absurd goes (by simp [finish])⟩
  · rw [handled]
    exact ⟨same, starting⟩
  · rw [handled]
    exact ⟨handles.2, fun _ => handles.1⟩

/-- A request that is accepted is one that the client makes. -/
theorem requestId?_of_accepted {event : Event} {id : RequestId}
    (accepted : loop.accepted? setup (.handle event) = some id) : event.requestId? = some id := by
  unfold accepted? at accepted
  dsimp only at accepted
  split at accepted
  case isTrue => simp at accepted
  case isFalse =>
    obtain ⟨message, taken, own⟩ := Option.bind_eq_some_iff.mp accepted
    cases event with
    | clientLine line =>
        have parsed := Gateway.parse_of_accepted taken
        simp [Event.requestId?, parsed, Except.toOption, own]
    | _ => simp [Gateway.accepted?] at taken

end EventLoop

namespace Mailbox

variable {setup : Setup} {box : Mailbox}

/-! ## What stood ahead -/

/-- What has not happened while an event waited and some others were handled: no request was
accepted that none of them makes, and a process that was starting has not been given up unless one
of them is of the process. -/
structure Waits (box : Mailbox) (handled : List Event) (mail : Mail) : Prop where
  spared : ∀ id, (∀ event ∈ handled, event.requestId? ≠ some id) →
    .accepted id ∉ box.loop.gateway.ledger.drop mail.done
  starting : mail.event = .timer .startupDeadline →
    (∀ event ∈ handled, event.isOfProcess = false) →
      box.loop.gateway.generation = mail.generation ∧
        (box.loop.isEnded = false → box.loop.gateway.state = .starting)

/-- Of the events that stood ahead of one that waits, the first have been handled, and the others
still wait before it. -/
def IsInLine (box : Mailbox) : Prop :=
  ∀ front mail behind, box.waiting = front ++ mail :: behind →
    ∃ handled, mail.ahead = handled ++ front.map Mail.event ∧ box.Waits handled mail

theorem Waits.handle {handled : List Event} {mail : Mail} (waits : box.Waits handled mail)
    (setup : Setup) (event : Event)
    (sound : box.loop.isEnded = false → EventLoop.IsSound box.loop.gateway)
    (done : mail.done ≤ box.loop.gateway.ledger.length) :
    (box.handle setup event).Waits (handled ++ [event]) mail := by
  constructor
  · intro id unmade
    obtain ⟨deeds, ledger, accepts⟩ := box.loop.ledger_handle setup event sound
    have grown : (box.handle setup event).loop.gateway.ledger.drop mail.done =
        box.loop.gateway.ledger.drop mail.done ++ deeds :=
      (congrArg (List.drop mail.done) ledger).trans (List.drop_append_of_le_length done)
    have before := waits.spared id fun other listed => unmade other (List.mem_append_left _ listed)
    rw [grown, List.mem_append, accepts, not_or]
    refine ⟨before, fun accepted => ?_⟩
    have last : event ∈ handled ++ [event] := List.mem_append_right _ (List.mem_singleton.mpr rfl)
    exact unmade event last (EventLoop.requestId?_of_accepted accepted)
  · intro own outer
    obtain ⟨same, starting⟩ := waits.starting own fun other listed =>
      outer other (List.mem_append_left _ listed)
    have last : event ∈ handled ++ [event] := List.mem_append_right _ (List.mem_singleton.mpr rfl)
    exact EventLoop.starts_handle setup (outer event last) sound same starting

/-- Which other events wait plays no part. -/
theorem Waits.beside {handled : List Event} {mail : Mail} (waits : box.Waits handled mail)
    (waiting : List Mail) : ({ box with waiting := waiting } : Mailbox).Waits handled mail :=
  ⟨waits.spared, waits.starting⟩

theorem IsInLine.post (inLine : box.IsInLine) {event : Event} {arm? : Option TimerArm}
    (waits : box.Waits [] (box.stamp event arm?)) : (box.post event arm?).IsInLine := by
  intro front mail behind split
  have all : box.waiting ++ [box.stamp event arm?] = front ++ mail :: behind := split
  rcases List.eq_nil_or_concat behind with rfl | ⟨between, last, rfl⟩
  · obtain ⟨rfl, same⟩ := List.append_inj' all rfl
    obtain rfl := List.singleton_inj.mp same
    exact ⟨[], rfl, waits.beside _⟩
  · have longer : box.waiting ++ [box.stamp event arm?] = (front ++ mail :: between) ++ [last] := by
      rw [all, List.concat_eq_append, List.append_assoc, List.cons_append]
    obtain ⟨handled, ahead, before⟩ := inLine front mail between (List.append_inj' longer rfl).1
    exact ⟨handled, ahead, before.beside _⟩

/-- When the first event is handled, the others move up. -/
theorem IsInLine.deliver (inLine : box.IsInLine) (tracked : box.IsTracked)
    (sound : box.loop.isEnded = false → EventLoop.IsSound box.loop.gateway) {head : Mail}
    {rest : List Mail} (waiting : box.waiting = head :: rest) :
    (({ box with waiting := rest } : Mailbox).handle setup head.event).IsInLine := by
  intro front mail behind split
  have others : rest = front ++ mail :: behind := split
  have all : box.waiting = (head :: front) ++ mail :: behind := by
    rw [waiting, others]
    rfl
  obtain ⟨handled, ahead, waits⟩ := inLine (head :: front) mail behind all
  have listed : mail ∈ box.waiting := by simp [all]
  refine ⟨handled ++ [head.event], ?_, (waits.beside rest).handle setup head.event sound ?_⟩
  · rw [ahead, List.map_cons, List.append_cons]
  · exact (tracked.mail mail listed).done

theorem Waits.arrived {event : Event} (outer : event.isTimer = false) :
    box.Waits [] (box.stamp event none) where
  spared id _ := by
    have none : box.loop.gateway.ledger.drop box.loop.gateway.ledger.length = [] :=
      List.drop_length
    exact none ▸ List.not_mem_nil
  starting own := by
    obtain rfl : event = .timer .startupDeadline := own
    simp [Event.isTimer] at outer

/-- The deadline of a start elapses only while a process is starting. -/
theorem IsTracked.waits_elapsed (tracked : box.IsTracked) {timer : Timer} {arm : TimerArm}
    (armed : box.loop.gateway.timers.arm? timer = some arm) :
    (box.elapse setup timer).Waits []
      ((box.elapse setup timer).stamp (.timer timer) (some arm)) where
  spared id _ := by
    have none : box.loop.gateway.ledger.drop box.loop.gateway.ledger.length = [] :=
      List.drop_length
    exact none ▸ List.not_mem_nil
  starting own _ := by
    obtain rfl := Event.timer.inj own
    have rule : box.loop.gateway.traffic.armed .startupDeadline = some arm.rule :=
      congrArg (Option.map TimerArm.rule) armed
    exact ⟨rfl, fun _ => tracked.meant.startup arm.rule rule⟩

theorem IsInLine.step (inLine : box.IsInLine) (tracked : box.IsTracked)
    (sound : box.loop.isEnded = false → EventLoop.IsSound box.loop.gateway)
    (incident : Incident) : (box.step setup incident).IsInLine := by
  cases incident with
  | arrive event outer => exact inLine.post (.arrived outer)
  | elapse timer =>
      unfold Mailbox.step
      dsimp only
      split
      case h_1 => exact inLine
      case h_2 arm armed =>
        have elapsed : (box.elapse setup timer).IsInLine := by
          intro front mail behind split
          obtain ⟨handled, ahead, waits⟩ := inLine front mail behind split
          exact ⟨handled, ahead, waits.spared, waits.starting⟩
        exact elapsed.post (tracked.waits_elapsed armed)
  | deliver =>
      unfold Mailbox.step
      dsimp only
      split
      case h_1 => exact inLine
      case h_2 head rest waiting => exact inLine.deliver tracked sound waiting
  | meanwhile outside =>
      intro front mail behind split
      obtain ⟨handled, ahead, waits⟩ := inLine front mail behind split
      exact ⟨handled, ahead, waits.spared, waits.starting⟩

theorem isInLine_after (setup : Setup) (outside : Outside) (incidents : List Incident) :
    (after setup outside incidents).IsInLine := by
  induction incidents using List.reverseRecOn with
  | nil =>
      intro front mail behind split
      have nobody : (after setup outside []).waiting = [] := rfl
      rw [nobody] at split
      exact absurd split (by simp)
  | append_singleton incidents last ih =>
      rw [after_concat]
      exact ih.step (isTracked_after setup outside incidents)
        (isSound_after setup outside incidents) last

/-! ## Who is struck -/

/-- The arm that limits the time of the latest call with an identifier, or of the latest start. -/
def arm? (box : Mailbox) : Timer → Option TimerArm
  | .callDeadline id => box.callArm id
  | .startupDeadline => box.startArm
  | _ => none

/-- An event is that of a deadline which was not armed for the latest call with its identifier, or
for the latest start. -/
def IsLeftOver (box : Mailbox) (mail : Mail) : Prop :=
  ∃ timer, timer.isDeadline = true ∧ mail.event = .timer timer ∧ box.arm? timer ≠ mail.arm?

/-- Since a deadline has elapsed, another call with its identifier was accepted and is in flight,
or another process was started and is still starting. -/
inductive StrikesSuccessor (box : Mailbox) (mail : Mail) : Prop
  | call (id : RequestId) (own : mail.event = .timer (.callDeadline id))
      (going : box.loop.isEnded = false) (flies : box.loop.gateway.isInFlight id = true)
      (later : .accepted id ∈ box.loop.gateway.ledger.drop mail.done)
  | start (own : mail.event = .timer .startupDeadline) (going : box.loop.isEnded = false)
      (starting : box.loop.gateway.state = .starting)
      (later : box.loop.gateway.generation ≠ mail.generation)

/-- When a deadline elapsed, a request with its identifier, or an event of the process, was waiting
already. -/
inductive HasForerunner (mail : Mail) : Prop
  | call (id : RequestId) (own : mail.event = .timer (.callDeadline id)) (event : Event)
      (ahead : event ∈ mail.ahead) (request : event.requestId? = some id)
  | start (own : mail.event = .timer .startupDeadline) (event : Event)
      (ahead : event ∈ mail.ahead) (outer : event.isOfProcess = true)

section Struck

variable {mail : Mail}

theorem isLeftOver_call_iff {id : RequestId} (tracks : box.Tracks mail)
    (own : mail.event = .timer (.callDeadline id)) :
    box.IsLeftOver mail ↔ .accepted id ∈ box.loop.gateway.ledger.drop mail.done := by
  have kept := not_congr (tracks.call id own)
  rw [not_not] at kept
  rw [← kept]
  constructor
  · rintro ⟨timer, -, same, other⟩
    obtain rfl : Timer.callDeadline id = timer := Event.timer.inj (own.symm.trans same)
    exact other
  · exact fun other => ⟨_, rfl, own, other⟩

theorem isLeftOver_start_iff (tracks : box.Tracks mail)
    (own : mail.event = .timer .startupDeadline) :
    box.IsLeftOver mail ↔ box.loop.gateway.generation ≠ mail.generation := by
  rw [ne_eq, ← not_congr (tracks.start own)]
  constructor
  · rintro ⟨timer, -, same, other⟩
    obtain rfl : Timer.startupDeadline = timer := Event.timer.inj (own.symm.trans same)
    exact other
  · exact fun other => ⟨_, rfl, own, other⟩

/-- The event of a deadline that has been left over strikes a successor, or it changes nothing. -/
theorem strikesSuccessor_iff (tracks : box.Tracks mail)
    (busy : box.loop.isEnded = false → box.loop.isClosing = true →
      box.loop.gateway.isIdle = false) :
    box.StrikesSuccessor mail ↔
      box.IsLeftOver mail ∧ box.loop.handle setup mail.event ≠ box.loop := by
  have heeded {timer : Timer} (deadline : timer.isDeadline = true)
      (going : box.loop.isEnded = false) :
      box.loop.handle setup (.timer timer) ≠ box.loop ↔ box.loop.gateway.heeds timer = true := by
    have apart : timer ≠ .shutdownGrace := Timer.ne_of_isDeadline deadline rfl
    rw [ne_eq, EventLoop.handle_timer_eq_iff setup apart going (busy going), Bool.not_eq_false]
  constructor
  · intro strikes
    cases strikes with
    | call id own going flies later =>
        refine ⟨(isLeftOver_call_iff tracks own).mpr later, ?_⟩
        rw [own]
        exact (heeded rfl going).mpr flies
    | start own going starting later =>
        refine ⟨(isLeftOver_start_iff tracks own).mpr later, ?_⟩
        rw [own]
        exact (heeded rfl going).mpr (decide_eq_true starting)
  · rintro ⟨leftOver, changes⟩
    have going : box.loop.isEnded = false := by
      by_contra ended
      exact changes (EventLoop.handle_ended (Bool.not_eq_false _ ▸ ended) mail.event)
    obtain ⟨timer, deadline, own, -⟩ := id leftOver
    rw [own, heeded deadline going] at changes
    cases timer with
    | callDeadline id =>
        exact .call id own going changes ((isLeftOver_call_iff tracks own).mp leftOver)
    | startupDeadline =>
        exact .start own going (of_decide_eq_true changes)
          ((isLeftOver_start_iff tracks own).mp leftOver)
    | _ => simp [Timer.isDeadline] at deadline

/-- What is struck had begun to come when the deadline elapsed. -/
theorem StrikesSuccessor.hasForerunner (strikes : box.StrikesSuccessor mail)
    (waits : box.Waits mail.ahead mail) : HasForerunner mail := by
  cases strikes with
  | call id own going flies later =>
      by_contra none
      refine waits.spared id (fun event ahead request => none ?_) later
      exact .call id own event ahead request
  | start own going starting later =>
      by_contra none
      refine later (waits.starting own fun event ahead => ?_).1
      exact Bool.not_eq_true _ ▸ fun outer => none (.start own event ahead outer)

end Struck

/-- The event of a deadline that was not armed for the latest call with its identifier, or for the
latest start, changes nothing, unless since it elapsed another such call was accepted that is in
flight, or another process started that is still starting.  Of these a request, or an event of the
process, was waiting already when the deadline elapsed.  The event of any timer changes nothing
just if the gateway does not heed it, and the event of a deadline has exactly the late answer
given. -/
theorem left_over_deadlines_change_nothing_iff_no_successor (setup : Setup) (outside : Outside)
    (incidents : List Incident) {mail : Mail} {rest : List Mail}
    (waiting : (after setup outside incidents).waiting = mail :: rest) :
    let box := after setup outside incidents
    let later := box.loop.handle setup mail.event
    ((box.IsLeftOver mail → later = box.loop) ↔ ¬box.StrikesSuccessor mail) ∧
      (box.StrikesSuccessor mail → HasForerunner mail) ∧
      (∀ timer, mail.event = .timer timer → timer ≠ .shutdownGrace →
        (later = box.loop ↔ box.loop.isEnded = true ∨ box.loop.gateway.heeds timer = false)) ∧
      ∀ timer, mail.event = .timer timer → timer.isDeadline = true →
        later.gateway.ledger = box.loop.gateway.ledger ++
          if box.loop.isEnded then [] else box.loop.gateway.lateDeeds setup timer := by
  intro box later
  have tracks : box.Tracks mail := by
    have tracked : box.IsTracked := isTracked_after setup outside incidents
    exact tracked.mail mail (waiting ▸ List.mem_cons_self)
  have busy (going : box.loop.isEnded = false) (closing : box.loop.isClosing = true) :
      box.loop.gateway.isIdle = false := by
    obtain ⟨steps, same⟩ := exists_loop_eq setup outside incidents
    simp only [box, same] at going closing ⊢
    exact EventLoop.busy_after setup outside steps going closing
  have strikes : box.StrikesSuccessor mail ↔ box.IsLeftOver mail ∧ later ≠ box.loop :=
    strikesSuccessor_iff tracks busy
  refine ⟨?_, ?_, ?_, ?_⟩
  · rw [strikes, not_and, not_not]
  · intro struck
    obtain ⟨handled, ahead, waits⟩ := isInLine_after setup outside incidents [] mail rest waiting
    obtain rfl : mail.ahead = handled := ahead.trans (List.append_nil handled)
    exact struck.hasForerunner waits
  · intro timer own apart
    by_cases ended : box.loop.isEnded = true
    · exact iff_of_true (EventLoop.handle_ended ended mail.event) (.inl ended)
    · have going : box.loop.isEnded = false := Bool.not_eq_true _ ▸ ended
      have unheeded := EventLoop.handle_timer_eq_iff setup apart going (busy going)
      rw [or_iff_right ended, ← unheeded, ← own]
  · intro timer own deadline
    by_cases ended : box.loop.isEnded = true
    · have unchanged : later = box.loop := EventLoop.handle_ended ended mail.event
      rw [unchanged, if_pos ended, List.append_nil]
    · have going : box.loop.isEnded = false := Bool.not_eq_true _ ▸ ended
      rw [if_neg ended, ← Gateway.ledger_onTimer setup box.loop.gateway deadline]
      simp only [later, own]
      exact (EventLoop.handle_tells setup going (.timer timer)).1

/-- The process has ended, and a request starts another one, when the time for the first to start
is over.  The request is then told that the time for its own is over. -/
theorem left_over_deadline_strikes_next_start :
    let setup : Setup := { launch := ⟨"npx", [], none⟩ }
    let line := "\x7b\"id\":1,\"method\":\"page/content\"\x7d"
    let box := after setup {}
      [.arrive (.serviceExited 1 (some 0)) rfl, .arrive (.clientLine line) rfl,
        .elapse .startupDeadline, .deliver, .deliver]
    ∃ mail, box.waiting = [mail] ∧ box.IsLeftOver mail ∧
      (box.loop.handle setup mail.event).gateway.ledger =
        box.loop.gateway.ledger ++ [.answered (.number 1) (.failed (.startupTimeout 30000))] := by
  intro setup line box
  let mail : Mail :=
    ⟨.timer .startupDeadline, some ⟨.startupDeadline, .once 30000, 1⟩,
      [.serviceExited 1 (some 0), .clientLine line], 1, 0⟩
  have waiting : box.waiting = [mail] := by decide +kernel
  have strikes : box.StrikesSuccessor mail :=
    .start rfl (by decide +kernel) (by decide +kernel) (by decide +kernel)
  obtain ⟨harmless, -, -, answers⟩ :=
    left_over_deadlines_change_nothing_iff_no_successor setup {} _ waiting
  have leftOver := (Classical.not_imp.mp (mt harmless.mp (not_not.mpr strikes))).1
  have late : box.loop.gateway.lateDeeds setup .startupDeadline =
      [.answered (.number 1) (.failed (.startupTimeout 30000))] := by
    decide +kernel
  have going : ¬box.loop.isEnded = true := by decide +kernel
  refine ⟨mail, waiting, leftOver, ?_⟩
  rw [answers .startupDeadline rfl rfl, if_neg going, late]

end Mailbox

end BrowserRelay
