import BrowserRelay.Proofs.Order
import BrowserRelay.Proofs.Steady
import Mathlib.Data.List.Induction

/-!
# Readiness of the service

The service becomes ready when its process answers a probe and those who wait can be passed on.
It is no longer ready when the process ends, when a write to it fails, when it has left too many
probes unanswered, and when the relay ends.  Lines of the client are written to a process only
while it is ready.
-/

namespace BrowserRelay

/-! ## Answers to probes -/

/-- A line is an object whose identifier is a text that starts like those of the probes, and
whose method is no text. -/
def AnswersProbe (setup : Setup) (line : String) : Prop :=
  ∃ members text, Json.parse (Text.trim line) = .ok (.object members) ∧
    members.lookup "id" = some (.string text) ∧
    setup.settings.health.idPrefix.toList <+: text.toList ∧
    ∀ method, members.lookup "method" ≠ some (.string method)

theorem Json.asString?_eq_some_iff {value : Json} {text : String} :
    value.asString? = some text ↔ value = .string text := by
  cases value <;> simp [asString?]

theorem answersProbe_iff {setup : Setup} {line : String} :
    AnswersProbe setup line ↔ ∃ id message,
      ServiceMessage.response? line = some (id, message) ∧
        Exchange.isProbeId setup id = true := by
  constructor
  · rintro ⟨members, text, parsed, isId, begins, noMethod⟩
    have method : (members.lookup "method").bind Json.asString? = none := by
      rw [Option.bind_eq_none_iff]
      intro value listed
      rw [Option.eq_none_iff_forall_not_mem]
      intro text isText
      rw [Option.mem_def, Json.asString?_eq_some_iff] at isText
      exact noMethod text (isText ▸ listed)
    refine ⟨.text text, ⟨some (.text text), none, .object members⟩,
      ServiceMessage.response?_eq_some_iff.mpr ⟨?_, rfl, rfl⟩, ?_⟩
    · simp [ServiceMessage.parse, parsed, Json.get?, isId, RequestId.ofJson?, method]
    · simpa [Exchange.isProbeId, RequestId.asText?] using begins
  · rintro ⟨id, message, isResponse, isProbe⟩
    obtain ⟨read, isId, isAnswer⟩ := ServiceMessage.response?_eq_some_iff.mp isResponse
    unfold ServiceMessage.parse at read
    split at read
    case h_1 => simp at read
    case h_3 => simp at read
    case h_2 members parsed =>
      obtain rfl := Except.ok.inj read
      obtain ⟨value, listed, ofValue⟩ := Option.bind_eq_some_iff.mp isId
      cases id with
      | number number => simp [Exchange.isProbeId, RequestId.asText?] at isProbe
      | text text =>
          have isText : value = .string text := by
            unfold RequestId.ofJson? at ofValue
            split at ofValue <;> simp_all
          refine ⟨members, text, parsed, isText ▸ listed, ?_, fun method listed => ?_⟩
          · simpa [Exchange.isProbeId, RequestId.asText?] using isProbe
          · have noText := Option.bind_eq_none_iff.mp isAnswer _ listed
            simp [Json.asString?] at noText

/-- Whether the process is probed when a timer elapses. -/
def Timer.isProbe : Timer → Bool
  | firstProbe => true
  | probeInterval => true
  | _ => false

/-- Whether a step may end the process or write a message of the client to it. -/
def Step.endsOrWrites : Step → Bool
  | .event (.clientLine _) => true
  | .event (.serviceExited _ _) => true
  | .event (.serviceFailed _ _) => true
  | _ => false

theorem Host.written_terminate (host : Host) :
    host.terminate.outside.written = host.outside.written := by
  have kept := host.outside.written_kill host.generation
  simp only [terminate]
  split
  · split
    case h_1 outside killed =>
      rw [killed] at kept
      exact kept
    case h_2 failure outside killed =>
      rw [killed] at kept
      exact kept
  · rfl

/-! ## Turns -/

/-- A step, or the end of the relay. -/
inductive Turn where
  | step (step : Step)
  | terminate

namespace Gateway

/-- What one turn does. -/
def turn (setup : Setup) (gateway : Gateway) : Turn → Gateway
  | .step step => gateway.step setup step
  | .terminate => gateway.terminate

/-- The gateway after turns from the start. -/
def afterTurns (setup : Setup) (outside : Outside) (turns : List Turn) : Gateway :=
  turns.foldl (turn setup) (initial setup outside)

theorem afterTurns_concat (setup : Setup) (outside : Outside) (turns : List Turn) (turn : Turn) :
    afterTurns setup outside (turns ++ [turn]) =
      (afterTurns setup outside turns).turn setup turn :=
  List.foldl_append

/-- A turn in which the present process answers a probe. -/
inductive Wakes (setup : Setup) (gateway : Gateway) : Turn → Prop
  | intro {generation : Nat} {line : String} (current : gateway.isCurrent generation = true)
      (answers : AnswersProbe setup line) :
      Wakes setup gateway (.step (.event (.serviceOutput generation line)))

/-- Whether the process is probed in a step. -/
def probes (gateway : Gateway) : Step → Bool
  | .event (.timer timer) => timer.isProbe
  | .elapse timer => timer.isProbe && gateway.timers.isArmed timer
  | _ => false

/-- The turns after which a service that was ready is not. -/
inductive Unsettles (setup : Setup) (gateway : Gateway) : Turn → Prop
  /-- The process exits. -/
  | exited {generation : Nat} {code : Option Int}
      (current : gateway.isCurrent generation = true) :
      Unsettles setup gateway (.step (.event (.serviceExited generation code)))
  /-- The process fails. -/
  | failed {generation : Nat} {detail : String}
      (current : gateway.isCurrent generation = true) :
      Unsettles setup gateway (.step (.event (.serviceFailed generation detail)))
  /-- A message of the client cannot be written. -/
  | refused {line : String} {message : ClientMessage} {failure : Failure}
      (accepted : gateway.accepted? setup (.event (.clientLine line)) = some message)
      (failing : gateway.outside.writeOutcomes.next = some failure) :
      Unsettles setup gateway (.step (.event (.clientLine line)))
  /-- A probe cannot be written. -/
  | probeRefused {step : Step} {failure : Failure} (due : gateway.probes step = true)
      (failing : gateway.outside.writeOutcomes.next = some failure) :
      Unsettles setup gateway (.step step)
  /-- Too many probes are unanswered when the next one is due. -/
  | demoted {step : Step} (due : gateway.probes step = true)
      (tooMany : gateway.missesTooMany setup) : Unsettles setup gateway (.step step)
  /-- The relay ends. -/
  | terminated : Unsettles setup gateway .terminate

end Gateway

theorem Outcomes.forall_take_succ_iff (outcomes : Outcomes) (count : Nat) :
    (∀ failure, some failure ∉ outcomes.take (count + 1)) ↔
      outcomes.next = none ∧ ∀ failure, some failure ∉ outcomes.later.take count := by
  cases outcomes with
  | nil => simp [next, later]
  | cons outcome outcomes =>
      cases outcome with
      | none => simp [next, later]
      | some failure => exact iff_of_false (fun all => all failure (by simp)) (by simp [next])

namespace Gateway

variable {setup : Setup} {gateway : Gateway}

/-! ## When a service stays ready -/

theorem ready_passOn_iff (setup : Setup) (gateway : Gateway) (entry : QueuedRequest)
    (ready : gateway.state = .ready) :
    (gateway.passOn setup entry).state = .ready ↔ gateway.outside.writeOutcomes.next = none := by
  cases outcome : gateway.outside.writeOutcomes.next with
  | none =>
      have passed := (passOn_written setup gateway entry ready outcome).1
      have state : (gateway.passOn setup entry).state = gateway.state :=
        congrArg Traffic.state passed
      simp [state, ready]
  | some failure =>
      refine iff_of_false (fun isReady => ?_) (by simp)
      have isReady : (gateway.passOn setup entry).traffic.state = .ready := isReady
      rcases traffic_passOn_refused setup gateway entry ready outcome with
        ⟨-, passed⟩ | ⟨-, passed | ⟨respawn, passed⟩⟩
      all_goals
        rw [passed] at isReady
        cases isReady

/-- Those who wait are passed on one after the other until a write fails. -/
theorem ready_passOnWaiting_iff (setup : Setup) (count : Nat) (gateway : Gateway)
    (ready : gateway.state = .ready) (enough : gateway.queue.length ≤ count) :
    (gateway.passOnWaiting setup count).state = .ready ↔
      ∀ failure, some failure ∉ gateway.outside.writeOutcomes.take gateway.queue.length := by
  induction count generalizing gateway with
  | zero =>
      have nobody : gateway.queue = [] := List.eq_nil_of_length_eq_zero (Nat.le_zero.mp enough)
      simp [passOnWaiting, ready, nobody]
  | succ count ih =>
      cases waiting : gateway.queue with
      | nil =>
          rw [passOnWaiting_nil setup _ waiting]
          simp [ready]
      | cons entry rest =>
          rw [passOnWaiting_cons setup _ ready waiting, List.length_cons,
            Outcomes.forall_take_succ_iff]
          let ahead : Gateway := { gateway with queue := rest }
          have stays := ready_passOn_iff setup ahead entry ready
          cases outcome : ahead.outside.writeOutcomes.next with
          | none =>
              obtain ⟨passed, later⟩ := passOn_written setup ahead entry ready outcome
              have place : (ahead.passOn setup entry).queue = rest := congrArg Traffic.queue passed
              have isReady := stays.mpr outcome
              have next := ih (ahead.passOn setup entry) isReady
                (by rw [place]; simpa [waiting] using enough)
              rw [next, place, later]
              exact (and_iff_right rfl).symm
          | some failure =>
              -- Nobody is passed on any more, whatever becomes of later writes.
              have unready : (ahead.passOn setup entry).state ≠ .ready := by
                rw [ne_eq, stays, outcome]
                simp
              rw [passOnWaiting_unready setup _ unready]
              refine iff_of_false unready fun both => ?_
              simp at both

/-- The first answer to a probe makes the service ready if those who wait can be passed on. -/
theorem ready_wakes_iff {turn : Turn} (wakes : gateway.Wakes setup turn)
    (starting : gateway.state = .starting) :
    (gateway.turn setup turn).state = .ready ↔
      ∀ failure, some failure ∉ gateway.outside.writeOutcomes.take gateway.queue.length := by
  obtain ⟨current, answers⟩ := wakes
  obtain ⟨id, message, isResponse, isProbe⟩ := answersProbe_iff.mp answers
  obtain ⟨later, woken, outcomes, drained⟩ := handleServiceOutput_woken isResponse isProbe starting
  have queue : later.queue = gateway.queue := congrArg Traffic.queue woken
  have ready : later.state = .ready := congrArg Traffic.state woken
  simp only [turn, step, handleEvent, onServiceOutput, current, if_true]
  rw [drained, drainQueue_eq, ready_passOnWaiting_iff setup _ later ready (Nat.le_refl _), outcomes,
    queue]

theorem ready_forward_iff (setup : Setup) (message : ClientMessage)
    (settled : gateway.traffic.IsSettled) (ready : gateway.state = .ready) :
    (gateway.forward setup message).state = .ready ↔
      gateway.outside.writeOutcomes.next = none := by
  have present : (gateway.accept message).hasProcess = true := by
    rw [Host.hasProcess_iff, toHost_accept]
    simp [ready]
  have started : (gateway.accept message).ensureStarted setup message.answerId =
      (.ok (), gateway.accept message) := by
    simp only [ensureStarted, present, if_true]
  have same : (gateway.accept message).outside = gateway.outside :=
    congrArg Host.outside (gateway.toHost_accept message)
  rw [forward_started started]
  rcases forwardStarted_cases setup (gateway.traffic_accept message) settled with
    ⟨taken, isReady, -, outcomes, passed, -⟩ | ⟨unready, -⟩
  · rw [passed, ready_passOn_iff setup taken _ isReady, outcomes, same]
  · exact absurd ready unready

theorem ready_onProbeTimer_iff (setup : Setup) (gateway : Gateway)
    (ready : gateway.state = .ready) :
    (gateway.onProbeTimer setup).state = .ready ↔
      gateway.outside.writeOutcomes.next = none ∧ ¬gateway.missesTooMany setup := by
  have running : gateway.state ≠ .noProcess := by simp [ready]
  have later :
      (gateway.onProbeTimer setup).state = (gateway.toExchange.probe setup).2.traffic.state :=
    congrArg Traffic.state (traffic_onProbeTimer_running setup running)
  obtain ⟨counted, missed, -, outcome⟩ := gateway.toExchange.probe_cases setup running
  rw [later]
  rcases outcome with ⟨success, id, line, probed⟩ | ⟨⟨failure, failing⟩, refused⟩
  · rw [probed, and_iff_right success]
    rcases missed with ⟨few, rfl⟩ | ⟨⟨-, tooMany⟩, rfl⟩
    · exact iff_of_true ready fun tooMany => few ⟨ready, tooMany⟩
    · exact iff_of_false (by simp [Traffic.probe, Traffic.enter, Traffic.demote])
        (not_not.mpr tooMany)
  · rw [refused]
    exact iff_of_false (by simp [Traffic.demote, Traffic.disarm]) (by simp [failing])

theorem ready_onTimer_iff (setup : Setup) (gateway : Gateway) (timer : Timer)
    (ready : gateway.state = .ready) :
    (gateway.onTimer setup timer).state = .ready ↔
      (timer.isProbe = true →
        gateway.outside.writeOutcomes.next = none ∧ ¬gateway.missesTooMany setup) := by
  cases timer with
  | firstProbe => simpa [onTimer, Timer.isProbe] using gateway.ready_onProbeTimer_iff setup ready
  | probeInterval => simpa [onTimer, Timer.isProbe] using gateway.ready_onProbeTimer_iff setup ready
  | startupDeadline =>
      refine iff_of_true ?_ (by simp [Timer.isProbe])
      rcases gateway.traffic_onStartupDeadline setup with same | ⟨id, failure, starting, -⟩
      · exact (congrArg Traffic.state same).trans ready
      · simp [ready] at starting
  | restart =>
      refine iff_of_true ?_ (by simp [Timer.isProbe])
      rw [onTimer, onRestart_running setup (by simp [ready])]
      exact ready
  | callDeadline id =>
      refine iff_of_true ?_ (by simp [Timer.isProbe])
      rcases gateway.traffic_onCallDeadline setup id with
        ⟨call, -, late⟩ | ⟨-, ⟨-, late⟩ | ⟨-, late⟩⟩
      all_goals exact (congrArg Traffic.state late).trans ready
  | shutdownGrace => exact iff_of_true ready (by simp [Timer.isProbe])

/-! ## Turns of a service that is ready -/

theorem unsettles_iff_of_due {step : Step} (due : gateway.probes step = true) :
    gateway.Unsettles setup (.step step) ↔
      ¬(gateway.outside.writeOutcomes.next = none ∧ ¬gateway.missesTooMany setup) := by
  constructor
  · intro unsettles
    cases unsettles with
    | exited current => simp [probes] at due
    | failed current => simp [probes] at due
    | refused accepted failing => simp [probes] at due
    | probeRefused _ failing => simp [failing]
    | demoted _ tooMany => exact fun both => both.2 tooMany
  · intro either
    cases outcome : gateway.outside.writeOutcomes.next with
    | none => exact .demoted due (not_not.mp fun few => either ⟨outcome, few⟩)
    | some failure => exact .probeRefused due outcome

theorem Unsettles.endsOrWrites {step : Step} (unsettles : gateway.Unsettles setup (.step step))
    (undue : gateway.probes step = false) : step.endsOrWrites = true := by
  cases unsettles with
  | exited current => rfl
  | failed current => rfl
  | refused accepted failing => rfl
  | probeRefused due failing => simp [undue] at due
  | demoted due tooMany => simp [undue] at due

/-- A step that neither probes the process nor ends or writes to it does not unsettle it. -/
theorem not_unsettles {step : Step} (undue : gateway.probes step = false)
    (idle : step.endsOrWrites = false) : ¬gateway.Unsettles setup (.step step) := by
  intro unsettles
  have active := unsettles.endsOrWrites undue
  simp [idle] at active

theorem unready_clientLine_iff (setup : Setup) (line : String)
    (settled : gateway.traffic.IsSettled) (ready : gateway.state = .ready) :
    (gateway.handleClientLine setup line).state ≠ .ready ↔
      gateway.Unsettles setup (.step (.event (.clientLine line))) := by
  rcases gateway.handleClientLine_cases setup line with
    ⟨message, accepted, forwarded, -⟩ | ⟨nothing, same | ⟨told, same⟩⟩
  · rw [forwarded, ne_eq, ready_forward_iff setup message settled ready]
    constructor
    · intro failing
      obtain ⟨failure, failing⟩ := Option.ne_none_iff_exists'.mp failing
      exact .refused accepted failing
    · intro unsettles
      cases unsettles with
      | refused _ failing => simp [failing]
      | probeRefused due => simp [probes] at due
      | demoted due => simp [probes] at due
  all_goals
    have stays : (gateway.handleClientLine setup line).state = .ready :=
      (congrArg Traffic.state same).trans ready
    refine iff_of_false (not_not.mpr stays) fun unsettles => ?_
    cases unsettles with
    | refused accepted => simp [nothing] at accepted
    | probeRefused due => simp [probes] at due
    | demoted due => simp [probes] at due

theorem state_serviceOutput_ready (setup : Setup) (generation : Nat) (line : String)
    (ready : gateway.state = .ready) :
    (gateway.onServiceOutput setup generation line).state = .ready := by
  unfold onServiceOutput
  split
  case isFalse => exact ready
  case isTrue =>
    have keep {later : Gateway} {after : Traffic} (handled : later.traffic = after)
        (state : after.state = gateway.state) : later.state = .ready :=
      ((congrArg Traffic.state handled).trans state).trans ready
    rcases traffic_handleServiceOutput_cases setup gateway line
        (fun _ _ _ _ starting => by simp [ready] at starting) with
      same | ⟨raw, same⟩ | ⟨id, call, text, -, same⟩ | ⟨id, same⟩
    all_goals exact keep same rfl

theorem unready_onServiceExited_iff (setup : Setup) (generation : Nat) (code : Option Int)
    (ready : gateway.state = .ready) :
    (gateway.onServiceExited setup generation code).state ≠ .ready ↔
      gateway.Unsettles setup (.step (.event (.serviceExited generation code))) := by
  by_cases current : gateway.isCurrent generation = true
  · have gone : (gateway.onServiceExited setup generation code).state = .noProcess :=
      congrArg Traffic.state (traffic_onServiceExited setup code current)
    exact iff_of_true (by simp [gone]) (.exited current)
  · rw [onServiceExited_stale setup code (Bool.not_eq_true _ ▸ current)]
    refine iff_of_false (not_not.mpr ready) fun unsettles => ?_
    cases unsettles with
    | exited isCurrent => exact current isCurrent
    | probeRefused due => simp [probes] at due
    | demoted due => simp [probes] at due

theorem unready_onServiceFailed_iff (setup : Setup) (generation : Nat) (detail : String)
    (ready : gateway.state = .ready) :
    (gateway.onServiceFailed generation detail).state ≠ .ready ↔
      gateway.Unsettles setup (.step (.event (.serviceFailed generation detail))) := by
  by_cases current : gateway.isCurrent generation = true
  · have gone : (gateway.onServiceFailed generation detail).state = .noProcess :=
      congrArg Traffic.state (traffic_onServiceFailed detail current)
    exact iff_of_true (by simp [gone]) (.failed current)
  · rw [onServiceFailed_stale detail (Bool.not_eq_true _ ▸ current)]
    refine iff_of_false (not_not.mpr ready) fun unsettles => ?_
    cases unsettles with
    | failed isCurrent => exact current isCurrent
    | probeRefused due => simp [probes] at due
    | demoted due => simp [probes] at due

/-- A step that handles a timer, before which at most the timer was disarmed. -/
theorem unready_onTimer_iff {step : Step} {timer : Timer} (fired : Gateway)
    (handled : gateway.step setup step = fired.onTimer setup timer) (ready : fired.state = .ready)
    (outside : fired.outside = gateway.outside) (health : fired.health = gateway.health)
    (due : gateway.probes step = timer.isProbe) (idle : step.endsOrWrites = false) :
    (gateway.step setup step).state ≠ .ready ↔ gateway.Unsettles setup (.step step) := by
  have stays := fired.ready_onTimer_iff setup timer ready
  rw [handled]
  cases isProbe : timer.isProbe with
  | true =>
      rw [unsettles_iff_of_due (due.trans isProbe)]
      simpa [isProbe, outside, Exchange.missesTooMany, health] using not_congr stays
  | false =>
      have isReady := stays.mpr (by simp [isProbe])
      exact iff_of_false (not_not.mpr isReady) (not_unsettles (due.trans isProbe) idle)

/-- A service that is ready stops being ready in exactly these steps. -/
theorem unready_step_iff (setup : Setup) (gateway : Gateway) (step : Step)
    (settled : gateway.traffic.IsSettled) (ready : gateway.state = .ready) :
    (gateway.step setup step).state ≠ .ready ↔ gateway.Unsettles setup (.step step) := by
  have running : gateway.state ≠ .noProcess := by simp [ready]
  have calm (stays : (gateway.step setup step).state = .ready)
      (undue : gateway.probes step = false) (idle : step.endsOrWrites = false) :
      (gateway.step setup step).state ≠ .ready ↔ gateway.Unsettles setup (.step step) :=
    iff_of_false (not_not.mpr stays) (not_unsettles undue idle)
  cases step with
  | start =>
      obtain ⟨outcome, started⟩ := startService_running setup running
      refine calm ?_ rfl rfl
      simp only [Gateway.step, started]
      exact ready
  | meanwhile outside => exact calm ready rfl rfl
  | elapse timer =>
      rcases gateway.step_elapse_cases setup timer with
        ⟨unarmed, same⟩ | ⟨period, armed, handled⟩ | ⟨delay, armed, handled⟩
      · have noRule : gateway.timers.rule? timer = none := unarmed
        refine calm ?_ (by simp [probes, TimerTable.isArmed_eq, noRule]) rfl
        rw [same]
        exact ready
      · have rule : gateway.timers.rule? timer = some (.every period) := armed
        exact unready_onTimer_iff _ handled ready rfl rfl
          (by simp [probes, TimerTable.isArmed_eq, rule]) rfl
      · have rule : gateway.timers.rule? timer = some (.once delay) := armed
        exact unready_onTimer_iff _ handled ready rfl rfl
          (by simp [probes, TimerTable.isArmed_eq, rule]) rfl
  | event event =>
      cases event with
      | clientLine line =>
          simp only [Gateway.step, handleEvent]
          exact unready_clientLine_iff setup line settled ready
      | clientClosed => exact calm ready rfl rfl
      | serviceOutput generation line =>
          refine calm ?_ rfl rfl
          simp only [Gateway.step, handleEvent]
          exact state_serviceOutput_ready setup generation line ready
      | serviceError generation line => exact calm ready rfl rfl
      | serviceExited generation code =>
          simp only [Gateway.step, handleEvent]
          exact unready_onServiceExited_iff setup generation code ready
      | serviceFailed generation detail =>
          simp only [Gateway.step, handleEvent]
          exact unready_onServiceFailed_iff setup generation detail ready
      | timer timer =>
          exact unready_onTimer_iff gateway rfl ready rfl rfl rfl rfl
      | shutdown => exact calm ready rfl rfl

/-! ## Turns of a service that is not ready -/

/-- What a step does to the readiness of the service: either the service does not become ready
in it, or the process answers its first probe. -/
theorem steady_step (setup : Setup) (gateway : Gateway) (step : Step)
    (settled : gateway.traffic.IsSettled) :
    (∃ deeds, Steady gateway.traffic deeds (gateway.step setup step).traffic) ∨
      gateway.Wakes setup (.step step) ∧ gateway.state = .starting ∧
        ∃ deeds, Steady (gateway.traffic.wake setup) deeds (gateway.step setup step).traffic := by
  have moved {after : Traffic} (moves : Moves setup gateway.traffic after)
      (same : (gateway.step setup step).traffic = after) :
      ∃ deeds, Steady gateway.traffic deeds (gateway.step setup step).traffic := by
    rw [same]
    exact moves.steady
  cases step with
  | start => exact .inl (moved (gateway.moves_start setup) rfl)
  | meanwhile outside => exact .inl (moved .refl rfl)
  | elapse timer => exact .inl (moved (gateway.moves_elapse setup timer) rfl)
  | event event =>
      cases event with
      | clientLine line =>
          rcases gateway.handleClientLine_cases setup line with
            ⟨message, -, forwarded, free⟩ | ⟨-, same | ⟨told, same⟩⟩
          · have passage := (passage_forward setup gateway message settled free).1
            rw [← forwarded] at passage
            exact .inl passage.steady
          · exact .inl (moved .refl same)
          · exact .inl (moved (.single (.told told)) same)
      | clientClosed => exact .inl (moved .refl rfl)
      | serviceOutput generation line =>
          by_cases current : gateway.isCurrent generation = true
          · have handled : gateway.step setup (.event (.serviceOutput generation line)) =
                gateway.handleServiceOutput setup line := by
              simp only [Gateway.step, handleEvent, onServiceOutput, current, if_true]
            by_cases answers : AnswersProbe setup line
            · obtain ⟨id, message, isResponse, isProbe⟩ := answersProbe_iff.mp answers
              by_cases starting : gateway.state = .starting
              · obtain ⟨later, woken, -, drained⟩ :=
                  handleServiceOutput_woken isResponse isProbe starting
                have moves := later.moves_passOnWaiting setup later.queue.length
                rw [← drainQueue_eq, ← drained, ← handled, woken] at moves
                exact .inr ⟨.intro current answers, starting, moves.steady⟩
              · refine .inl (moved .refl ?_)
                rw [handled]
                exact traffic_handleServiceOutput_probe isResponse isProbe starting
            · refine .inl ?_
              cases isResponse : ServiceMessage.response? line with
              | none =>
                  rcases traffic_handleServiceOutput_other setup gateway isResponse with
                    same | ⟨raw, same⟩
                  · exact moved .refl (handled ▸ same)
                  · exact moved (.single (.told raw)) (handled ▸ same)
              | some response =>
                  obtain ⟨id, message⟩ := response
                  have noProbe : Exchange.isProbeId setup id = false := by
                    rw [← Bool.not_eq_true]
                    exact fun isProbe => answers (answersProbe_iff.mpr ⟨id, message, isResponse,
                      isProbe⟩)
                  have passage := (passage_handleServiceOutput setup line settled).1
                  simp only [response?, isResponse, Option.bind_some, noProbe, Bool.false_eq_true,
                    if_false, Option.map_some] at passage
                  rw [handled]
                  exact passage.steady
          · refine .inl (moved .refl ?_)
            simp only [Gateway.step, handleEvent, onServiceOutput, current]
            rfl
      | serviceError generation line => exact .inl (moved .refl rfl)
      | serviceExited generation code =>
          exact .inl (moved (gateway.moves_onServiceExited setup generation code) rfl)
      | serviceFailed generation detail =>
          exact .inl (moved (gateway.moves_onServiceFailed setup generation detail) rfl)
      | timer timer => exact .inl (moved (gateway.moves_onTimer setup timer) rfl)
      | shutdown => exact .inl (moved .refl rfl)

theorem state_terminate (gateway : Gateway) : gateway.terminate.state = .noProcess := by
  simp only [terminate, withHost, Host.terminate]
  split
  · split <;> rfl
  · rfl

theorem generation_terminate (gateway : Gateway) :
    gateway.terminate.generation = gateway.generation := by
  simp only [terminate, withHost, Host.terminate]
  split
  · split <;> rfl
  · rfl

/-- What the processes receive in a turn is what the deeds of the turn say. -/
theorem written_turn (setup : Setup) (gateway : Gateway) (turn : Turn)
    (settled : gateway.traffic.IsSettled) {deeds : List Deed}
    (ledger : (gateway.turn setup turn).ledger = gateway.ledger ++ deeds) :
    (gateway.turn setup turn).outside.written =
      gateway.outside.written ++ deeds.filterMap Deed.write? := by
  cases turn with
  | step step =>
      obtain ⟨done, grows, -⟩ := (passage_step setup gateway step settled).1.grows
      have same : gateway.ledger ++ deeds = gateway.ledger ++ done := ledger.symm.trans grows.ledger
      rw [List.append_cancel_left same]
      exact grows.written
  | terminate =>
      have nothing : gateway.ledger ++ deeds = gateway.ledger ++ [] := by
        rw [← ledger, List.append_nil]
        rfl
      rw [List.append_cancel_left nothing, List.filterMap_nil, List.append_nil]
      exact Host.written_terminate _

/-- What a turn does to the readiness of the service. -/
theorem steady_turn (setup : Setup) (gateway : Gateway) (turn : Turn)
    (settled : gateway.traffic.IsSettled) :
    (∃ deeds, Steady gateway.traffic deeds (gateway.turn setup turn).traffic) ∨
      gateway.Wakes setup turn ∧ gateway.state = .starting ∧
        ∃ deeds, Steady (gateway.traffic.wake setup) deeds (gateway.turn setup turn).traffic := by
  cases turn with
  | step step => exact gateway.steady_step setup step settled
  | terminate =>
      have gone : gateway.terminate.traffic.state = .noProcess := gateway.state_terminate
      exact .inl ⟨[], .idle rfl (by simp [turn, gone])⟩

theorem settled_afterTurns (setup : Setup) (outside : Outside) (turns : List Turn) :
    (afterTurns setup outside turns).traffic.IsSettled := by
  induction turns using List.reverseRecOn with
  | nil => exact settled_initial setup outside
  | append_singleton turns turn ih =>
      rw [afterTurns_concat]
      cases turn with
      | step step => exact (passage_step setup _ step ih).2
      | terminate =>
          intro ready
          have gone := state_terminate (afterTurns setup outside turns)
          exact absurd (gone.symm.trans ready) (by simp)

/-- A service that is not ready becomes ready in exactly the turns in which its process answers a
probe and those who wait can be passed on. -/
theorem ready_turn_iff (setup : Setup) (gateway : Gateway) (turn : Turn)
    (settled : gateway.traffic.IsSettled) (unready : gateway.state ≠ .ready) :
    (gateway.turn setup turn).state = .ready ↔ gateway.Wakes setup turn ∧
      ∀ failure, some failure ∉ gateway.outside.writeOutcomes.take gateway.queue.length := by
  constructor
  · intro ready
    rcases gateway.steady_turn setup turn settled with ⟨deeds, steady⟩ | ⟨wakes, starting, -⟩
    · exact absurd (steady.ready ready).1 unready
    · exact ⟨wakes, (ready_wakes_iff wakes starting).mp ready⟩
  · rintro ⟨wakes, success⟩
    have starting : gateway.state = .starting := by
      obtain ⟨current, -⟩ := wakes
      have running := (Host.isCurrent_iff.mp current).1
      cases present : gateway.state with
      | noProcess => exact absurd present running
      | starting => rfl
      | ready => exact absurd present unready
    exact (ready_wakes_iff wakes starting).mpr success

/-- A service that is ready stops being ready in exactly these turns. -/
theorem unready_turn_iff (setup : Setup) (gateway : Gateway) (turn : Turn)
    (settled : gateway.traffic.IsSettled) (ready : gateway.state = .ready) :
    (gateway.turn setup turn).state ≠ .ready ↔ gateway.Unsettles setup turn := by
  cases turn with
  | step step => exact unready_step_iff setup gateway step settled ready
  | terminate => exact iff_of_true (by simp [Gateway.turn, state_terminate]) .terminated

/-! ## Runs -/

/-- Before a service is ready, its process has answered a probe. -/
theorem woken_before_ready (setup : Setup) (outside : Outside) (turns : List Turn)
    (ready : (afterTurns setup outside turns).state = .ready) :
    ∃ first turn rest, turns = first ++ turn :: rest ∧
      (afterTurns setup outside first).Wakes setup turn ∧
      (afterTurns setup outside first).generation =
        (afterTurns setup outside turns).generation := by
  induction turns using List.reverseRecOn with
  | nil =>
      have idle := congrArg Traffic.state (traffic_initial setup outside)
      exact absurd (idle.symm.trans ready) (by simp)
  | append_singleton turns last ih =>
      rw [afterTurns_concat] at ready ⊢
      rcases steady_turn setup _ last (settled_afterTurns setup outside turns) with
        ⟨deeds, steady⟩ | ⟨wakes, -, deeds, steady⟩
      · obtain ⟨readyThen, same, -⟩ := steady.ready ready
        obtain ⟨first, turn, rest, rfl, wakes, generation⟩ := ih readyThen
        exact ⟨first, turn, rest ++ [last], by simp, wakes, generation.trans same.symm⟩
      · obtain ⟨-, same, -⟩ := steady.ready ready
        exact ⟨turns, last, [], rfl, wakes, same.symm⟩

/-- The service becomes ready in exactly the turns in which its process answers a probe and no
write to it of those who wait fails, and stops being ready in exactly those in which its process
ends, a write to it fails, too many probes are unanswered or the relay ends.  So before a process
is ready it has answered a probe, and in every turn lines of the client are written only to the
process that is ready, or has just become so, and only before a write to it fails. -/
theorem readiness_changes_only_for_cause (setup : Setup) (outside : Outside)
    (turns : List Turn) (turn : Turn) :
    let gateway := afterTurns setup outside turns
    let later := gateway.turn setup turn
    (gateway.state ≠ .ready → (later.state = .ready ↔ gateway.Wakes setup turn ∧
        ∀ failure, some failure ∉ gateway.outside.writeOutcomes.take gateway.queue.length)) ∧
      (gateway.state = .ready → (later.state ≠ .ready ↔ gateway.Unsettles setup turn)) ∧
      (gateway.state = .ready → ∃ first earlier rest, turns = first ++ earlier :: rest ∧
        (afterTurns setup outside first).Wakes setup earlier ∧
        (afterTurns setup outside first).generation = gateway.generation) ∧
      ∃ deeds, later.ledger = gateway.ledger ++ deeds ∧
        later.outside.written = gateway.outside.written ++ deeds.filterMap Deed.write? ∧
        ∀ early generation entry rest, deeds = early ++ .written generation entry :: rest →
          generation = gateway.generation ∧
            (gateway.state = .ready ∨ gateway.state = .starting ∧ gateway.Wakes setup turn) ∧
            ∀ other refused, .refused other refused ∉ early := by
  intro gateway later
  have settled : gateway.traffic.IsSettled := settled_afterTurns setup outside turns
  refine ⟨ready_turn_iff setup gateway turn settled, unready_turn_iff setup gateway turn settled,
    woken_before_ready setup outside turns, ?_⟩
  rcases gateway.steady_turn setup turn settled with
    ⟨deeds, steady⟩ | ⟨wakes, starting, deeds, steady⟩
  · refine ⟨deeds, steady.ledger, written_turn setup gateway turn settled steady.ledger,
      fun early generation entry rest split => ?_⟩
    obtain ⟨ready, own, unrefused⟩ := steady.written early generation entry rest split
    exact ⟨own, .inl ready, unrefused⟩
  · refine ⟨deeds, steady.ledger, written_turn setup gateway turn settled steady.ledger,
      fun early generation entry rest split => ?_⟩
    obtain ⟨-, own, unrefused⟩ := steady.written early generation entry rest split
    exact ⟨own, .inr ⟨starting, wakes⟩, unrefused⟩

end Gateway

end BrowserRelay
