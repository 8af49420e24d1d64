import BrowserRelay.Proofs.ServiceEvents

/-!
# What one step does to the traffic

Every step is a course of moves, except that a message of the client may arrive in it, or the
service may become ready.
-/

namespace BrowserRelay

/-- The entry in which a message waits. -/
def ClientMessage.entry (message : ClientMessage) : QueuedRequest :=
  ⟨message.answerId, message.raw, Gateway.responsePlan message, 0⟩

/-- What a process says to a request. -/
structure Response where
  id : RequestId
  message : ServiceMessage
  raw : String

/-- What arrives in a step and changes the traffic. -/
inductive Arrival where
  /-- A message of the client is accepted, and taken in if there is a process for it. -/
  | message (message : ClientMessage) (served : Bool)
  /-- The present process responds to a request, and not to a probe. -/
  | response (response : Response)

/-- What one step does to the traffic. -/
inductive Passage (setup : Setup) : Traffic → Option Arrival → Traffic → Prop
  /-- Nothing arrives. -/
  | quiet {before after : Traffic} (moves : Moves setup before after) :
      Passage setup before none after
  /-- Nothing arrives, but the service becomes ready. -/
  | woken {before after : Traffic} (starting : before.state = .starting)
      (moves : Moves setup (before.wake setup) after) : Passage setup before none after
  /-- A message arrives and is turned away. -/
  | turnedAway {before after : Traffic} (message : ClientMessage) (failure : Failure)
      (free : ∀ id, message.answerId = some id → before.IsFree id)
      (moves : Moves setup (before.turnAway message.answerId failure) after) :
      Passage setup before (some (.message message false)) after
  /-- A message arrives and is taken in. -/
  | takenIn {before middle after : Traffic} (message : ClientMessage)
      (first : Moves setup before middle) (kept : middle.expired = before.expired)
      (free : ∀ id, message.answerId = some id → middle.IsFree id)
      (moves : Moves setup (middle.takeIn setup message.entry) after) :
      Passage setup before (some (.message message true)) after
  /-- A pending call is responded to. -/
  | responded {before : Traffic} {call : PendingCall} (response : Response)
      (found : CallTable.find? before.pending response.id = some call) :
      Passage setup before (some (.response response))
        (before.respond response.id
          (Gateway.responseText setup call.plan response.message response.raw))
  /-- A call is responded to that has timed out. -/
  | recalled {before : Traffic} (response : Response)
      (missing : CallTable.find? before.pending response.id = none)
      (timedOut : (before.expired.any fun call => call.id = response.id) = true) :
      Passage setup before (some (.response response)) (before.forgetExpired response.id)
  /-- A response arrives that nobody waits for. -/
  | unmatched {before : Traffic} (response : Response)
      (missing : CallTable.find? before.pending response.id = none)
      (unknown : (before.expired.any fun call => call.id = response.id) = false) :
      Passage setup before (some (.response response)) (before.enter (.told response.raw))

/-! ## Nobody waits for a service that is ready -/

theorem Move.isSettled {setup : Setup} {before after : Traffic} (move : Move setup before after)
    (settled : before.IsSettled) : after.IsSettled := by
  intro ready
  cases move with
  | launched => simp [Traffic.launch] at ready
  | launchFailed idle => simp [Traffic.failLaunch, Traffic.disarm, idle] at ready
  | probed => exact settled ready
  | probeRefused => simp [Traffic.demote, Traffic.disarm] at ready
  | demoted => simp [Traffic.demote] at ready
  | wrote isReady waiting => simp [settled isReady] at waiting
  | abandoned => simp [Traffic.failAll, Traffic.failPresent, Traffic.forget, Traffic.release,
      Traffic.disarm] at ready
  | retried => simp [Traffic.failAll, Traffic.failPresent, Traffic.forget, Traffic.release,
      Traffic.disarm, Traffic.requeue] at ready
  | ended => simp [Traffic.failAll, Traffic.failPresent, Traffic.forget, Traffic.release,
      Traffic.disarm, Traffic.armRestart] at ready
  | queueFailed => rfl
  | expired => exact settled ready
  | withdrawn => simp [Traffic.answer, Traffic.withdraw, Traffic.enter, RequestQueue.remove,
      settled ready]
  | startedLate => simp [Traffic.fail, Traffic.answer, Traffic.withdraw, Traffic.enter,
      Traffic.disarm, RequestQueue.remove, settled ready]
  | told => exact settled ready
  | elapsed => exact settled ready

theorem Moves.isSettled {setup : Setup} {before after : Traffic}
    (moves : Moves setup before after) (settled : before.IsSettled) : after.IsSettled := by
  induction moves with
  | refl => exact settled
  | tail _ move ih => exact move.isSettled ih

namespace Gateway

variable {setup : Setup} {gateway : Gateway}

/-! ## Lines of the process -/

/-- The response to a request that a line of a process is, if it is one. -/
def response? (setup : Setup) (line : String) : Option Response :=
  (ServiceMessage.response? line).bind fun (id, message) =>
    if Exchange.isProbeId setup id then none else some ⟨id, message, Text.trim line⟩

theorem passage_handleServiceOutput (setup : Setup) (line : String)
    (settled : gateway.traffic.IsSettled) :
    Passage setup gateway.traffic ((response? setup line).map .response)
        (gateway.handleServiceOutput setup line).traffic ∧
      (gateway.handleServiceOutput setup line).traffic.IsSettled := by
  have quiet (after : Traffic) (moves : Moves setup gateway.traffic after) :
      Passage setup gateway.traffic none after ∧ after.IsSettled :=
    ⟨.quiet moves, moves.isSettled settled⟩
  cases isResponse : ServiceMessage.response? line with
  | none =>
      simp only [response?, isResponse, Option.bind_none, Option.map_none]
      rcases traffic_handleServiceOutput_other setup gateway isResponse with same | ⟨raw, same⟩
      · rw [same]
        exact quiet _ .refl
      · rw [same]
        exact quiet _ (.single (.told raw))
  | some response =>
      obtain ⟨id, message⟩ := response
      cases isProbe : Exchange.isProbeId setup id with
      | true =>
          simp only [response?, isResponse, Option.bind_some, isProbe, if_true, Option.map_none]
          by_cases starting : gateway.state = .starting
          · obtain ⟨later, woken, -, drained⟩ :=
              handleServiceOutput_woken isResponse isProbe starting
            rw [drained, drainQueue_eq]
            exact ⟨.woken starting (woken ▸ later.moves_passOnWaiting setup _),
              later.settled_passOnWaiting setup _ (Nat.le_refl _)⟩
          · rw [traffic_handleServiceOutput_probe isResponse isProbe starting]
            exact quiet _ .refl
      | false =>
          simp only [response?, isResponse, Option.bind_some, isProbe, Bool.false_eq_true,
            if_false, Option.map_some]
          cases found : CallTable.find? gateway.pending id with
          | some call =>
              rw [traffic_handleServiceOutput_matched isResponse isProbe found]
              exact ⟨.responded ⟨id, message, Text.trim line⟩ found, settled⟩
          | none =>
              cases timedOut : gateway.expired.any fun call => call.id = id with
              | true =>
                  rw [traffic_handleServiceOutput_late isResponse isProbe found timedOut]
                  exact ⟨.recalled ⟨id, message, Text.trim line⟩ found timedOut, settled⟩
              | false =>
                  rw [traffic_handleServiceOutput_unmatched isResponse isProbe found timedOut]
                  exact ⟨.unmatched ⟨id, message, Text.trim line⟩ found timedOut, settled⟩

/-- What arrives with a line of the process of a generation. -/
def presentResponse? (setup : Setup) (gateway : Gateway) (generation : Nat) (line : String) :
    Option Arrival :=
  if gateway.isCurrent generation then (response? setup line).map .response else none

theorem passage_onServiceOutput (setup : Setup) (generation : Nat) (line : String)
    (settled : gateway.traffic.IsSettled) :
    Passage setup gateway.traffic (gateway.presentResponse? setup generation line)
        (gateway.onServiceOutput setup generation line).traffic ∧
      (gateway.onServiceOutput setup generation line).traffic.IsSettled := by
  unfold onServiceOutput presentResponse?
  split
  case isTrue => exact passage_handleServiceOutput setup line settled
  case isFalse => exact ⟨.quiet .refl, settled⟩

/-! ## Messages of the client -/

theorem traffic_generateScript (setup : Setup) (gateway : Gateway) (id : Option RequestId) :
    (gateway.generateScript setup id).traffic = gateway.traffic ∨
      ∃ line, (gateway.generateScript setup id).traffic = gateway.traffic.enter (.told line) := by
  obtain ⟨journal, generated⟩ := gateway.generateScript_eq setup id
  have same : (gateway.afterEmission setup journal).traffic = gateway.traffic := rfl
  rw [generated]
  cases id with
  | none => exact .inl same
  | some id =>
      refine .inr ⟨Envelope.successLine id (gateway.emissionReport setup).toolResult, ?_⟩
      rw [tellReport, traffic_tell, same]

theorem traffic_accept (gateway : Gateway) (message : ClientMessage) :
    (gateway.accept message).traffic = gateway.traffic.accept message.answerId := by
  cases present : message.answerId with
  | none => simp [accept, present, Traffic.accept]
  | some id =>
      simp only [accept, present, traffic_enter]
      rfl

theorem toHost_accept (gateway : Gateway) (message : ClientMessage) :
    (gateway.accept message).toHost = gateway.toHost := by
  unfold accept
  split <;> rfl

theorem isOk_ensureStarted (setup : Setup) (gateway : Gateway) (trigger : Option RequestId) :
    (gateway.ensureStarted setup trigger).1.isOk =
      (gateway.hasProcess || (gateway.toHost.start setup).1.isOk) := by
  cases present : gateway.hasProcess with
  | true => simp [ensureStarted, present, Except.isOk, Except.toBool]
  | false =>
      simp only [ensureStarted, present, startService, Bool.false_eq_true, if_false, Bool.false_or]
      cases started : gateway.toHost.start setup with
      | mk result host =>
        rcases result with failure | ready | generation <;> rfl

/-- What is left to do with a message of the client once there is a process for it. -/
def forwardStarted (setup : Setup) (started : Gateway) (message : ClientMessage) : Gateway :=
  let recorded := started.record setup message
  let timed :=
    match message.answerId with
    | none => recorded
    | some id =>
        recorded.withHost
          (recorded.toHost.schedule (.callDeadline id)
            (.once setup.settings.service.callTimeout))
  let noted :=
    timed.note .debug "client.request"
      [("method", .string message.methodName), ("id", idJson message.answerId),
        ("ready", .bool timed.isReady)]
  (noted.enter (.forwarded message.entry)).passOn setup message.entry

theorem writeOutcomes_record (setup : Setup) (gateway : Gateway) (message : ClientMessage) :
    (gateway.record setup message).outside.writeOutcomes = gateway.outside.writeOutcomes := by
  obtain ⟨actions, files, journal, recorded⟩ := exists_record setup gateway message
  rw [recorded]

theorem forwardStarted_eq (setup : Setup) (started : Gateway) (message : ClientMessage) :
    ∃ taken : Gateway,
      forwardStarted setup started message = taken.passOn setup message.entry ∧
      taken.outside.writeOutcomes = started.outside.writeOutcomes ∧
      taken.traffic =
        (started.traffic.armDeadline setup message.answerId).enter (.forwarded message.entry) := by
  refine ⟨_, rfl, ?_, ?_⟩
  · rw [← writeOutcomes_record setup started message]
    cases message.answerId <;> rfl
  · rw [traffic_enter, traffic_note, ← traffic_record setup started message]
    cases message.answerId with
    | none => rfl
    | some id =>
        simp only [Traffic.armDeadline, withHost, traffic, Exchange.traffic, Host.schedule,
          TimerTable.rule?_schedule]

/-- A message for which there is a process is taken in behind all others.  It waits unless the
service is ready; then nobody waits, and it is passed on. -/
theorem forwardStarted_cases (setup : Setup) {started : Gateway} {message : ClientMessage}
    {middle : Traffic} (same : started.traffic = middle.accept message.answerId)
    (settled : middle.IsSettled) :
    (∃ taken : Gateway, taken.state = .ready ∧ taken.queue = [] ∧
        taken.outside.writeOutcomes = started.outside.writeOutcomes ∧
        forwardStarted setup started message = taken.passOn setup message.entry ∧
        { taken.traffic with queue := message.entry :: taken.queue } =
          middle.takeIn setup message.entry) ∨
      middle.state ≠ .ready ∧ (forwardStarted setup started message).traffic =
        middle.takeIn setup message.entry := by
  obtain ⟨taken, passed, outcomes, takenTraffic⟩ := forwardStarted_eq setup started message
  rw [same] at takenTraffic
  have takenState : taken.state = middle.state := congrArg Traffic.state takenTraffic
  have takenQueue : taken.queue = middle.queue := congrArg Traffic.queue takenTraffic
  by_cases ready : taken.state = .ready
  · have nobody : middle.queue = [] := settled (takenState.symm.trans ready)
    refine .inl ⟨taken, ready, takenQueue.trans nobody, outcomes, passed, ?_⟩
    rw [Traffic.takeIn, takenTraffic, takenQueue, nobody]
    rfl
  · refine .inr ⟨takenState ▸ ready, ?_⟩
    rw [passed, traffic_passOn_waiting setup taken message.entry ready, takenTraffic, takenQueue]
    rfl

theorem moves_forwardStarted (setup : Setup) {started : Gateway} {message : ClientMessage}
    {middle : Traffic} (same : started.traffic = middle.accept message.answerId)
    (settled : middle.IsSettled) :
    Moves setup (middle.takeIn setup message.entry)
        (forwardStarted setup started message).traffic ∧
      (forwardStarted setup started message).traffic.IsSettled := by
  rcases forwardStarted_cases setup same settled with
    ⟨taken, ready, nobody, -, passed, start⟩ | ⟨unready, waits⟩
  · obtain ⟨moves, left⟩ := moves_passOn_ready setup taken message.entry ready
    rw [passed]
    exact ⟨start ▸ moves, fun isReady => (left isReady).trans nobody⟩
  · rw [waits]
    exact ⟨.refl, fun ready => absurd ready unready⟩

theorem forward_started {message : ClientMessage} {started : Gateway}
    (result : (gateway.accept message).ensureStarted setup message.answerId = (.ok (), started)) :
    gateway.forward setup message = forwardStarted setup started message := by
  simp only [forward, result]
  rfl

/-- A message for which there is no process is turned away, and with it all who wait. -/
theorem traffic_forward_unstarted {message : ClientMessage} {failure : Failure}
    {unstarted : Gateway}
    (result : (gateway.accept message).ensureStarted setup message.answerId =
      (.error failure, unstarted))
    (same : unstarted.traffic = (gateway.accept message).traffic.failLaunch) :
    (gateway.forward setup message).traffic =
      (gateway.traffic.turnAway message.answerId failure).failLaunch.failQueue failure := by
  cases present : message.answerId with
  | none =>
      rw [present] at result
      simp only [forward, present, result, traffic_failQueued, same, traffic_accept,
        Traffic.turnAway, Option.toList_none, List.map_nil, List.append_nil]
  | some id =>
      rw [present] at result
      simp only [forward, present, result, traffic_failQueued, traffic_answer, same,
        traffic_accept]
      rfl

theorem passage_forward (setup : Setup) (gateway : Gateway) (message : ClientMessage)
    (settled : gateway.traffic.IsSettled)
    (free : ∀ id, message.answerId = some id → gateway.traffic.IsFree id) :
    Passage setup gateway.traffic (some (.message message (gateway.isServed setup message)))
        (gateway.forward setup message).traffic ∧
      (gateway.forward setup message).traffic.IsSettled := by
  have served : gateway.isServed setup message =
      ((gateway.accept message).ensureStarted setup message.answerId).1.isOk := by
    rw [isServed, isOk_ensureStarted, isOk_ensureStarted, toHost_accept]
  rcases ensureStarted_cases setup (gateway.accept message) message.answerId with
    ⟨started, result, running, same⟩ | ⟨failure, unstarted, result, idle, same⟩
  · rw [served, result, forward_started result]
    rcases same with same | ⟨idle, same⟩
    · have accepted := same.trans (gateway.traffic_accept message)
      obtain ⟨moves, after⟩ := moves_forwardStarted setup accepted settled
      exact ⟨.takenIn message .refl rfl free moves, after⟩
    · have accepted : started.traffic = (gateway.traffic.launch setup).accept message.answerId := by
        rw [same, traffic_accept]
        rfl
      have launchedSettled : (gateway.traffic.launch setup).IsSettled :=
        fun ready => by simp [Traffic.launch] at ready
      obtain ⟨moves, after⟩ := moves_forwardStarted setup accepted launchedSettled
      have none : gateway.traffic.state = .noProcess := by
        rwa [toHost_accept] at idle
      exact ⟨.takenIn message (.single (.launched none)) rfl free moves, after⟩
  · have none : gateway.traffic.state = .noProcess := by
      rwa [toHost_accept] at idle
    have moves : Moves setup (gateway.traffic.turnAway message.answerId failure)
        (gateway.forward setup message).traffic := by
      rw [traffic_forward_unstarted result same]
      exact .tail (.single (.launchFailed none)) (.queueFailed failure none)
    rw [served, result]
    refine ⟨.turnedAway message failure free moves, moves.isSettled fun ready => ?_⟩
    exact absurd (none.symm.trans ready) (by simp)

/-- A message without an identifier in use is a call of the relay's own tool or is passed
on. -/
theorem acceptMessage_cases (setup : Setup) (gateway : Gateway) (message : ClientMessage) :
    (message.toolName ≠ some setup.settings.tool.name ∧
        gateway.acceptMessage setup message = gateway.forward setup message) ∨
      message.toolName = some setup.settings.tool.name ∧
        ((gateway.acceptMessage setup message).traffic = gateway.traffic ∨
          ∃ told, (gateway.acceptMessage setup message).traffic =
            gateway.traffic.enter (.told told)) := by
  by_cases own : message.toolName = some setup.settings.tool.name
  · refine .inr ⟨own, ?_⟩
    simp only [acceptMessage, own, if_true]
    exact gateway.traffic_generateScript setup message.id
  · exact .inl ⟨own, by simp only [acceptMessage, own, if_false]⟩

theorem isFree_of_idRefusal {id : RequestId} (allowed : gateway.idRefusal setup id = none) :
    gateway.traffic.IsFree id := by
  unfold idRefusal at allowed
  split at allowed
  case isTrue => simp at allowed
  case isFalse =>
    split at allowed
    case isTrue => simp at allowed
    case isFalse unused =>
      simp only [Bool.or_eq_true, not_or, Bool.not_eq_true, Exchange.isPending,
        Option.isSome_eq_false_iff, Option.isNone_iff_eq_none] at unused
      exact unused

/-- A line of the client is passed on if its message is accepted; otherwise it leaves the
traffic alone, but for what the client is told. -/
theorem handleClientLine_cases (setup : Setup) (gateway : Gateway) (line : String) :
    (∃ message, gateway.accepted? setup (.event (.clientLine line)) = some message ∧
        gateway.handleClientLine setup line = gateway.forward setup message ∧
        ∀ id, message.answerId = some id → gateway.traffic.IsFree id) ∨
      gateway.accepted? setup (.event (.clientLine line)) = none ∧
        ((gateway.handleClientLine setup line).traffic = gateway.traffic ∨
          ∃ told, (gateway.handleClientLine setup line).traffic =
            gateway.traffic.enter (.told told)) := by
  by_cases blank : Text.isBlankText line = true
  · exact .inr (by simp only [accepted?, handleClientLine, blank, if_true, true_or, and_self])
  cases parsed : ClientMessage.parse line with
  | error failure =>
      refine .inr ⟨by simp [accepted?, blank, parsed], .inr
        ⟨Envelope.errorLineFor none failure, ?_⟩⟩
      simp [handleClientLine, blank, parsed]
  | ok message =>
      have handled : gateway.handleClientLine setup line = gateway.handleMessage setup message := by
        simp only [handleClientLine, blank, parsed]
        rfl
      rw [handled]
      cases request : message.answerId with
      | none =>
          have taken : gateway.handleMessage setup message =
              gateway.acceptMessage setup message := by
            simp only [handleMessage, request]
          rw [taken]
          rcases gateway.acceptMessage_cases setup message with ⟨other, forwarded⟩ | ⟨own, kept⟩
          · refine .inl ⟨message, ?_, forwarded, by simp [request]⟩
            simp [accepted?, blank, parsed, request, other]
          · refine .inr ⟨?_, kept⟩
            simp [accepted?, blank, parsed, request, own]
      | some id =>
          cases refusal : gateway.idRefusal setup id with
          | some failure =>
              refine .inr ⟨by simp [accepted?, blank, parsed, request, refusal], .inr
                ⟨Envelope.errorLineFor (some id) failure, ?_⟩⟩
              simp only [handleMessage, request, refusal, traffic_tell, traffic_note]
          | none =>
              have taken : gateway.handleMessage setup message =
                  gateway.acceptMessage setup message := by
                simp only [handleMessage, request, refusal]
              rw [taken]
              rcases gateway.acceptMessage_cases setup message with ⟨other, forwarded⟩ | ⟨own, kept⟩
              · refine .inl ⟨message, ?_, forwarded, ?_⟩
                · simp [accepted?, blank, parsed, request, refusal, other]
                · intro present same
                  obtain rfl := Option.some.inj (request.symm.trans same)
                  exact isFree_of_idRefusal refusal
              · refine .inr ⟨?_, kept⟩
                simp [accepted?, blank, parsed, request, refusal, own]

/-! ## Steps -/

/-- What arrives in a step. -/
def arrival? (setup : Setup) (gateway : Gateway) : Step → Option Arrival
  | .event (.clientLine line) =>
      (gateway.accepted? setup (.event (.clientLine line))).map fun message =>
        .message message (gateway.isServed setup message)
  | .event (.serviceOutput generation line) => gateway.presentResponse? setup generation line
  | _ => none

theorem moves_start (setup : Setup) (gateway : Gateway) :
    Moves setup gateway.traffic (gateway.step setup .start).traffic := by
  rcases startService_cases setup gateway with
    ⟨outcome, started, result, -, same | ⟨idle, same⟩⟩ | ⟨failure, unstarted, result, idle, same⟩
  · simp only [Gateway.step, result, same]
    exact .refl
  · simp only [Gateway.step, result, same]
    exact .single (.launched idle)
  · simp only [Gateway.step, result, same]
    exact .single (.launchFailed idle)

/-- What one step does to the traffic.  A service that is ready leaves nobody waiting. -/
theorem passage_step (setup : Setup) (gateway : Gateway) (step : Step)
    (settled : gateway.traffic.IsSettled) :
    Passage setup gateway.traffic (gateway.arrival? setup step)
        (gateway.step setup step).traffic ∧
      (gateway.step setup step).traffic.IsSettled := by
  have quiet (after : Traffic) (moves : Moves setup gateway.traffic after) :
      Passage setup gateway.traffic none after ∧ after.IsSettled :=
    ⟨.quiet moves, moves.isSettled settled⟩
  cases step with
  | start => exact quiet _ (gateway.moves_start setup)
  | event event =>
      cases event with
      | clientLine line =>
          rcases gateway.handleClientLine_cases setup line with
            ⟨message, accepted, forwarded, free⟩ | ⟨nothing, same | ⟨told, same⟩⟩
          · have passage := passage_forward setup gateway message settled free
            rw [← forwarded] at passage
            rw [arrival?, accepted]
            exact passage
          · simp only [arrival?, nothing]
            exact same ▸ quiet _ .refl
          · simp only [arrival?, nothing]
            exact same ▸ quiet _ (.single (.told told))
      | clientClosed => exact quiet _ .refl
      | serviceOutput generation line => exact passage_onServiceOutput setup generation line settled
      | serviceError generation line => exact quiet _ .refl
      | serviceExited generation code =>
          exact quiet _ (gateway.moves_onServiceExited setup generation code)
      | serviceFailed generation detail =>
          exact quiet _ (gateway.moves_onServiceFailed setup generation detail)
      | timer timer => exact quiet _ (gateway.moves_onTimer setup timer)
      | shutdown => exact quiet _ .refl
  | elapse timer => exact quiet _ (gateway.moves_elapse setup timer)
  | meanwhile outside => exact quiet _ .refl

/-- What every move and every arrival keeps holds of the traffic after every run. -/
theorem traffic_induction {setup : Setup} {Holds : Traffic → Prop}
    (keeps : ∀ before arrival after, before.IsSettled → Passage setup before arrival after →
      Holds before → Holds after)
    {gateway : Gateway} (settled : gateway.traffic.IsSettled) (holds : Holds gateway.traffic)
    (steps : List Step) :
    Holds (gateway.run setup steps).traffic ∧ (gateway.run setup steps).traffic.IsSettled := by
  have keepsBoth (gateway : Gateway) (step : Step)
      (both : Holds gateway.traffic ∧ gateway.traffic.IsSettled) :
      Holds (gateway.step setup step).traffic ∧ (gateway.step setup step).traffic.IsSettled := by
    obtain ⟨passage, settled⟩ := passage_step setup gateway step both.2
    exact ⟨keeps _ _ _ both.2 passage both.1, settled⟩
  exact run_induction keepsBoth ⟨holds, settled⟩ steps

end Gateway

end BrowserRelay
