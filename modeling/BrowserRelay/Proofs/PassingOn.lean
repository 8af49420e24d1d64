import BrowserRelay.Proofs.Recording
import BrowserRelay.Proofs.Run
import BrowserRelay.Proofs.Traffic

/-!
# Passing messages on

What the parts of the gateway do to the traffic, up to passing on the messages that wait.
Draining the queue hands out its outcomes only when it is through; since nothing is passed on
after a message that could not be written, they can as well be settled as they come up.
-/

namespace BrowserRelay

theorem Outside.written_kill (outside : Outside) (generation : Nat) :
    (outside.kill generation).2.written = outside.written := by
  unfold kill
  split <;> rfl

namespace Exchange

variable {setup : Setup} {exchange : Exchange}

@[simp]
theorem traffic_enter (exchange : Exchange) (deed : Deed) :
    (exchange.enter deed).traffic = exchange.traffic.enter deed :=
  rfl

@[simp]
theorem traffic_addPending (exchange : Exchange) (entry : QueuedRequest) :
    (exchange.addPending entry).traffic = exchange.traffic.addPending entry := by
  cases entry with
  | mk id line plan attempts => cases id <;> rfl

theorem start_running (setup : Setup) (running : exchange.state ≠ .noProcess) :
    ∃ ready, exchange.toHost.start setup = (.ok (.alreadyRunning ready), exchange.toHost) := by
  cases present : exchange.state with
  | noProcess => exact absurd present running
  | starting => exact ⟨false, by simp only [Host.start, present]⟩
  | ready => exact ⟨true, by simp only [Host.start, present]⟩

theorem start_launched (setup : Setup) (idle : exchange.state = .noProcess)
    (success : exchange.outside.launchOutcomes.next = none) :
    ∃ host, exchange.toHost.start setup = (.ok (.spawned (exchange.generation + 1)), host) ∧
      (exchange.withHost host).traffic = exchange.traffic.launch setup := by
  refine ⟨_, by simp only [Host.start, idle, Outside.launch, Host.cancel, success]; rfl, ?_⟩
  simp [traffic, Traffic.launch, Traffic.arm, Traffic.disarm, withHost, Host.note,
    Host.armStartTimers, Host.schedule, Outside.note]

theorem start_failed (setup : Setup) {failure : Failure} (idle : exchange.state = .noProcess)
    (failing : exchange.outside.launchOutcomes.next = some failure) :
    ∃ host, exchange.toHost.start setup = (.error failure, host) ∧
      (exchange.withHost host).traffic = exchange.traffic.failLaunch := by
  refine ⟨_, by simp only [Host.start, idle, Outside.launch, Host.cancel, failing]; rfl, ?_⟩
  simp [traffic, Traffic.failLaunch, Traffic.disarm, withHost, Host.note, idle, Outside.note]

theorem start_cases (setup : Setup) (idle : exchange.state = .noProcess) :
    (∃ host, exchange.toHost.start setup = (.ok (.spawned (exchange.generation + 1)), host) ∧
        (exchange.withHost host).traffic = exchange.traffic.launch setup) ∨
      ∃ failure host, exchange.toHost.start setup = (.error failure, host) ∧
        (exchange.withHost host).traffic = exchange.traffic.failLaunch := by
  cases outcome : exchange.outside.launchOutcomes.next with
  | none => exact .inl (start_launched setup idle outcome)
  | some failure => exact .inr ⟨failure, start_failed setup idle outcome⟩

theorem writeLine_written (line : String) (running : exchange.state ≠ .noProcess)
    (success : exchange.outside.writeOutcomes.next = none) :
    ∃ host, exchange.toHost.writeLine line = (.ok (), host) ∧
      (exchange.withHost host).traffic =
        { exchange.traffic with
          written := exchange.traffic.written ++ [⟨exchange.generation, line⟩] } ∧
      host.outside.writeOutcomes = exchange.outside.writeOutcomes.later := by
  have present : exchange.toHost.hasProcess = true := Host.hasProcess_iff.mpr running
  simp only [Host.writeLine, present, if_true, Outside.writeLine, success]
  exact ⟨_, rfl, rfl, rfl⟩

theorem writeLine_refused (line : String) {failure : Failure}
    (running : exchange.state ≠ .noProcess)
    (failing : exchange.outside.writeOutcomes.next = some failure) :
    ∃ host, exchange.toHost.writeLine line = (.error failure, host) ∧
      (exchange.withHost host).traffic = exchange.traffic := by
  have present : exchange.toHost.hasProcess = true := Host.hasProcess_iff.mpr running
  simp only [Host.writeLine, present, if_true, Outside.writeLine, failing]
  exact ⟨_, rfl, rfl⟩

theorem traffic_teardown (exchange : Exchange) :
    (exchange.withHost exchange.toHost.teardown).traffic = exchange.traffic.release := by
  unfold Host.teardown
  split
  · have kept := exchange.outside.written_kill exchange.generation
    simp [traffic, Traffic.release, Traffic.disarm, withHost, Host.cancelProbeTimers, Host.cancel,
      Host.note, Outside.note, kept]
  · simp [traffic, Traffic.release, Traffic.disarm, withHost, Host.cancelProbeTimers, Host.cancel,
      Host.note, Outside.note]

theorem giveUp_orphaned (exchange : Exchange) :
    exchange.giveUp.1 = CallTable.ofGeneration exchange.pending exchange.generation := by
  unfold giveUp Host.teardown
  rfl

theorem traffic_giveUp (exchange : Exchange) :
    exchange.giveUp.2.traffic = exchange.traffic.release.forget :=
  congrArg Traffic.forget exchange.traffic_teardown

theorem afterFailedWrite_cases (setup : Setup) (exchange : Exchange) (entry : QueuedRequest)
    (failure : Failure) :
    let failed := { entry with attempts := entry.attempts + 1 }
    let orphaned := CallTable.ofGeneration exchange.pending exchange.generation
    let lost := exchange.traffic.release.forget
    (∃ later,
        exchange.afterFailedWrite setup entry failure =
          (.abandoned failed failure orphaned, later) ∧
        setup.settings.service.maxWriteRetries < entry.attempts + 1 ∧ later.traffic = lost) ∨
      entry.attempts + 1 ≤ setup.settings.service.maxWriteRetries ∧
        ((∃ later,
            exchange.afterFailedWrite setup entry failure = (.retrying orphaned, later) ∧
            later.traffic = (lost.requeue failed).launch setup) ∨
          ∃ respawn later,
            exchange.afterFailedWrite setup entry failure =
              (.respawnFailed respawn orphaned, later) ∧
            later.traffic = (lost.requeue failed).failLaunch) := by
  intro failed orphaned lost
  obtain ⟨bare, givenUp⟩ : ∃ bare, exchange.giveUp = (orphaned, bare) :=
    ⟨exchange.giveUp.2, Prod.ext exchange.giveUp_orphaned rfl⟩
  have bareTraffic : bare.traffic = lost := by
    simpa only [givenUp] using exchange.traffic_giveUp
  by_cases tooOften : setup.settings.service.maxWriteRetries < entry.attempts + 1
  · refine .inl ⟨bare, ?_, tooOften, bareTraffic⟩
    simp [afterFailedWrite, givenUp, tooOften, failed]
  · refine .inr ⟨Nat.le_of_not_lt tooOften, ?_⟩
    let requeued := { bare with queue := RequestQueue.requeueFront bare.queue failed }
    have idle : requeued.state = .noProcess := congrArg Traffic.state bareTraffic
    have requeuedTraffic : requeued.traffic = lost.requeue failed :=
      congrArg (Traffic.requeue · failed) bareTraffic
    rcases start_cases setup idle with ⟨host, started, same⟩ | ⟨respawn, host, started, same⟩
    · have spawned : bare.toHost.start setup = _ := started
      refine .inl ⟨requeued.withHost host, ?_, requeuedTraffic ▸ same⟩
      simp only [afterFailedWrite, givenUp, tooOften, if_false, spawned]
      rfl
    · have unspawned : bare.toHost.start setup = _ := started
      refine .inr ⟨respawn, requeued.withHost host, ?_, requeuedTraffic ▸ same⟩
      simp only [afterFailedWrite, givenUp, tooOften, if_false, unspawned]
      rfl

theorem dispatch_waiting (entry : QueuedRequest) (unready : exchange.state ≠ .ready) :
    exchange.dispatch setup entry =
      (.queued, { exchange with queue := exchange.queue ++ [entry] }) := by
  simp [dispatch, Host.isReady, unready, RequestQueue.enqueue]

theorem outside_addPending (exchange : Exchange) (entry : QueuedRequest) :
    (exchange.addPending entry).outside = exchange.outside := by
  unfold addPending
  split <;> rfl

theorem dispatch_written (setup : Setup) (entry : QueuedRequest) (ready : exchange.state = .ready)
    (success : exchange.outside.writeOutcomes.next = none) :
    ∃ later, exchange.dispatch setup entry = (.sent, later) ∧
      later.traffic = exchange.traffic.write entry ∧
      later.outside.writeOutcomes = exchange.outside.writeOutcomes.later := by
  have isReady : exchange.toHost.isReady = true := by simp [Host.isReady, ready]
  obtain ⟨host, written, same, outcomes⟩ :=
    exchange.writeLine_written entry.line (by simp [ready]) success
  refine ⟨_, by simp only [dispatch, isReady, written]; rfl, ?_, ?_⟩
  · rw [traffic_addPending, traffic_enter, same]
    rfl
  · rw [outside_addPending]
    exact outcomes

theorem dispatch_refused (setup : Setup) (entry : QueuedRequest) {failure : Failure}
    (ready : exchange.state = .ready)
    (failing : exchange.outside.writeOutcomes.next = some failure) :
    ∃ refused : Exchange,
      exchange.dispatch setup entry = refused.afterFailedWrite setup entry failure ∧
      refused.traffic = exchange.traffic.refuse entry := by
  have isReady : exchange.toHost.isReady = true := by simp [Host.isReady, ready]
  obtain ⟨host, written, same⟩ := exchange.writeLine_refused entry.line (by simp [ready]) failing
  refine ⟨_, by simp only [dispatch, isReady, written]; rfl, ?_⟩
  rw [traffic_enter, same]
  rfl

/-- A message that is passed on to a service that is ready is written, or the service is no
longer ready. -/
theorem dispatch_stops (setup : Setup) (exchange : Exchange) (entry : QueuedRequest)
    (ready : exchange.state = .ready) :
    (∃ later, exchange.dispatch setup entry = (.sent, later)) ∨
      (exchange.dispatch setup entry).2.state ≠ .ready := by
  cases outcome : exchange.outside.writeOutcomes.next with
  | none =>
      obtain ⟨later, dispatched, -⟩ := dispatch_written setup entry ready outcome
      exact .inl ⟨later, dispatched⟩
  | some failure =>
      obtain ⟨refused, dispatched, -⟩ := dispatch_refused setup entry ready outcome
      refine .inr ?_
      rw [dispatched]
      rcases refused.afterFailedWrite_cases setup entry failure with
        ⟨later, result, -, lost⟩ | ⟨-, ⟨later, result, lost⟩ | ⟨respawn, later, result, lost⟩⟩
      all_goals
        rw [result]
        intro isReady
        simpa [Traffic.launch, Traffic.failLaunch, Traffic.forget, Traffic.release,
          Traffic.requeue, Traffic.disarm] using (congrArg Traffic.state lost).symm.trans isReady

theorem drainUpTo_unready (setup : Setup) (count : Nat) (unready : exchange.state ≠ .ready) :
    exchange.drainUpTo setup count = ([], exchange) := by
  cases count <;> simp [drainUpTo, Host.isReady, unready]

theorem drainUpTo_cons (setup : Setup) (count : Nat) {entry : QueuedRequest}
    {rest : List QueuedRequest} (ready : exchange.state = .ready)
    (waiting : exchange.queue = entry :: rest) :
    exchange.drainUpTo setup (count + 1) =
      let (outcome, later) := ({ exchange with queue := rest }).dispatch setup entry
      (outcome :: (later.drainUpTo setup count).1, (later.drainUpTo setup count).2) := by
  simp [drainUpTo, Host.isReady, ready, waiting]

end Exchange

theorem Outside.written_reply (outside : Outside) (line : String) :
    (outside.reply line).written = outside.written := by
  unfold Outside.reply
  split <;> rfl

namespace Gateway

variable {setup : Setup} {gateway : Gateway}

/-- The traffic of a gateway. -/
abbrev traffic (gateway : Gateway) : Traffic := gateway.toExchange.traffic

/-! ## Single deeds -/

@[simp]
theorem traffic_note (gateway : Gateway) (level : LogLevel) (type : String)
    (payload : List (String × Json)) :
    (gateway.note level type payload).traffic = gateway.traffic :=
  rfl

@[simp]
theorem traffic_resetHealth (gateway : Gateway) : gateway.resetHealth.traffic = gateway.traffic :=
  rfl

@[simp]
theorem traffic_withExchange (gateway : Gateway) (exchange : Exchange) :
    (gateway.withExchange exchange).traffic = exchange.traffic :=
  rfl

@[simp]
theorem traffic_enter (gateway : Gateway) (deed : Deed) :
    (gateway.enter deed).traffic = gateway.traffic.enter deed :=
  rfl

@[simp]
theorem traffic_tell (gateway : Gateway) (line : String) :
    (gateway.tell line).traffic = gateway.traffic.enter (.told line) := by
  simp [tell, traffic, Exchange.traffic, Traffic.enter, enter, withExchange, Exchange.enter,
    Outside.written_reply]

@[simp]
theorem traffic_answer (gateway : Gateway) (id : RequestId) (answer : Answer) :
    (gateway.answer id answer).traffic = gateway.traffic.answer id answer := by
  simp [Gateway.answer, traffic, Exchange.traffic, Traffic.answer, Traffic.enter, enter,
    withExchange, Exchange.enter, Outside.written_reply]

@[simp]
theorem traffic_cancelDeadline (gateway : Gateway) (id : RequestId) :
    (gateway.cancelDeadline id).traffic = gateway.traffic.disarm (.callDeadline id) := by
  simp [cancelDeadline, withHost, traffic, Exchange.traffic, Traffic.disarm, Host.cancel]

@[simp]
theorem traffic_failCall (gateway : Gateway) (id : RequestId) (failure : Failure) :
    (gateway.failCall id failure).traffic = gateway.traffic.fail id failure := by
  simp [failCall, Traffic.fail]

@[simp]
theorem traffic_failCalls (gateway : Gateway) (calls : List PendingCall) (failure : Failure) :
    (gateway.failCalls calls failure).traffic =
      gateway.traffic.failAll (calls.map PendingCall.id) failure := by
  induction calls generalizing gateway with
  | nil => simp [failCalls]
  | cons call calls ih =>
      have rest := ih (gateway.failCall call.id failure)
      rwa [traffic_failCall, ← Traffic.failAll_cons] at rest

@[simp]
theorem traffic_failEntries (gateway : Gateway) (entries : List QueuedRequest)
    (failure : Failure) :
    (gateway.failEntries entries failure).traffic =
      gateway.traffic.failAll (entries.filterMap QueuedRequest.id) failure := by
  induction entries generalizing gateway with
  | nil => simp [failEntries]
  | cons entry entries ih =>
      cases present : entry.id with
      | none => simpa [failEntries, present] using ih gateway
      | some id =>
          have rest := ih (gateway.failCall id failure)
          rw [traffic_failCall, ← Traffic.failAll_cons] at rest
          simpa [failEntries, present] using rest

@[simp]
theorem traffic_failQueued (gateway : Gateway) (failure : Failure) :
    (gateway.failQueued failure).traffic = gateway.traffic.failQueue failure := by
  simp only [failQueued]
  split
  case isTrue none =>
    have empty : gateway.traffic.queue = [] := List.isEmpty_iff.mp none
    simp only [Traffic.failQueue, empty, List.filterMap_nil, Traffic.failAll_nil]
    rfl
  case isFalse some =>
    rw [traffic_failEntries, traffic_note]
    rfl

@[simp]
theorem traffic_record (setup : Setup) (gateway : Gateway) (message : ClientMessage) :
    (gateway.record setup message).traffic = gateway.traffic := by
  obtain ⟨actions, files, journal, recorded⟩ := exists_record setup gateway message
  rw [recorded]
  rfl

/-! ## Starting the service -/

theorem startService_running (setup : Setup) (running : gateway.state ≠ .noProcess) :
    ∃ ready, gateway.startService setup = (.ok (.alreadyRunning ready), gateway) := by
  obtain ⟨ready, started⟩ := Exchange.start_running setup running
  exact ⟨ready, by simp only [startService, started]; rfl⟩

theorem startService_launched (setup : Setup) (idle : gateway.state = .noProcess)
    (success : gateway.outside.launchOutcomes.next = none) :
    ∃ started, gateway.startService setup = (.ok (.spawned (gateway.generation + 1)), started) ∧
      started.traffic = gateway.traffic.launch setup := by
  obtain ⟨host, launched, same⟩ := Exchange.start_launched setup idle success
  exact ⟨gateway.withExchange (gateway.toExchange.withHost host).resetHealth,
    by simp only [startService, launched], same⟩

theorem startService_failed (setup : Setup) {failure : Failure}
    (idle : gateway.state = .noProcess)
    (failing : gateway.outside.launchOutcomes.next = some failure) :
    ∃ unstarted, gateway.startService setup = (.error failure, unstarted) ∧
      unstarted.traffic = gateway.traffic.failLaunch := by
  obtain ⟨host, failed, same⟩ := Exchange.start_failed setup idle failing
  exact ⟨gateway.withHost host, by simp only [startService, failed], same⟩

theorem startService_cases (setup : Setup) (gateway : Gateway) :
    (∃ outcome started, gateway.startService setup = (.ok outcome, started) ∧
        started.state ≠ .noProcess ∧
        (started.traffic = gateway.traffic ∨
          gateway.state = .noProcess ∧ started.traffic = gateway.traffic.launch setup)) ∨
      ∃ failure unstarted, gateway.startService setup = (.error failure, unstarted) ∧
        gateway.state = .noProcess ∧ unstarted.traffic = gateway.traffic.failLaunch := by
  by_cases idle : gateway.state = .noProcess
  · cases outcome : gateway.outside.launchOutcomes.next with
    | none =>
        obtain ⟨started, result, same⟩ := startService_launched setup idle outcome
        have starting : started.state = .starting := congrArg Traffic.state same
        exact .inl ⟨_, started, result, by simp [starting], .inr ⟨idle, same⟩⟩
    | some failure =>
        obtain ⟨unstarted, result, same⟩ := startService_failed setup idle outcome
        exact .inr ⟨failure, unstarted, result, idle, same⟩
  · obtain ⟨ready, result⟩ := startService_running setup idle
    exact .inl ⟨_, gateway, result, idle, .inl rfl⟩

theorem ensureStarted_cases (setup : Setup) (gateway : Gateway) (trigger : Option RequestId) :
    (∃ started, gateway.ensureStarted setup trigger = (.ok (), started) ∧
        started.state ≠ .noProcess ∧
        (started.traffic = gateway.traffic ∨
          gateway.state = .noProcess ∧ started.traffic = gateway.traffic.launch setup)) ∨
      ∃ failure unstarted, gateway.ensureStarted setup trigger = (.error failure, unstarted) ∧
        gateway.state = .noProcess ∧ unstarted.traffic = gateway.traffic.failLaunch := by
  by_cases idle : gateway.state = .noProcess
  · have absent : gateway.hasProcess = false := Host.hasProcess_eq_false_iff.mpr idle
    rcases startService_cases setup gateway with
      ⟨outcome, started, result, running, same⟩ | ⟨failure, unstarted, result, same⟩
    · cases outcome with
      | alreadyRunning ready =>
          exact .inl ⟨started, by simp [ensureStarted, absent, result], running, same⟩
      | spawned generation =>
          exact .inl ⟨{ started with startupTrigger := trigger },
            by simp [ensureStarted, absent, result], running, same⟩
    · exact .inr ⟨failure, unstarted, by simp [ensureStarted, absent, result], same⟩
  · have present : gateway.hasProcess = true := Host.hasProcess_iff.mpr idle
    exact .inl ⟨gateway, by simp [ensureStarted, present], idle, .inl rfl⟩

/-! ## Passing messages on -/

@[simp]
theorem traffic_settle_retrying (gateway : Gateway) (orphaned : List PendingCall) :
    (gateway.settle (.retrying orphaned)).traffic =
      gateway.traffic.failAll (orphaned.map PendingCall.id) connectionReset := by
  simp [settle]

@[simp]
theorem traffic_settle_respawnFailed (gateway : Gateway) (failure : Failure)
    (orphaned : List PendingCall) :
    (gateway.settle (.respawnFailed failure orphaned)).traffic =
      (gateway.traffic.failAll (orphaned.map PendingCall.id) connectionReset).failQueue
        failure := by
  simp [settle]

@[simp]
theorem traffic_settle_abandoned (gateway : Gateway) (entry : QueuedRequest) (failure : Failure)
    (orphaned : List PendingCall) :
    (gateway.settle (.abandoned entry failure orphaned)).traffic =
      (gateway.traffic.failAll (orphaned.map PendingCall.id) failure).failAll entry.id.toList
        failure := by
  cases present : entry.id with
  | none => simp [settle, present]
  | some id => simp [settle, present, Traffic.failAll_cons]

theorem state_settle (gateway : Gateway) (outcome : Exchange.DispatchOutcome) :
    (gateway.settle outcome).state = gateway.state := by
  cases outcome with
  | queued => rfl
  | sent => rfl
  | retrying orphaned => exact congrArg Traffic.state (gateway.traffic_settle_retrying orphaned)
  | respawnFailed failure orphaned =>
      exact congrArg Traffic.state (gateway.traffic_settle_respawnFailed failure orphaned)
  | abandoned entry failure orphaned =>
      exact congrArg Traffic.state (gateway.traffic_settle_abandoned entry failure orphaned)

theorem traffic_passOn_waiting (setup : Setup) (gateway : Gateway) (entry : QueuedRequest)
    (unready : gateway.state ≠ .ready) :
    (gateway.passOn setup entry).traffic =
      { gateway.traffic with queue := gateway.queue ++ [entry] } := by
  simp only [passOn, Exchange.dispatch_waiting entry unready, settle]
  rfl

theorem passOn_written (setup : Setup) (gateway : Gateway) (entry : QueuedRequest)
    (ready : gateway.state = .ready) (success : gateway.outside.writeOutcomes.next = none) :
    (gateway.passOn setup entry).traffic = gateway.traffic.write entry ∧
      (gateway.passOn setup entry).outside.writeOutcomes =
        gateway.outside.writeOutcomes.later := by
  obtain ⟨later, dispatched, same, outcomes⟩ := Exchange.dispatch_written setup entry ready success
  have passed : gateway.passOn setup entry = gateway.withExchange later := by
    simp only [passOn, dispatched, settle]
  rw [passed]
  exact ⟨same, outcomes⟩

/-- If the next write fails, the message is given up, or waits for another process, or nobody
waits any more because there is none. -/
theorem traffic_passOn_refused (setup : Setup) (gateway : Gateway) (entry : QueuedRequest)
    {failure : Failure} (ready : gateway.state = .ready)
    (failing : gateway.outside.writeOutcomes.next = some failure) :
    let lost := (gateway.traffic.refuse entry).release
    let again := (lost.failPresent connectionReset).requeue
      { entry with attempts := entry.attempts + 1 }
    (setup.settings.service.maxWriteRetries < entry.attempts + 1 ∧
        (gateway.passOn setup entry).traffic =
          (lost.failPresent failure).failAll entry.id.toList failure) ∨
      entry.attempts + 1 ≤ setup.settings.service.maxWriteRetries ∧
        ((gateway.passOn setup entry).traffic = again.launch setup ∨
          ∃ respawn, (gateway.passOn setup entry).traffic =
            again.failLaunch.failQueue respawn) := by
  intro lost again
  obtain ⟨refused, dispatched, same⟩ := Exchange.dispatch_refused setup entry ready failing
  have orphans : (CallTable.ofGeneration refused.pending refused.generation).map PendingCall.id =
      (gateway.traffic.refuse entry).release.presentIds :=
    congrArg Traffic.presentIds same
  rcases refused.afterFailedWrite_cases setup entry failure with
    ⟨later, outcome, tooOften, left⟩ |
      ⟨notYet, ⟨later, outcome, left⟩ | ⟨respawn, later, outcome, left⟩⟩
  · refine .inl ⟨tooOften, ?_⟩
    simp only [passOn, dispatched, outcome, traffic_settle_abandoned, traffic_withExchange,
      left, same, orphans]
    rfl
  · refine .inr ⟨notYet, .inl ?_⟩
    simp only [passOn, dispatched, outcome, traffic_settle_retrying, traffic_withExchange,
      left, same, orphans, Traffic.failAll_launch]
    rfl
  · refine .inr ⟨notYet, .inr ⟨respawn, ?_⟩⟩
    simp only [passOn, dispatched, outcome, traffic_settle_respawnFailed, traffic_withExchange,
      left, same, orphans, Traffic.failAll_failLaunch]
    rfl

/-- Passing a message on to a service that is ready is a course of moves from where the
message waits ahead of all others, and leaves nobody else waiting if the service stays ready. -/
theorem moves_passOn_ready (setup : Setup) (gateway : Gateway) (entry : QueuedRequest)
    (ready : gateway.state = .ready) :
    Moves setup { gateway.traffic with queue := entry :: gateway.queue }
        (gateway.passOn setup entry).traffic ∧
      ((gateway.passOn setup entry).state = .ready →
        (gateway.passOn setup entry).queue = gateway.queue) := by
  let waiting := { gateway.traffic with queue := entry :: gateway.queue }
  have atHead : waiting.queue = entry :: gateway.queue := rfl
  have isReady : waiting.state = .ready := ready
  cases outcome : gateway.outside.writeOutcomes.next with
  | none =>
      have passed := (passOn_written setup gateway entry ready outcome).1
      refine ⟨?_, fun _ => congrArg Traffic.queue passed⟩
      rw [passed]
      exact .single (.wrote isReady atHead)
  | some failure =>
      rcases traffic_passOn_refused setup gateway entry ready outcome with
        ⟨tooOften, passed⟩ | ⟨again, passed | ⟨respawn, passed⟩⟩
      · have gone : (gateway.passOn setup entry).state = .noProcess := congrArg Traffic.state passed
        refine ⟨?_, fun ready => by simp [gone] at ready⟩
        rw [passed]
        exact .single (.abandoned failure isReady atHead tooOften)
      · have starting : (gateway.passOn setup entry).state = .starting :=
          congrArg Traffic.state passed
        refine ⟨?_, fun ready => by simp [starting] at ready⟩
        rw [passed]
        exact .tail (.single (.retried connectionReset isReady atHead again)) (.launched rfl)
      · have gone : (gateway.passOn setup entry).state = .noProcess := congrArg Traffic.state passed
        refine ⟨?_, fun ready => by simp [gone] at ready⟩
        rw [passed]
        exact ((Relation.ReflTransGen.single (.retried connectionReset isReady atHead again)).tail
          (.launchFailed rfl)).tail (.queueFailed respawn rfl)

/-- Pass waiting messages on, up to a number of them, for as long as the service stays ready,
and answer at once those that this leaves without an answer. -/
def passOnWaiting (setup : Setup) : Nat → Gateway → Gateway
  | 0, gateway => gateway
  | count + 1, gateway =>
      if gateway.isReady then
        match gateway.queue with
        | [] => gateway
        | entry :: rest =>
            passOnWaiting setup count (({ gateway with queue := rest }).passOn setup entry)
      else gateway

theorem passOnWaiting_unready (setup : Setup) (count : Nat) (unready : gateway.state ≠ .ready) :
    gateway.passOnWaiting setup count = gateway := by
  cases count <;> simp [passOnWaiting, Host.isReady, unready]

theorem passOnWaiting_nil (setup : Setup) (count : Nat) (none : gateway.queue = []) :
    gateway.passOnWaiting setup count = gateway := by
  cases count <;> simp [passOnWaiting, none]

theorem passOnWaiting_cons (setup : Setup) (count : Nat) {entry : QueuedRequest}
    {rest : List QueuedRequest} (ready : gateway.state = .ready)
    (waiting : gateway.queue = entry :: rest) :
    gateway.passOnWaiting setup (count + 1) =
      (({ gateway with queue := rest }).passOn setup entry).passOnWaiting setup count := by
  simp [passOnWaiting, Host.isReady, ready, waiting]

/-- The first of those who wait is passed on, unless nobody waits or the service is not ready. -/
theorem passOnWaiting_cases (setup : Setup) (count : Nat) (gateway : Gateway) :
    gateway.traffic.IsSettled ∧ gateway.passOnWaiting setup (count + 1) = gateway ∨
      ∃ entry rest, gateway.state = .ready ∧ gateway.queue = entry :: rest ∧
        gateway.passOnWaiting setup (count + 1) =
          (({ gateway with queue := rest }).passOn setup entry).passOnWaiting setup count := by
  by_cases unready : gateway.state ≠ .ready
  · exact .inl ⟨fun ready => absurd ready unready, passOnWaiting_unready setup _ unready⟩
  cases waiting : gateway.queue with
  | nil => exact .inl ⟨fun _ => waiting, passOnWaiting_nil setup _ waiting⟩
  | cons entry rest =>
      have ready : gateway.state = .ready := not_not.mp unready
      exact .inr ⟨entry, rest, ready, rfl, passOnWaiting_cons setup _ ready waiting⟩

/-- The outcomes of draining the queue can be settled as they come up, since only the last
of them may call for answers. -/
theorem settleAll_drainUpTo (setup : Setup) (count : Nat) (gateway : Gateway) :
    (gateway.withExchange (gateway.toExchange.drainUpTo setup count).2).settleAll
        (gateway.toExchange.drainUpTo setup count).1 =
      gateway.passOnWaiting setup count := by
  induction count generalizing gateway with
  | zero => rfl
  | succ count ih =>
      by_cases unready : gateway.state ≠ .ready
      · rw [passOnWaiting_unready setup _ unready, Exchange.drainUpTo_unready setup _ unready]
        rfl
      have ready : gateway.state = .ready := not_not.mp unready
      cases waiting : gateway.queue with
      | nil =>
          rw [passOnWaiting_nil setup _ waiting]
          simp [Exchange.drainUpTo, waiting, settleAll, withExchange]
      | cons entry rest =>
          rw [passOnWaiting_cons setup _ ready waiting,
            Exchange.drainUpTo_cons setup _ ready waiting]
          cases dispatched :
              Exchange.dispatch setup { gateway.toExchange with queue := rest } entry with
          | mk outcome later =>
            have passed : ({ gateway with queue := rest } : Gateway).passOn setup entry =
                (gateway.withExchange later).settle outcome := by
              simp only [passOn, dispatched]
              rfl
            rcases Exchange.dispatch_stops setup { gateway.toExchange with queue := rest } entry
                ready with
              ⟨after, sent⟩ | stopped
            · obtain ⟨rfl, rfl⟩ := Prod.mk.inj (dispatched.symm.trans sent)
              rw [passed]
              exact ih (gateway.withExchange later)
            · -- Nothing more is passed on, neither by the exchange nor by the gateway.
              rw [dispatched] at stopped
              have halted : ((gateway.withExchange later).settle outcome).state ≠ .ready := by
                rwa [state_settle]
              rw [passed, passOnWaiting_unready setup _ halted]
              simp only [Exchange.drainUpTo_unready setup _ stopped]
              rfl

theorem drainQueue_eq (setup : Setup) (gateway : Gateway) :
    gateway.drainQueue setup = gateway.passOnWaiting setup gateway.queue.length :=
  settleAll_drainUpTo setup gateway.queue.length gateway

theorem moves_passOnWaiting (setup : Setup) (count : Nat) (gateway : Gateway) :
    Moves setup gateway.traffic (gateway.passOnWaiting setup count).traffic := by
  induction count generalizing gateway with
  | zero => exact .refl
  | succ count ih =>
      rcases passOnWaiting_cases setup count gateway with
        ⟨-, same⟩ | ⟨entry, rest, ready, waiting, onward⟩
      · rw [same]
      · have passed := (moves_passOn_ready setup { gateway with queue := rest } entry ready).1
        have start : { ({ gateway with queue := rest } : Gateway).traffic with
            queue := entry :: rest } = gateway.traffic := by
          rw [← waiting]
          rfl
        rw [start] at passed
        rw [onward]
        exact passed.trans (ih _)

/-- If there are not more of them than may be passed on, either all are passed on, or the
service does not stay ready. -/
theorem settled_passOnWaiting (setup : Setup) (count : Nat) (gateway : Gateway)
    (enough : gateway.queue.length ≤ count) :
    (gateway.passOnWaiting setup count).traffic.IsSettled := by
  induction count generalizing gateway with
  | zero => exact fun _ => List.eq_nil_of_length_eq_zero (Nat.le_zero.mp enough)
  | succ count ih =>
      rcases passOnWaiting_cases setup count gateway with
        ⟨settled, same⟩ | ⟨entry, rest, ready, waiting, onward⟩
      · rw [same]
        exact settled
      · rw [onward]
        let passed := ({ gateway with queue := rest } : Gateway).passOn setup entry
        have left := (moves_passOn_ready setup { gateway with queue := rest } entry ready).2
        by_cases halted : passed.state ≠ .ready
        · rw [passOnWaiting_unready setup _ halted]
          exact fun isReady => absurd isReady halted
        · have remaining : passed.queue = rest := left (not_not.mp halted)
          apply ih
          rw [waiting, List.length_cons] at enough
          rw [remaining]
          omega

end Gateway

end BrowserRelay
