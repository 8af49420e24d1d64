import BrowserRelay.Proofs.ServiceSide

/-!
# Probes, ends, timers and lines of the service

What the gateway does to the traffic when the service process is probed, ends or says
something, and when a timer elapses.
-/

namespace BrowserRelay

namespace ServiceMessage

/-- The response that a line of the process is, and what it responds to. -/
def response? (line : String) : Option (RequestId × ServiceMessage) :=
  match parse line with
  | .error _ => none
  | .ok message =>
      match message.id, message.method with
      | some id, none => some (id, message)
      | _, _ => none

theorem response?_eq_some_iff {line : String} {id : RequestId} {message : ServiceMessage} :
    response? line = some (id, message) ↔
      parse line = .ok message ∧ message.id = some id ∧ message.method = none := by
  unfold response?
  cases parse line with
  | error failure => simp
  | ok found =>
      simp only [Except.ok.injEq]
      split
      case h_1 own isId isAnswer =>
        simp only [Option.some.injEq, Prod.mk.injEq]
        constructor
        · rintro ⟨rfl, rfl⟩
          exact ⟨rfl, isId, isAnswer⟩
        · rintro ⟨rfl, same, -⟩
          exact ⟨Option.some.inj (isId.symm.trans same), rfl⟩
      case h_2 other =>
        simp only [reduceCtorEq, false_iff]
        rintro ⟨rfl, isId, isAnswer⟩
        exact other id isId isAnswer

end ServiceMessage

theorem Host.markNotReady_running (host : Host) (running : host.state ≠ .noProcess) :
    host.markNotReady = { host with state := .starting } := by
  cases present : host.state with
  | noProcess => exact absurd present running
  | starting => simp only [markNotReady, present]
  | ready => simp only [markNotReady, present]

theorem Host.isCurrent_iff {host : Host} {generation : Nat} :
    host.isCurrent generation = true ↔ host.state ≠ .noProcess ∧ generation = host.generation := by
  simp [isCurrent, hasProcess_iff]

namespace Exchange

variable {exchange : Exchange}

theorem traffic_release (exchange : Exchange) :
    (exchange.withHost exchange.toHost.release).traffic = exchange.traffic.release := by
  simp [traffic, Traffic.release, Traffic.disarm, withHost, Host.release, Host.cancelProbeTimers,
    Host.cancel]

/-- After which time a process that has exited is started again, if it is. -/
def restartDelay (setup : Setup) (code : Option Int) : Option Nat :=
  if code = some 0 then none else some setup.settings.service.restartBackoff

theorem traffic_onExit (setup : Setup) (exchange : Exchange) (code : Option Int)
    {generation : Nat} (current : exchange.isCurrent generation = true) :
    (exchange.withHost (exchange.toHost.onExit setup generation code).2).traffic =
      exchange.traffic.release.armRestart (restartDelay setup code) := by
  have released := exchange.traffic_release
  by_cases clean : code = some 0
  · rw [Host.onExit, if_pos current, if_pos clean]
    simp only [restartDelay, clean, if_true]
    exact released
  · rw [Host.onExit, if_pos current, if_neg clean]
    simp only [restartDelay, clean, if_false, Traffic.armRestart, ← released]
    simp only [traffic, withHost, Host.schedule, Host.note, Outside.note,
      TimerTable.rule?_schedule]

theorem traffic_onFailed (exchange : Exchange) {generation : Nat} (detail : String)
    (current : exchange.isCurrent generation = true) :
    (exchange.withHost (exchange.toHost.onFailed generation detail).2).traffic =
      exchange.traffic.release := by
  rw [Host.onFailed, if_pos current]
  exact exchange.traffic_release

/-- Whether the next probe finds too many before it unanswered. -/
def missesTooMany (setup : Setup) (exchange : Exchange) : Prop :=
  exchange.health.awaiting = true ∧ 0 < setup.settings.health.maxMissedProbes ∧
    setup.settings.health.maxMissedProbes ≤ exchange.health.missed + 1

theorem writeOutcomes_countMissed (setup : Setup) (exchange : Exchange) :
    (exchange.countMissed setup).2.outside.writeOutcomes = exchange.outside.writeOutcomes := by
  unfold countMissed
  split
  · dsimp only
    split
    · cases present : exchange.state <;>
        simp [withHost, Host.note, Outside.note, Host.markNotReady, present]
    · rfl
  · rfl

theorem traffic_countMissed (setup : Setup) (exchange : Exchange) :
    (¬(exchange.state = .ready ∧ exchange.missesTooMany setup) ∧
        (exchange.countMissed setup).2.traffic = exchange.traffic) ∨
      (exchange.state = .ready ∧ exchange.missesTooMany setup) ∧
        (exchange.countMissed setup).2.traffic = exchange.traffic.demote := by
  unfold countMissed
  split
  case isTrue awaiting =>
    dsimp only
    split
    case isTrue tooMany =>
      have ready : exchange.state = .ready := by simpa [Host.isReady] using tooMany.2.2
      have demoted : exchange.toHost.markNotReady = { exchange.toHost with state := .starting } :=
        Host.markNotReady_running _ (by simp [ready])
      refine .inr ⟨⟨ready, awaiting, tooMany.1, tooMany.2.1⟩, ?_⟩
      simp only [traffic, Traffic.demote, withHost, Host.note, Outside.note, demoted]
    case isFalse few =>
      refine .inl ⟨fun both => few ⟨both.2.2.1, both.2.2.2, ?_⟩, rfl⟩
      simp [Host.isReady, both.1]
  case isFalse answered => exact .inl ⟨fun both => answered both.2.1, rfl⟩

theorem traffic_sendProbe (setup : Setup) (demoted : Bool)
    (running : exchange.state ≠ .noProcess) :
    (exchange.outside.writeOutcomes.next = none ∧
        ∃ id line, (exchange.sendProbe setup demoted).2.traffic = exchange.traffic.probe id line) ∨
      (∃ failure, exchange.outside.writeOutcomes.next = some failure) ∧
        (exchange.sendProbe setup demoted).2.traffic =
          exchange.traffic.demote.disarm .probeInterval := by
  cases taken : exchange.takeProbeId setup with
  | mk id stamped =>
    have kept : stamped.traffic = exchange.traffic :=
      (congrArg (fun result => result.2.traffic) taken).symm
    have outcomes : stamped.outside.writeOutcomes = exchange.outside.writeOutcomes :=
      (congrArg (fun result => result.2.outside.writeOutcomes) taken).symm
    have present : stamped.state ≠ .noProcess := by
      rwa [show stamped.state = exchange.state from congrArg Traffic.state kept]
    let line := Envelope.requestLine id setup.settings.health.method none
    rw [← outcomes]
    cases outcome : stamped.outside.writeOutcomes.next with
    | none =>
        obtain ⟨host, written, same, -⟩ := stamped.writeLine_written line present outcome
        refine .inl ⟨rfl, id, line, ?_⟩
        have sent : (exchange.sendProbe setup demoted).2.traffic =
            (stamped.withHost host).traffic.enter (.probed stamped.generation id line) := by
          simp only [sendProbe, taken, line, written]
          rfl
        have generation : stamped.generation = exchange.generation :=
          congrArg Traffic.generation kept
        rw [sent, same, kept]
        simp only [generation]
        rfl
    | some failure =>
        obtain ⟨host, written, same⟩ := stamped.writeLine_refused line present outcome
        refine .inr ⟨⟨failure, rfl⟩, ?_⟩
        have hostState : host.state ≠ .noProcess := by
          rwa [show host.state = stamped.state from congrArg Traffic.state same]
        have refused : (exchange.sendProbe setup demoted).2.traffic =
            (stamped.withHost host).traffic.demote.disarm .probeInterval := by
          simp only [sendProbe, taken, line, written]
          rw [Host.markNotReady_running (host.cancel .probeInterval) hostState]
          simp only [traffic, withHost, Host.note, Host.cancel, Outside.note, Traffic.demote,
            Traffic.disarm, TimerTable.rule?_cancel]
        rw [refused, same, kept]

/-- A process that is probed is first taken for not ready if it has left too many probes
unanswered; then it is given the probe, or that cannot be written. -/
theorem probe_cases (setup : Setup) (running : exchange.state ≠ .noProcess) :
    ∃ counted : Traffic,
      (¬(exchange.state = .ready ∧ exchange.missesTooMany setup) ∧ counted = exchange.traffic ∨
        (exchange.state = .ready ∧ exchange.missesTooMany setup) ∧
          counted = exchange.traffic.demote) ∧
      counted.state ≠ .noProcess ∧
      (exchange.outside.writeOutcomes.next = none ∧
          (∃ id line, (exchange.probe setup).2.traffic = counted.probe id line) ∨
        (∃ failure, exchange.outside.writeOutcomes.next = some failure) ∧
          (exchange.probe setup).2.traffic = counted.demote.disarm .probeInterval) := by
  have present : exchange.hasProcess = true := Host.hasProcess_iff.mpr running
  have outcomes := exchange.writeOutcomes_countMissed setup
  have missed := exchange.traffic_countMissed setup
  cases counted : exchange.countMissed setup with
  | mk demoted later =>
    have probed : (exchange.probe setup).2 = (later.sendProbe setup demoted).2 := by
      simp only [probe, present, if_true, counted]
    simp only [counted] at missed outcomes
    have stays : later.state ≠ .noProcess := by
      rcases missed with ⟨-, same⟩ | ⟨-, same⟩
      · rwa [show later.state = exchange.state from congrArg Traffic.state same]
      · rw [show later.state = .starting from congrArg Traffic.state same]
        simp
    rw [probed, ← outcomes]
    exact ⟨later.traffic, missed, stays, later.traffic_sendProbe setup demoted stays⟩

theorem moves_probe (setup : Setup) (running : exchange.state ≠ .noProcess) :
    Moves setup exchange.traffic (exchange.probe setup).2.traffic ∧
      (exchange.probe setup).2.state ≠ .noProcess := by
  obtain ⟨counted, missed, stays, outcome⟩ := exchange.probe_cases setup running
  have first : Moves setup exchange.traffic counted := by
    rcases missed with ⟨-, rfl⟩ | ⟨⟨ready, -⟩, rfl⟩
    · exact .refl
    · exact .single (.demoted ready)
  rcases outcome with ⟨-, id, line, same⟩ | ⟨-, same⟩
  · have state : (exchange.probe setup).2.state = counted.state := congrArg Traffic.state same
    exact ⟨same ▸ first.tail (.probed stays id line), state ▸ stays⟩
  · have state : (exchange.probe setup).2.state = .starting := congrArg Traffic.state same
    exact ⟨same ▸ first.tail (.probeRefused stays), by simp [state]⟩

theorem probe_ne_startFailed (setup : Setup) (running : exchange.state ≠ .noProcess)
    (failure : Failure) : (exchange.probe setup).1 ≠ .startFailed failure := by
  have present : exchange.hasProcess = true := Host.hasProcess_iff.mpr running
  simp only [probe, present, if_true, sendProbe]
  split <;> simp

theorem onProbeResponse_starting (setup : Setup) (exchange : Exchange)
    (starting : exchange.state = .starting) :
    ∃ later, exchange.onProbeResponse setup = (true, later) ∧
      later.traffic = exchange.traffic.wake setup ∧
      later.outside.writeOutcomes = exchange.outside.writeOutcomes := by
  refine ⟨_, by simp only [onProbeResponse, starting]; rfl, ?_, ?_⟩
  case refine_2 =>
    simp [withHost, Host.note, Host.cancel, Host.schedule, Outside.note, resetHealth,
      Host.markReady, starting]
  have ready : exchange.toHost.markReady = { exchange.toHost with state := .ready } := by
    simp only [Host.markReady, starting]
  simp [traffic, withHost, Host.note, Host.cancel, Host.schedule, Outside.note, Traffic.wake,
    Traffic.disarm, Traffic.arm, resetHealth, ready]

theorem onProbeResponse_other (setup : Setup) (exchange : Exchange)
    (other : exchange.state ≠ .starting) :
    exchange.onProbeResponse setup = (false, exchange.resetHealth) := by
  cases present : exchange.state with
  | noProcess => simp only [onProbeResponse, present]
  | starting => exact absurd present other
  | ready => simp only [onProbeResponse, present]

theorem classify_probe (exchange : Exchange) {line : String} {id : RequestId}
    {message : ServiceMessage} (isResponse : ServiceMessage.response? line = some (id, message))
    (isProbe : isProbeId setup id = true) : exchange.classify setup line = (.probe, exchange) := by
  obtain ⟨parsed, isId, isAnswer⟩ := ServiceMessage.response?_eq_some_iff.mp isResponse
  unfold classify
  simp only [parsed, isId, isAnswer, isProbe, if_true]

theorem classify_response (exchange : Exchange) {line : String} {id : RequestId}
    {message : ServiceMessage} (isResponse : ServiceMessage.response? line = some (id, message))
    (noProbe : isProbeId setup id = false) :
    exchange.classify setup line =
      match CallTable.find? exchange.pending id with
      | some call =>
          (.matched call message (Text.trim line),
            { exchange with pending := CallTable.remove exchange.pending id })
      | none =>
          if exchange.expired.any fun call => call.id = id then
            (.late id,
              { exchange with expired := exchange.expired.filter fun call => call.id ≠ id })
          else (.unmatched (Text.trim line), exchange) := by
  obtain ⟨parsed, isId, isAnswer⟩ := ServiceMessage.response?_eq_some_iff.mp isResponse
  unfold classify
  cases found : CallTable.find? exchange.pending id with
  | some call => simp only [parsed, isId, isAnswer, noProbe, Bool.false_eq_true, if_false, found]
  | none => simp only [parsed, isId, isAnswer, noProbe, Bool.false_eq_true, if_false, found]

theorem classify_other (setup : Setup) (exchange : Exchange) {line : String}
    (noResponse : ServiceMessage.response? line = none) :
    (∃ raw, exchange.classify setup line = (.unmatched raw, exchange)) ∨
      ∃ failure, exchange.classify setup line = (.garbage failure, exchange) := by
  unfold ServiceMessage.response? at noResponse
  unfold classify
  cases parsed : ServiceMessage.parse line with
  | error failure => exact .inr ⟨failure, rfl⟩
  | ok found =>
      simp only [parsed] at noResponse
      split at noResponse
      case h_1 => simp at noResponse
      case h_2 notAnswer =>
        refine .inl ⟨Text.trim line, ?_⟩
        dsimp only
        split
        case h_1 id isId isAnswer => exact (notAnswer id isId isAnswer).elim
        case h_2 => rfl

end Exchange

namespace Gateway

variable {setup : Setup} {gateway : Gateway}

theorem traffic_failGeneration {host : Host} {traffic : Traffic} {generation : Nat}
    (detail : String) (same : (gateway.toExchange.withHost host).traffic = traffic)
    (current : generation = host.generation) :
    ((gateway.withHost host).failGeneration generation detail).traffic =
      traffic.failPresent (.serviceExit detail) := by
  subst current same
  simp only [failGeneration, Exchange.takeGeneration, traffic_failCalls, traffic_withExchange]
  rfl

theorem traffic_onServiceExited (setup : Setup) (code : Option Int) {generation : Nat}
    (current : gateway.isCurrent generation = true) :
    (gateway.onServiceExited setup generation code).traffic =
      (gateway.traffic.release.armRestart (Exchange.restartDelay setup code)).failPresent
        (.serviceExit (exitDetail code)) := by
  have same := gateway.toExchange.traffic_onExit setup code current
  have own : generation = (gateway.toHost.onExit setup generation code).2.generation :=
    (Host.isCurrent_iff.mp current).2.trans (congrArg Traffic.generation same).symm
  rw [onServiceExited_current setup code current, traffic_failGeneration (exitDetail code) same own]

theorem traffic_onServiceFailed (detail : String) {generation : Nat}
    (current : gateway.isCurrent generation = true) :
    (gateway.onServiceFailed generation detail).traffic =
      gateway.traffic.release.failPresent (.serviceExit detail) := by
  have same := gateway.toExchange.traffic_onFailed detail current
  have own : generation = (gateway.toHost.onFailed generation detail).2.generation :=
    (Host.isCurrent_iff.mp current).2.trans (congrArg Traffic.generation same).symm
  rw [onServiceFailed_current detail current, traffic_failGeneration detail same own]

theorem moves_onServiceExited (setup : Setup) (gateway : Gateway) (generation : Nat)
    (code : Option Int) :
    Moves setup gateway.traffic (gateway.onServiceExited setup generation code).traffic := by
  by_cases current : gateway.isCurrent generation = true
  · rw [traffic_onServiceExited setup code current]
    exact .single (.ended _ _ (Host.isCurrent_iff.mp current).1)
  · rw [onServiceExited_stale setup code (Bool.not_eq_true _ ▸ current)]

theorem moves_onServiceFailed (setup : Setup) (gateway : Gateway) (generation : Nat)
    (detail : String) :
    Moves setup gateway.traffic (gateway.onServiceFailed generation detail).traffic := by
  by_cases current : gateway.isCurrent generation = true
  · rw [traffic_onServiceFailed detail current]
    exact .single (.ended _ none (Host.isCurrent_iff.mp current).1)
  · rw [onServiceFailed_stale detail (Bool.not_eq_true _ ▸ current)]

/-! ## Timers -/

theorem traffic_onProbeTimer_idle (setup : Setup) (idle : gateway.state = .noProcess) :
    (gateway.onProbeTimer setup).traffic = gateway.traffic.launch setup ∨
      ∃ failure, (gateway.onProbeTimer setup).traffic =
        gateway.traffic.failLaunch.failQueue failure := by
  have absent : gateway.hasProcess = false := Host.hasProcess_eq_false_iff.mpr idle
  rcases Exchange.start_cases setup idle with
    ⟨host, started, same⟩ | ⟨failure, host, started, same⟩
  · refine .inl ?_
    simp only [onProbeTimer, Exchange.probe, absent, started]
    exact same
  · refine .inr ⟨failure, ?_⟩
    simp only [onProbeTimer, Exchange.probe, absent, started, Bool.false_eq_true, if_false,
      traffic_failQueued, traffic_withExchange, same]

theorem traffic_onProbeTimer_running (setup : Setup) (running : gateway.state ≠ .noProcess) :
    (gateway.onProbeTimer setup).traffic = (gateway.toExchange.probe setup).2.traffic := by
  cases result : gateway.toExchange.probe setup with
  | mk outcome later =>
    cases outcome with
    | sent id demoted => simp only [onProbeTimer, result, traffic_withExchange]
    | startRequested =>
        simp only [onProbeTimer, result, traffic_resetHealth, traffic_withExchange]
    | startFailed failure =>
        exact absurd (congrArg Prod.fst result)
          (Exchange.probe_ne_startFailed setup running failure)
    | writeFailed => simp only [onProbeTimer, result, traffic_withExchange]

theorem moves_onProbeTimer (setup : Setup) (gateway : Gateway) :
    Moves setup gateway.traffic (gateway.onProbeTimer setup).traffic := by
  by_cases idle : gateway.state = .noProcess
  · rcases traffic_onProbeTimer_idle setup idle with launched | ⟨failure, failed⟩
    · exact launched ▸ .single (.launched idle)
    · exact failed ▸ .tail (.single (.launchFailed idle)) (.queueFailed failure idle)
  · rw [traffic_onProbeTimer_running setup idle]
    exact (Exchange.moves_probe setup idle).1

/-- When the start takes too long, the request that asked for it fails if it still waits. -/
theorem traffic_onStartupDeadline (setup : Setup) (gateway : Gateway) :
    (gateway.onStartupDeadline setup).traffic = gateway.traffic ∨
      ∃ id failure, gateway.state = .starting ∧
        RequestQueue.contains gateway.queue id = true ∧
        (gateway.onStartupDeadline setup).traffic =
          (gateway.traffic.withdraw id).fail id failure := by
  cases present : gateway.state with
  | noProcess => exact .inl (by simp only [onStartupDeadline, present])
  | ready => exact .inl (by simp only [onStartupDeadline, present])
  | starting =>
      simp only [onStartupDeadline, present]
      split
      case h_1 => exact .inl rfl
      case h_2 id trigger =>
        split
        case isTrue waiting =>
          exact .inr ⟨id, _, trivial, waiting, traffic_failCall _ _ _⟩
        case isFalse => exact .inl rfl

theorem moves_onStartupDeadline (setup : Setup) (gateway : Gateway) :
    Moves setup gateway.traffic (gateway.onStartupDeadline setup).traffic := by
  rcases gateway.traffic_onStartupDeadline setup with
    same | ⟨id, failure, starting, waiting, late⟩
  · rw [same]
  · exact late ▸ .single (.startedLate failure starting waiting)

theorem traffic_onRestart_idle (setup : Setup) (idle : gateway.state = .noProcess) :
    (gateway.onRestart setup).traffic = gateway.traffic.launch setup ∨
      ∃ failure, (gateway.onRestart setup).traffic =
        gateway.traffic.failLaunch.failQueue failure := by
  have absent : gateway.hasProcess = false := Host.hasProcess_eq_false_iff.mpr idle
  rcases Exchange.start_cases setup idle with
    ⟨host, started, same⟩ | ⟨failure, host, started, same⟩
  · refine .inl ?_
    simp only [onRestart, absent, started]
    exact same
  · refine .inr ⟨failure, ?_⟩
    simp only [onRestart, absent, started, Bool.false_eq_true, if_false, traffic_failQueued]
    exact congrArg (Traffic.failQueue · failure) same

theorem onRestart_running (setup : Setup) (running : gateway.state ≠ .noProcess) :
    gateway.onRestart setup = gateway := by
  have present : gateway.hasProcess = true := Host.hasProcess_iff.mpr running
  simp only [onRestart, present, if_true]

theorem moves_onRestart (setup : Setup) (gateway : Gateway) :
    Moves setup gateway.traffic (gateway.onRestart setup).traffic := by
  by_cases idle : gateway.state = .noProcess
  · rcases traffic_onRestart_idle setup idle with launched | ⟨failure, failed⟩
    · exact launched ▸ .single (.launched idle)
    · exact failed ▸ .tail (.single (.launchFailed idle)) (.queueFailed failure idle)
  · rw [onRestart_running setup idle]

theorem traffic_onCallDeadline (setup : Setup) (gateway : Gateway) (id : RequestId) :
    let failure := Failure.timeout setup.settings.service.callTimeout
    (∃ call, CallTable.find? gateway.pending id = some call ∧
        (gateway.onCallDeadline setup id).traffic =
          (gateway.traffic.expire call).answer id (.failed failure)) ∨
      CallTable.find? gateway.pending id = none ∧
        (RequestQueue.contains gateway.queue id = true ∧
            (gateway.onCallDeadline setup id).traffic =
              (gateway.traffic.withdraw id).answer id (.failed failure) ∨
          RequestQueue.contains gateway.queue id = false ∧
            (gateway.onCallDeadline setup id).traffic = gateway.traffic) := by
  intro failure
  cases found : CallTable.find? gateway.pending id with
  | some call =>
      obtain rfl : call.id = id := by simpa using List.find?_some found
      refine .inl ⟨call, rfl, ?_⟩
      simp only [onCallDeadline, takeExpired, Exchange.expire, found, traffic_answer,
        traffic_note]
      rfl
  | none =>
      refine .inr ⟨rfl, ?_⟩
      cases waiting : RequestQueue.contains gateway.queue id with
      | true =>
          refine .inl ⟨rfl, ?_⟩
          simp only [onCallDeadline, takeExpired, Exchange.expire, found, waiting, if_true,
            traffic_answer, traffic_note]
          rfl
      | false =>
          refine .inr ⟨rfl, ?_⟩
          simp only [onCallDeadline, takeExpired, Exchange.expire, found, waiting,
            Bool.false_eq_true, if_false]

theorem moves_onCallDeadline (setup : Setup) (gateway : Gateway) (id : RequestId) :
    Moves setup gateway.traffic (gateway.onCallDeadline setup id).traffic := by
  rcases gateway.traffic_onCallDeadline setup id with
    ⟨call, found, late⟩ | ⟨unsent, ⟨waiting, late⟩ | ⟨-, same⟩⟩
  · exact late ▸ .single (.expired _ found)
  · exact late ▸ .single (.withdrawn _ unsent waiting)
  · rw [same]

theorem moves_onTimer (setup : Setup) (gateway : Gateway) (timer : Timer) :
    Moves setup gateway.traffic (gateway.onTimer setup timer).traffic := by
  cases timer with
  | firstProbe => exact gateway.moves_onProbeTimer setup
  | probeInterval => exact gateway.moves_onProbeTimer setup
  | startupDeadline => exact gateway.moves_onStartupDeadline setup
  | restart => exact gateway.moves_onRestart setup
  | callDeadline id => exact gateway.moves_onCallDeadline setup id
  | shutdownGrace => exact .refl

theorem traffic_cancelled (gateway : Gateway) (timer : Timer) :
    ({ gateway with timers := gateway.timers.cancel timer } : Gateway).traffic =
      gateway.traffic.disarm timer := by
  simp [traffic, Exchange.traffic, Traffic.disarm]

/-- A timer that elapses is handled if it is armed, and disarmed before if it fires once. -/
theorem step_elapse_cases (setup : Setup) (gateway : Gateway) (timer : Timer) :
    (gateway.traffic.armed timer = none ∧ gateway.step setup (.elapse timer) = gateway) ∨
      (∃ period, gateway.traffic.armed timer = some (.every period) ∧
        gateway.step setup (.elapse timer) = gateway.onTimer setup timer) ∨
      ∃ delay, gateway.traffic.armed timer = some (.once delay) ∧
        gateway.step setup (.elapse timer) =
          ({ gateway with timers := gateway.timers.cancel timer }).onTimer setup timer := by
  have armed : gateway.traffic.armed timer = (gateway.timers.arm? timer).map TimerArm.rule := rfl
  cases found : gateway.timers.arm? timer with
  | none =>
      rw [found] at armed
      exact .inl ⟨armed, by simp only [step, TimerTable.fire, found]⟩
  | some arm =>
      obtain ⟨same, rule, ticket⟩ := arm
      rw [found] at armed
      cases rule with
      | every period =>
          refine .inr (.inl ⟨period, armed, ?_⟩)
          simp only [step, TimerTable.fire, found]
          rfl
      | once delay =>
          refine .inr (.inr ⟨delay, armed, ?_⟩)
          simp only [step, TimerTable.fire, found]
          rfl

theorem moves_elapse (setup : Setup) (gateway : Gateway) (timer : Timer) :
    Moves setup gateway.traffic (gateway.step setup (.elapse timer)).traffic := by
  rcases gateway.step_elapse_cases setup timer with
    ⟨-, same⟩ | ⟨period, -, same⟩ | ⟨delay, -, same⟩
  · rw [same]
  · rw [same]
    exact gateway.moves_onTimer setup timer
  · have first : Move setup gateway.traffic (gateway.traffic.disarm timer) := .elapsed timer
    rw [← gateway.traffic_cancelled timer] at first
    rw [same]
    exact .head first (moves_onTimer setup _ timer)

/-! ## Lines of the process -/

@[simp]
theorem traffic_visit (gateway : Gateway) (plan : ResponsePlan) (message : ServiceMessage) :
    (gateway.visit plan message).traffic = gateway.traffic := by
  obtain ⟨page, journal, visited⟩ := gateway.exists_visit plan message
  rw [visited]
  rfl

theorem traffic_handleServiceOutput_matched {line : String} {id : RequestId}
    {message : ServiceMessage} {call : PendingCall}
    (isResponse : ServiceMessage.response? line = some (id, message))
    (noProbe : Exchange.isProbeId setup id = false)
    (found : CallTable.find? gateway.pending id = some call) :
    (gateway.handleServiceOutput setup line).traffic =
      gateway.traffic.respond id (responseText setup call.plan message (Text.trim line)) := by
  have same : call.id = id := by simpa using List.find?_some found
  unfold handleServiceOutput
  simp only [Exchange.classify_response _ isResponse noProbe, found, complete,
    traffic_answer, traffic_visit, traffic_cancelDeadline, traffic_withExchange, same]
  rfl

theorem traffic_handleServiceOutput_late {line : String} {id : RequestId}
    {message : ServiceMessage}
    (isResponse : ServiceMessage.response? line = some (id, message))
    (noProbe : Exchange.isProbeId setup id = false)
    (missing : CallTable.find? gateway.pending id = none)
    (timedOut : (gateway.expired.any fun call => call.id = id) = true) :
    (gateway.handleServiceOutput setup line).traffic = gateway.traffic.forgetExpired id := by
  unfold handleServiceOutput
  simp only [Exchange.classify_response _ isResponse noProbe, missing,
    timedOut, if_true, traffic_note, traffic_withExchange]
  rfl

theorem traffic_handleServiceOutput_unmatched {line : String} {id : RequestId}
    {message : ServiceMessage}
    (isResponse : ServiceMessage.response? line = some (id, message))
    (noProbe : Exchange.isProbeId setup id = false)
    (missing : CallTable.find? gateway.pending id = none)
    (unknown : (gateway.expired.any fun call => call.id = id) = false) :
    (gateway.handleServiceOutput setup line).traffic =
      gateway.traffic.enter (.told (Text.trim line)) := by
  unfold handleServiceOutput
  simp only [Exchange.classify_response _ isResponse noProbe, missing,
    unknown, Bool.false_eq_true, if_false, traffic_tell, traffic_withExchange]

/-- The first response to a probe makes the service ready, and those who wait are passed on. -/
theorem handleServiceOutput_woken {line : String} {id : RequestId} {message : ServiceMessage}
    (isResponse : ServiceMessage.response? line = some (id, message))
    (isProbe : Exchange.isProbeId setup id = true) (starting : gateway.state = .starting) :
    ∃ later : Gateway, later.traffic = gateway.traffic.wake setup ∧
      later.outside.writeOutcomes = gateway.outside.writeOutcomes ∧
      gateway.handleServiceOutput setup line = later.drainQueue setup := by
  obtain ⟨later, woken, same, outcomes⟩ :=
    Exchange.onProbeResponse_starting setup gateway.toExchange starting
  refine ⟨{ gateway.withExchange later with startupTrigger := none }, same, outcomes, ?_⟩
  have again : (gateway.withExchange gateway.toExchange).toExchange.onProbeResponse setup =
      (true, later) := woken
  unfold handleServiceOutput
  simp only [Exchange.classify_probe _ isResponse isProbe, again]
  rfl

theorem traffic_handleServiceOutput_probe {line : String} {id : RequestId}
    {message : ServiceMessage}
    (isResponse : ServiceMessage.response? line = some (id, message))
    (isProbe : Exchange.isProbeId setup id = true) (other : gateway.state ≠ .starting) :
    (gateway.handleServiceOutput setup line).traffic = gateway.traffic := by
  have kept : (gateway.withExchange gateway.toExchange).toExchange.onProbeResponse setup =
      (false, gateway.toExchange.resetHealth) :=
    Exchange.onProbeResponse_other setup gateway.toExchange other
  unfold handleServiceOutput
  simp only [Exchange.classify_probe _ isResponse isProbe, kept]
  rfl

theorem traffic_handleServiceOutput_other (setup : Setup) (gateway : Gateway) {line : String}
    (noResponse : ServiceMessage.response? line = none) :
    (gateway.handleServiceOutput setup line).traffic = gateway.traffic ∨
      ∃ raw, (gateway.handleServiceOutput setup line).traffic =
        gateway.traffic.enter (.told raw) := by
  rcases Exchange.classify_other setup gateway.toExchange noResponse with
    ⟨raw, unmatched⟩ | ⟨failure, garbage⟩
  · refine .inr ⟨raw, ?_⟩
    unfold handleServiceOutput
    simp only [unmatched, traffic_tell, traffic_withExchange]
  · refine .inl ?_
    unfold handleServiceOutput
    simp only [garbage, traffic_note, traffic_withExchange]

/-- A line of the process that does not make the service ready touches at most one call. -/
theorem traffic_handleServiceOutput_cases (setup : Setup) (gateway : Gateway) (line : String)
    (unwoken : ∀ id message, ServiceMessage.response? line = some (id, message) →
      Exchange.isProbeId setup id = true → gateway.state ≠ .starting) :
    let later := (gateway.handleServiceOutput setup line).traffic
    later = gateway.traffic ∨
      (∃ raw, later = gateway.traffic.enter (.told raw)) ∨
      (∃ id call text, CallTable.find? gateway.pending id = some call ∧
        later = gateway.traffic.respond id text) ∨
      ∃ id, later = gateway.traffic.forgetExpired id := by
  intro later
  cases isResponse : ServiceMessage.response? line with
  | none => exact (traffic_handleServiceOutput_other setup gateway isResponse).imp_right .inl
  | some response =>
      obtain ⟨id, message⟩ := response
      cases isProbe : Exchange.isProbeId setup id with
      | true =>
          exact .inl (traffic_handleServiceOutput_probe isResponse isProbe
            (unwoken id message isResponse isProbe))
      | false =>
          cases found : CallTable.find? gateway.pending id with
          | some call =>
              exact .inr (.inr (.inl ⟨id, call, _, found,
                traffic_handleServiceOutput_matched isResponse isProbe found⟩))
          | none =>
              cases timedOut : gateway.expired.any fun call => call.id = id with
              | true =>
                  exact .inr (.inr (.inr ⟨id,
                    traffic_handleServiceOutput_late isResponse isProbe found timedOut⟩))
              | false =>
                  exact .inr (.inl ⟨_,
                    traffic_handleServiceOutput_unmatched isResponse isProbe found timedOut⟩)

end Gateway

end BrowserRelay
