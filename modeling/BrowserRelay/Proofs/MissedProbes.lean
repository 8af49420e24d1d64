import BrowserRelay.Proofs.StartupTrigger

/-!
# Probes that go unanswered

Every probing finds out whether the probe before it was answered.  What it finds is counted for
one process only: an answer, the end of the process or the start of another begins the count
anew.  A service that is ready is taken for not ready when the count reaches the limit, which is
one probing later than there are probes without an answer.
-/

namespace BrowserRelay

/-- No probe is unanswered, and none was missed. -/
def Health.IsClear (health : Health) : Prop := health.awaiting = false ∧ health.missed = 0

/-- Since the latest answer there was a number of probings, of which a service that is still ready
has no more than the limit, if there is one. -/
structure Health.Tells (health : Health) (limit count : Nat) : Prop where
  awaiting : health.awaiting = true ↔ 0 < count
  missed : health.missed = count - 1
  few : 0 < limit → count ≤ limit

theorem Health.IsClear.tells {health : Health} (clear : health.IsClear) (limit : Nat) :
    health.Tells limit 0 where
  awaiting := by simp [clear.1]
  missed := clear.2
  few _ := Nat.zero_le limit

namespace Exchange

variable {setup : Setup} {exchange : Exchange}

theorem isClear_resetHealth (exchange : Exchange) : exchange.resetHealth.health.IsClear :=
  ⟨rfl, rfl⟩

theorem health_onProbeResponse (setup : Setup) (exchange : Exchange) :
    (exchange.onProbeResponse setup).2.health = exchange.resetHealth.health := by
  unfold onProbeResponse
  split <;> rfl

/-- How many probes in a row went unanswered, with the latest. -/
def missedNow (exchange : Exchange) : Nat :=
  if exchange.health.awaiting then exchange.health.missed + 1 else exchange.health.missed

theorem health_countMissed (setup : Setup) (exchange : Exchange) :
    (exchange.countMissed setup).2.health =
      { exchange.health with missed := exchange.missedNow } := by
  unfold countMissed missedNow
  split
  · dsimp only
    split <;> rfl
  · rfl

theorem health_sendProbe (setup : Setup) (demoted : Bool) (running : exchange.state ≠ .noProcess)
    (success : exchange.outside.writeOutcomes.next = none) :
    (exchange.sendProbe setup demoted).2.health =
      { lastStamp := exchange.nextStamp, awaiting := true, missed := exchange.health.missed } := by
  cases taken : exchange.takeProbeId setup with
  | mk id stamped =>
    have kept : stamped.toHost = exchange.toHost :=
      (congrArg (fun result => result.2.toHost) taken).symm
    have health : stamped.health = { exchange.health with lastStamp := exchange.nextStamp } :=
      (congrArg (fun result => result.2.health) taken).symm
    obtain ⟨host, written, -, -⟩ := stamped.writeLine_written
      (Envelope.requestLine id setup.settings.health.method none)
      (by rwa [kept]) (by rwa [kept])
    simp only [sendProbe, taken, written, health]

/-- A process that is probed owes an answer. -/
theorem health_probe (setup : Setup) (running : exchange.state ≠ .noProcess)
    (success : exchange.outside.writeOutcomes.next = none) :
    (exchange.probe setup).2.health.awaiting = true ∧
      (exchange.probe setup).2.health.missed = exchange.missedNow := by
  have present : exchange.hasProcess = true := Host.hasProcess_iff.mpr running
  have outcomes := exchange.writeOutcomes_countMissed setup
  have health := exchange.health_countMissed setup
  have missed := exchange.traffic_countMissed setup
  cases counted : exchange.countMissed setup with
  | mk demoted later =>
    simp only [counted] at missed outcomes health
    have stays : later.state ≠ .noProcess := by
      rcases missed with ⟨-, same⟩ | ⟨-, same⟩
      · rwa [show later.state = exchange.state from congrArg Traffic.state same]
      · rw [show later.state = .starting from congrArg Traffic.state same]
        simp
    have probed : (exchange.probe setup).2 = (later.sendProbe setup demoted).2 := by
      simp only [probe, present, if_true, counted]
    rw [probed, health_sendProbe setup demoted stays (by rw [outcomes]; exact success), health]
    exact ⟨rfl, rfl⟩

theorem probe_ne_startRequested (setup : Setup) (running : exchange.state ≠ .noProcess) :
    (exchange.probe setup).1 ≠ .startRequested := by
  have present : exchange.hasProcess = true := Host.hasProcess_iff.mpr running
  simp only [probe, present, if_true, sendProbe]
  split <;> simp

theorem missesTooMany_iff : exchange.missesTooMany setup ↔
    exchange.health.awaiting = true ∧ 0 < setup.settings.health.maxMissedProbes ∧
      setup.settings.health.maxMissedProbes ≤ exchange.missedNow := by
  unfold missesTooMany missedNow
  constructor
  · rintro ⟨awaiting, limited, reached⟩
    exact ⟨awaiting, limited, by rwa [if_pos awaiting]⟩
  · rintro ⟨awaiting, limited, reached⟩
    exact ⟨awaiting, limited, by rwa [if_pos awaiting] at reached⟩

/-- Every probing but the first has found the probe before it unanswered. -/
theorem missedNow_eq {limit count : Nat} (tells : exchange.health.Tells limit count) :
    exchange.missedNow = count := by
  unfold missedNow
  have awaiting := tells.awaiting
  have missed := tells.missed
  split
  case isTrue waits =>
    have some := awaiting.mp waits
    omega
  case isFalse answered =>
    have none : ¬ 0 < count := fun some => answered (awaiting.mpr some)
    omega

theorem missesTooMany_iff_of_tells {count : Nat}
    (tells : exchange.health.Tells setup.settings.health.maxMissedProbes count) :
    exchange.missesTooMany setup ↔ 0 < setup.settings.health.maxMissedProbes ∧
      count = setup.settings.health.maxMissedProbes := by
  have few := tells.few
  rw [missesTooMany_iff, missedNow_eq tells, tells.awaiting]
  omega

end Exchange

namespace Gateway

variable {setup : Setup} {gateway : Gateway}

/-! ## Steps without a probing -/

/-- The probes are counted as before, for the same process, or anew. -/
inductive CountsOn (before later : Gateway) : Prop
  /-- The service is as ready as it was, and its process is the same if there is one. -/
  | kept (health : later.health = before.health) (state : later.state = before.state)
      (generation : later.state ≠ .noProcess → later.generation = before.generation)
  /-- The process is gone, or has only just been started. -/
  | renewed (clear : later.health.IsClear) (unready : later.state ≠ .ready)

namespace CountsOn

variable {before middle later : Gateway}

theorem refl (gateway : Gateway) : CountsOn gateway gateway :=
  .kept rfl rfl fun _ => rfl

theorem trans (first : CountsOn before middle) (second : CountsOn middle later) :
    CountsOn before later := by
  cases second with
  | renewed clear unready => exact .renewed clear unready
  | kept health state generation =>
      cases first with
      | renewed clear unready => exact .renewed (health ▸ clear) (state ▸ unready)
      | kept healthThen stateThen generationThen =>
          refine .kept (health.trans healthThen) (state.trans stateThen) fun running => ?_
          exact (generation running).trans (generationThen (state ▸ running))

theorem of_traffic (health : later.health = before.health) (state : later.state = before.state)
    (generation : later.generation = before.generation) : CountsOn before later :=
  .kept health state fun _ => generation

theorem of_unmoved (unmoved : before.Unmoved later) : CountsOn before later :=
  .of_traffic (congrArg Prod.snd unmoved.watch) unmoved.state unmoved.generation

theorem isClear (counts : CountsOn before later) (clear : before.health.IsClear) :
    later.health.IsClear := by
  cases counts with
  | kept health _ _ => exact health ▸ clear
  | renewed clear _ => exact clear

end CountsOn

/-- Settling a write that failed begins the count anew. -/
theorem health_settle (gateway : Gateway) {outcome : Exchange.DispatchOutcome}
    (unwaiting : outcome ≠ .queued) (unsent : outcome ≠ .sent) :
    (gateway.settle outcome).health = gateway.resetHealth.health := by
  have failed (orphaned : List PendingCall) (failure : Failure) :
      (gateway.resetHealth.failCalls orphaned failure).health = gateway.resetHealth.health :=
    congrArg Prod.snd (gateway.resetHealth.watch_failCalls orphaned failure)
  cases outcome with
  | queued => exact absurd rfl unwaiting
  | sent => exact absurd rfl unsent
  | retrying orphaned => exact failed orphaned connectionReset
  | respawnFailed failure orphaned =>
      exact (congrArg Prod.snd (watch_failQueued _ failure)).trans (failed orphaned connectionReset)
  | abandoned entry failure orphaned =>
      exact congrArg Prod.snd (gateway.watch_settle_abandoned entry failure orphaned)

theorem countsOn_passOn (setup : Setup) (gateway : Gateway) (entry : QueuedRequest) :
    CountsOn gateway (gateway.passOn setup entry) := by
  by_cases ready : gateway.state = .ready
  · cases outcome : gateway.outside.writeOutcomes.next with
    | none =>
        rw [passOn_success setup gateway entry ready outcome]
        exact .of_traffic rfl rfl rfl
    | some failure =>
        refine .renewed ?_ fun stays => ?_
        · obtain ⟨refused, dispatched, -⟩ := Exchange.dispatch_refused setup entry ready outcome
          rcases refused.afterFailedWrite_cases setup entry failure with
            ⟨later, result, -⟩ | ⟨-, ⟨later, result, -⟩ | ⟨respawn, later, result, -⟩⟩
          all_goals
            simp only [passOn, dispatched, result]
            rw [health_settle _ (by simp) (by simp)]
            exact Exchange.isClear_resetHealth _
        · have success := (ready_passOn_iff setup gateway entry ready).mp stays
          simp [success] at outcome
  · rw [passOn_waiting entry ready]
    exact .of_traffic rfl rfl rfl

theorem isClear_passOnWaiting (setup : Setup) (count : Nat) (clear : gateway.health.IsClear) :
    (gateway.passOnWaiting setup count).health.IsClear := by
  induction count generalizing gateway with
  | zero => exact clear
  | succ count ih =>
      unfold passOnWaiting
      split
      · split
        · exact clear
        · exact ih ((countsOn_passOn setup _ _).isClear clear)
      · exact clear

theorem countsOn_forward (setup : Setup) (gateway : Gateway) (message : ClientMessage) :
    CountsOn gateway (gateway.forward setup message) := by
  by_cases idle : gateway.state = .noProcess
  · cases outcome : gateway.outside.launchOutcomes.next with
    | none =>
        have rouses := rouses_forward setup message idle outcome
        refine .renewed ?_ (by simp [rouses.starting])
        rw [rouses.health]
        exact Exchange.isClear_resetHealth _
    | some failure =>
        obtain ⟨unstarted, failed, watch, gone⟩ := forward_unstarted setup message idle outcome
        have state : (unstarted.failQueued failure).state = .noProcess :=
          (congrArg Traffic.state (unstarted.traffic_failQueued failure)).trans gone
        rw [failed]
        refine .kept ?_ (state.trans idle.symm) fun running => absurd state running
        exact (congrArg Prod.snd (watch_failQueued unstarted failure)).trans
          (congrArg Prod.snd watch)
  · obtain ⟨taken, passed, unmoved, -⟩ :=
      forwardStarted_passesOn setup (gateway.accept message) message
    have accepted : CountsOn gateway taken :=
      (CountsOn.of_unmoved (gateway.unmoved_accept message)).trans (.of_unmoved unmoved)
    rw [forward_running message idle, passed]
    exact accepted.trans (countsOn_passOn setup taken message.entry)

theorem countsOn_handleClientLine (setup : Setup) (gateway : Gateway) (line : String) :
    CountsOn gateway (gateway.handleClientLine setup line) := by
  rcases gateway.handleClientLine_cases setup line with
    ⟨message, -, forwarded, -⟩ | ⟨rejected, -⟩
  · rw [forwarded]
    exact countsOn_forward setup gateway message
  · exact .of_unmoved (unmoved_handleClientLine setup gateway rejected)

/-! ### Lines and ends of the process -/

theorem isClear_handleServiceOutput {line : String} (answers : AnswersProbe setup line) :
    (gateway.handleServiceOutput setup line).health.IsClear := by
  obtain ⟨id, message, isResponse, isProbe⟩ := answersProbe_iff.mp answers
  have clear : (gateway.toExchange.onProbeResponse setup).2.health.IsClear := by
    rw [Exchange.health_onProbeResponse]
    exact Exchange.isClear_resetHealth _
  rw [handleServiceOutput_answered isResponse isProbe]
  split
  · rw [drainQueue_eq]
    exact isClear_passOnWaiting setup _ clear
  · exact clear

theorem countsOn_onServiceExited (setup : Setup) (gateway : Gateway) (generation : Nat)
    (code : Option Int) : CountsOn gateway (gateway.onServiceExited setup generation code) := by
  cases current : gateway.isCurrent generation with
  | true =>
      have gone : (gateway.onServiceExited setup generation code).state = .noProcess :=
        congrArg Traffic.state (traffic_onServiceExited setup code current)
      have health : (gateway.onServiceExited setup generation code).health =
          gateway.resetHealth.health := congrArg Prod.snd (watch_onServiceExited setup code current)
      exact .renewed (health ▸ Exchange.isClear_resetHealth _) (by simp [gone])
  | false =>
      rw [onServiceExited_stale setup code current]
      exact .refl gateway

theorem countsOn_onServiceFailed (gateway : Gateway) (generation : Nat) (detail : String) :
    CountsOn gateway (gateway.onServiceFailed generation detail) := by
  cases current : gateway.isCurrent generation with
  | true =>
      have gone : (gateway.onServiceFailed generation detail).state = .noProcess :=
        congrArg Traffic.state (traffic_onServiceFailed detail current)
      have health : (gateway.onServiceFailed generation detail).health =
          gateway.resetHealth.health := congrArg Prod.snd (watch_onServiceFailed detail current)
      exact .renewed (health ▸ Exchange.isClear_resetHealth _) (by simp [gone])
  | false =>
      rw [onServiceFailed_stale detail current]
      exact .refl gateway

/-! ### Starts and timers -/

/-- A process that has just been started has missed no probe. -/
theorem countsOn_launch {host : Host}
    (launched : (gateway.toExchange.withHost host).traffic = gateway.traffic.launch setup) :
    CountsOn gateway (gateway.withHost host).resetHealth := by
  have starting : (gateway.withHost host).resetHealth.state = .starting :=
    congrArg Traffic.state launched
  exact .renewed (Exchange.isClear_resetHealth _) (by simp [starting])

theorem countsOn_failLaunch {host : Host} (failure : Failure) (idle : gateway.state = .noProcess)
    (failed : (gateway.toExchange.withHost host).traffic = gateway.traffic.failLaunch) :
    CountsOn gateway ((gateway.withHost host).failQueued failure) := by
  let unstarted := gateway.withHost host
  have gone : unstarted.state = .noProcess := (congrArg Traffic.state failed).trans idle
  have state : (unstarted.failQueued failure).state = .noProcess :=
    (congrArg Traffic.state (unstarted.traffic_failQueued failure)).trans gone
  refine .kept ?_ (state.trans idle.symm) fun running => absurd state running
  exact congrArg Prod.snd (watch_failQueued unstarted failure)

theorem countsOn_startService (setup : Setup) (gateway : Gateway) :
    CountsOn gateway (gateway.startService setup).2 := by
  by_cases idle : gateway.state = .noProcess
  · rcases Exchange.start_cases setup idle with
      ⟨host, started, same⟩ | ⟨failure, host, started, same⟩
    · simp only [startService, started]
      exact countsOn_launch same
    · have state : (gateway.withHost host).state = .noProcess :=
        (congrArg Traffic.state same).trans idle
      simp only [startService, started]
      exact .kept rfl (state.trans idle.symm) fun running => absurd state running
  · obtain ⟨ready, result⟩ := startService_running setup idle
    rw [result]
    exact .refl gateway

theorem countsOn_onProbeTimer (setup : Setup) (idle : gateway.state = .noProcess) :
    CountsOn gateway (gateway.onProbeTimer setup) := by
  have absent : gateway.hasProcess = false := Host.hasProcess_eq_false_iff.mpr idle
  rcases Exchange.start_cases setup idle with
    ⟨host, started, same⟩ | ⟨failure, host, started, same⟩
  · simp only [onProbeTimer, Exchange.probe, absent, started]
    exact countsOn_launch same
  · simp only [onProbeTimer, Exchange.probe, absent, started]
    exact countsOn_failLaunch failure idle same

theorem countsOn_onRestart (setup : Setup) (gateway : Gateway) :
    CountsOn gateway (gateway.onRestart setup) := by
  by_cases idle : gateway.state = .noProcess
  · have absent : gateway.hasProcess = false := Host.hasProcess_eq_false_iff.mpr idle
    rcases Exchange.start_cases setup idle with
      ⟨host, started, same⟩ | ⟨failure, host, started, same⟩
    · simp only [onRestart, absent, started]
      exact countsOn_launch same
    · simp only [onRestart, absent, started]
      exact countsOn_failLaunch failure idle same
  · rw [onRestart_running setup idle]
    exact .refl gateway

theorem health_onStartupDeadline (setup : Setup) (gateway : Gateway) :
    (gateway.onStartupDeadline setup).health = gateway.health := by
  unfold onStartupDeadline
  split
  case h_1 =>
    dsimp only
    split
    case h_1 => rfl
    case h_2 => split <;> rfl
  case h_2 => rfl

theorem health_onCallDeadline (setup : Setup) (gateway : Gateway) (id : RequestId) :
    (gateway.onCallDeadline setup id).health = gateway.health := by
  unfold onCallDeadline
  split
  case h_1 => rfl
  case h_2 taken found =>
    rw [takeExpired_eq found]
    rfl

/-- A timer that elapses counts no probes unless it probes a process. -/
theorem countsOn_onTimer (setup : Setup) (gateway : Gateway) (timer : Timer)
    (undue : timer.isProbe = true → gateway.state = .noProcess) :
    CountsOn gateway (gateway.onTimer setup timer) := by
  cases timer with
  | firstProbe => exact countsOn_onProbeTimer setup (undue rfl)
  | probeInterval => exact countsOn_onProbeTimer setup (undue rfl)
  | startupDeadline =>
      have health := gateway.health_onStartupDeadline setup
      rcases gateway.traffic_onStartupDeadline setup with same | ⟨id, failure, -, -, same⟩
      all_goals
        exact .of_traffic health (congrArg Traffic.state same) (congrArg Traffic.generation same)
  | restart => exact gateway.countsOn_onRestart setup
  | callDeadline id =>
      have health := gateway.health_onCallDeadline setup id
      rcases gateway.traffic_onCallDeadline setup id with
        ⟨call, -, same⟩ | ⟨-, ⟨-, same⟩ | ⟨-, same⟩⟩
      all_goals
        exact .of_traffic health (congrArg Traffic.state same) (congrArg Traffic.generation same)
  | shutdownGrace => exact .refl gateway

/-- Whatever happens to a process, its probes count for it alone. -/
theorem countsOn_step (setup : Setup) (gateway : Gateway) (step : Step)
    (unanswered : ¬ gateway.Wakes setup (.step step))
    (undue : gateway.probes step = true → gateway.state = .noProcess) :
    CountsOn gateway (gateway.step setup step) := by
  cases step with
  | start => exact gateway.countsOn_startService setup
  | event event =>
      cases event with
      | clientLine line => exact gateway.countsOn_handleClientLine setup line
      | clientClosed => exact .refl gateway
      | serviceOutput generation line =>
          have stepped : gateway.step setup (.event (.serviceOutput generation line)) =
            gateway.onServiceOutput setup generation line := rfl
          rw [stepped, onServiceOutput]
          split
          case isTrue current =>
            exact .of_unmoved (unmoved_handleServiceOutput fun answers =>
              unanswered (.intro current answers))
          case isFalse => exact .of_traffic rfl rfl rfl
      | serviceError generation line => exact .of_traffic rfl rfl rfl
      | serviceExited generation code =>
          exact gateway.countsOn_onServiceExited setup generation code
      | serviceFailed generation detail => exact gateway.countsOn_onServiceFailed generation detail
      | timer timer => exact gateway.countsOn_onTimer setup timer undue
      | shutdown => exact .refl gateway
  | elapse timer =>
      have armed (rule : TimerRule) (isArmed : gateway.traffic.armed timer = some rule)
          (probe : timer.isProbe = true) : gateway.state = .noProcess := by
        have found : gateway.timers.rule? timer = some rule := isArmed
        refine undue ?_
        rw [probes, TimerTable.isArmed_eq, found, probe]
        rfl
      rcases gateway.step_elapse_cases setup timer with
        ⟨-, same⟩ | ⟨period, isArmed, same⟩ | ⟨delay, isArmed, same⟩
      · rw [same]
        exact .refl gateway
      · rw [same]
        exact gateway.countsOn_onTimer setup timer (armed _ isArmed)
      · rw [same]
        refine .trans ?_ (countsOn_onTimer setup _ timer (armed _ isArmed))
        exact .of_traffic rfl rfl rfl
  | meanwhile outside => exact .of_traffic rfl rfl rfl

/-! ## Steps with a probing -/

theorem step_of_due (setup : Setup) {step : Step} (due : gateway.probes step = true) :
    ∃ timers, gateway.step setup step =
      ({ gateway with timers := timers } : Gateway).onProbeTimer setup := by
  have probing (fired : Gateway) {timer : Timer} (isProbe : timer.isProbe = true) :
      fired.onTimer setup timer = fired.onProbeTimer setup := by
    cases timer with
    | firstProbe => rfl
    | probeInterval => rfl
    | _ => cases isProbe
  cases step with
  | event event =>
      cases event with
      | timer timer => exact ⟨gateway.timers, probing gateway due⟩
      | _ => cases due
  | elapse timer =>
      rw [probes, Bool.and_eq_true, TimerTable.isArmed_eq] at due
      rcases gateway.step_elapse_cases setup timer with
        ⟨unarmed, -⟩ | ⟨period, -, same⟩ | ⟨delay, -, same⟩
      · have none : gateway.timers.rule? timer = none := unarmed
        simp [none] at due
      · exact ⟨gateway.timers, same.trans (probing gateway due.1)⟩
      · exact ⟨_, same.trans (probing _ due.1)⟩
  | _ => cases due

theorem onProbeTimer_running (setup : Setup) (running : gateway.state ≠ .noProcess) :
    gateway.onProbeTimer setup =
      gateway.withExchange (gateway.toExchange.probe setup).2 := by
  cases result : gateway.toExchange.probe setup with
  | mk outcome later =>
    cases outcome with
    | sent id demoted => simp only [onProbeTimer, result]
    | startRequested =>
        exact absurd (congrArg Prod.fst result) (Exchange.probe_ne_startRequested setup running)
    | startFailed failure =>
        exact absurd (congrArg Prod.fst result)
          (Exchange.probe_ne_startFailed setup running failure)
    | writeFailed => simp only [onProbeTimer, result]

/-- What it comes to that the process is probed. -/
structure CountsProbe (setup : Setup) (before later : Gateway) : Prop where
  running : later.state ≠ .noProcess
  generation : later.generation = before.generation
  stays : before.outside.writeOutcomes.next = none → before.state = .ready →
    (later.state = .ready ↔ ¬ before.missesTooMany setup)
  health : before.outside.writeOutcomes.next = none →
    later.health.awaiting = true ∧ later.health.missed = before.missedNow

theorem countsProbe_onProbeTimer (setup : Setup) (running : gateway.state ≠ .noProcess) :
    CountsProbe setup gateway (gateway.onProbeTimer setup) := by
  refine ⟨?_, ?_, fun success ready => ?_, fun success => ?_⟩
  · rw [onProbeTimer_running setup running]
    exact (Exchange.moves_probe setup running).2
  · obtain ⟨counted, missed, -, outcome⟩ := gateway.toExchange.probe_cases setup running
    have same : counted.generation = gateway.generation := by
      rcases missed with ⟨-, rfl⟩ | ⟨-, rfl⟩ <;> rfl
    rw [onProbeTimer_running setup running]
    rcases outcome with ⟨-, id, line, probed⟩ | ⟨-, refused⟩
    · exact (congrArg Traffic.generation probed).trans same
    · exact (congrArg Traffic.generation refused).trans same
  · rw [ready_onProbeTimer_iff setup gateway ready, and_iff_right success]
  · rw [onProbeTimer_running setup running]
    exact Exchange.health_probe setup running success

theorem countsProbe_step {step : Step} (due : gateway.probes step = true)
    (running : gateway.state ≠ .noProcess) :
    CountsProbe setup gateway (gateway.step setup step) := by
  obtain ⟨timers, probed⟩ := step_of_due setup due
  let fired : Gateway := { gateway with timers := timers }
  have counts : CountsProbe setup fired (fired.onProbeTimer setup) :=
    countsProbe_onProbeTimer setup running
  rw [probed]
  exact ⟨counts.running, counts.generation, counts.stays, counts.health⟩

/-! ## Turns -/

/-- Whether the process is probed in a turn. -/
def probesIn (gateway : Gateway) : Turn → Bool
  | .step step => gateway.probes step
  | .terminate => false

/-- How often the process is probed in the course of turns. -/
def probings (setup : Setup) : Gateway → List Turn → Nat
  | _, [] => 0
  | gateway, turn :: turns =>
      (gateway.probesIn turn).toNat + probings setup (gateway.turn setup turn) turns

theorem probings_concat (setup : Setup) (gateway : Gateway) (turns : List Turn) (turn : Turn) :
    gateway.probings setup (turns ++ [turn]) =
      gateway.probings setup turns +
        ((turns.foldl (Gateway.turn setup) gateway).probesIn turn).toNat := by
  induction turns generalizing gateway with
  | nil => simp [probings]
  | cons first turns ih =>
      simp only [List.cons_append, probings, ih, List.foldl_cons, Nat.add_assoc]

theorem isClear_of_wakes {turn : Turn} (wakes : gateway.Wakes setup turn) :
    (gateway.turn setup turn).health.IsClear := by
  obtain ⟨current, answers⟩ := wakes
  simp only [Gateway.turn, Gateway.step, handleEvent, onServiceOutput, current, if_true]
  exact isClear_handleServiceOutput answers

/-- What a turn does to the count of probes that went unanswered. -/
inductive Recounts (setup : Setup) (before : Gateway) (turn : Turn) (later : Gateway) : Prop
  | answered (wakes : before.Wakes setup turn) (clear : later.health.IsClear)
  | probed (unanswered : ¬ before.Wakes setup turn) (due : before.probesIn turn = true)
      (running : before.state ≠ .noProcess) (counts : CountsProbe setup before later)
  | other (unanswered : ¬ before.Wakes setup turn)
      (undue : before.probesIn turn = true → before.state = .noProcess)
      (counts : CountsOn before later)
  | ended (isEnd : turn = .terminate)

theorem recounts_turn (setup : Setup) (gateway : Gateway) (turn : Turn) :
    Recounts setup gateway turn (gateway.turn setup turn) := by
  cases turn with
  | terminate => exact .ended rfl
  | step step =>
      by_cases wakes : gateway.Wakes setup (.step step)
      · exact .answered wakes (isClear_of_wakes wakes)
      by_cases probing : gateway.probes step = true ∧ gateway.state ≠ .noProcess
      · exact .probed wakes probing.1 probing.2 (countsProbe_step probing.1 probing.2)
      · have undue (due : gateway.probes step = true) : gateway.state = .noProcess :=
          not_not.mp fun running => probing ⟨due, running⟩
        exact .other wakes undue (countsOn_step setup gateway step wakes undue)

/-- In whichever turn a process is started, it has missed no probe. -/
theorem isClear_of_start (setup : Setup) (gateway : Gateway) (turn : Turn)
    (running : (gateway.turn setup turn).state ≠ .noProcess)
    (started : gateway.state = .noProcess ∨
      (gateway.turn setup turn).generation ≠ gateway.generation) :
    (gateway.turn setup turn).health.IsClear := by
  cases gateway.recounts_turn setup turn with
  | answered wakes clear => exact clear
  | probed _ _ wasRunning counts =>
      rcases started with idle | other
      · exact absurd idle wasRunning
      · exact absurd counts.generation other
  | other unanswered undue counts =>
      cases counts with
      | renewed clear unready => exact clear
      | kept health state generation =>
          rcases started with idle | other
          · exact absurd (state.trans idle) running
          · exact absurd (generation running) other
  | ended isEnd =>
      subst isEnd
      exact absurd gateway.state_terminate running

/-! ## Runs -/

/-- The turn in which the present process has last answered a probe, and those since. -/
structure LastAnswer (setup : Setup) (outside : Outside) (turns earlier : List Turn)
    (answer : Turn) (since : List Turn) : Prop where
  split : turns = earlier ++ answer :: since
  answers : (afterTurns setup outside earlier).Wakes setup answer
  generation : (afterTurns setup outside earlier).generation =
    (afterTurns setup outside turns).generation
  last : ∀ part turn rest, since = part ++ turn :: rest →
    ¬ (afterTurns setup outside (earlier ++ answer :: part)).Wakes setup turn

/-- How often the process was probed since a turn. -/
def probingsSince (setup : Setup) (outside : Outside) (earlier : List Turn) (answer : Turn)
    (since : List Turn) : Nat :=
  (afterTurns setup outside (earlier ++ [answer])).probings setup since

theorem probingsSince_concat {outside : Outside} {turns earlier since : List Turn} {answer : Turn}
    (split : turns = earlier ++ answer :: since) (turn : Turn) :
    probingsSince setup outside earlier answer (since ++ [turn]) =
      probingsSince setup outside earlier answer since +
        ((afterTurns setup outside turns).probesIn turn).toNat := by
  have later : since.foldl (Gateway.turn setup) (afterTurns setup outside (earlier ++ [answer])) =
      afterTurns setup outside turns := by
    have whole : turns = (earlier ++ [answer]) ++ since := by simp [split]
    rw [whole]
    exact List.foldl_append.symm
  rw [probingsSince, probings_concat, later]
  rfl

namespace LastAnswer

variable {outside : Outside} {turns earlier since : List Turn} {answer turn : Turn}

theorem of_wakes (wakes : (afterTurns setup outside turns).Wakes setup turn)
    (generation : (afterTurns setup outside (turns ++ [turn])).generation =
      (afterTurns setup outside turns).generation) :
    LastAnswer setup outside (turns ++ [turn]) turns turn [] where
  split := rfl
  answers := wakes
  generation := generation.symm
  last := by simp

theorem concat (lastAnswer : LastAnswer setup outside turns earlier answer since)
    (unanswered : ¬ (afterTurns setup outside turns).Wakes setup turn)
    (generation : (afterTurns setup outside (turns ++ [turn])).generation =
      (afterTurns setup outside turns).generation) :
    LastAnswer setup outside (turns ++ [turn]) earlier answer (since ++ [turn]) where
  split := by
    rw [lastAnswer.split, List.append_assoc, List.cons_append]
  answers := lastAnswer.answers
  generation := lastAnswer.generation.trans generation.symm
  last := by
    intro part other rest split
    rcases concat_eq_append_cons.mp split with ⟨rfl, rfl, rfl⟩ | ⟨further, rfl, earlierSplit⟩
    · rwa [← lastAnswer.split]
    · exact lastAnswer.last part other further earlierSplit

end LastAnswer

/-- What is ready after a turn is the same process as before, which was ready already unless it
answers a probe. -/
theorem ready_before {last : Turn} (settled : gateway.traffic.IsSettled)
    (ready : (gateway.turn setup last).state = .ready) :
    (gateway.turn setup last).generation = gateway.generation ∧
      (¬ gateway.Wakes setup last → gateway.state = .ready) := by
  rcases steady_turn setup gateway last settled with ⟨deeds, steady⟩ | ⟨wakes, -, deeds, steady⟩
  · exact ⟨(steady.ready ready).2.1, fun _ => (steady.ready ready).1⟩
  · exact ⟨(steady.ready ready).2.1, fun unanswered => absurd wakes unanswered⟩

/-- A service that is probed and stays ready could be written to. -/
theorem succeeds_of_ready {last : Turn} (settled : gateway.traffic.IsSettled)
    (due : gateway.probesIn last = true) (ready : gateway.state = .ready)
    (stillReady : (gateway.turn setup last).state = .ready) :
    gateway.outside.writeOutcomes.next = none := by
  have calm : ¬ gateway.Unsettles setup last := by
    rw [← unready_turn_iff setup gateway last settled ready]
    exact fun unready => unready stillReady
  cases last with
  | terminate => cases due
  | step step =>
      rw [unsettles_iff_of_due due, not_not] at calm
      exact calm.1

/-- For a service that is ready, the count tells how often it was probed since its last answer. -/
theorem tells_of_ready (setup : Setup) (outside : Outside) (turns : List Turn)
    (ready : (afterTurns setup outside turns).state = .ready) :
    ∃ earlier answer since, LastAnswer setup outside turns earlier answer since ∧
      (afterTurns setup outside turns).health.Tells setup.settings.health.maxMissedProbes
        (probingsSince setup outside earlier answer since) := by
  induction turns using List.reverseRecOn with
  | nil =>
      have idle := congrArg Traffic.state (traffic_initial setup outside)
      exact absurd (idle.symm.trans ready) (by simp)
  | append_singleton turns last ih =>
      have settled := settled_afterTurns setup outside turns
      have stepped := afterTurns_concat setup outside turns last
      obtain ⟨generation, wasReady⟩ := ready_before settled (stepped ▸ ready)
      rw [← stepped] at generation
      have recounts := (afterTurns setup outside turns).recounts_turn setup last
      rw [← stepped] at recounts
      cases recounts with
      | answered wakes clear => exact ⟨turns, last, [], .of_wakes wakes generation, clear.tells _⟩
      | probed unanswered due running counts =>
          have readyThen := wasReady unanswered
          obtain ⟨earlier, answer, since, lastAnswer, tells⟩ := ih readyThen
          refine ⟨earlier, answer, since ++ [last], lastAnswer.concat unanswered generation, ?_⟩
          have success := succeeds_of_ready settled due readyThen (stepped ▸ ready)
          have few := (counts.stays success readyThen).mp ready
          rw [Exchange.missesTooMany_iff_of_tells tells] at few
          obtain ⟨awaiting, missed⟩ := counts.health success
          rw [Exchange.missedNow_eq tells] at missed
          have fewer := tells.few
          rw [probingsSince_concat lastAnswer.split, due, Bool.toNat_true]
          exact ⟨by simp [awaiting], by omega, by omega⟩
      | other unanswered undue counts =>
          have readyThen := wasReady unanswered
          obtain ⟨earlier, answer, since, lastAnswer, tells⟩ := ih readyThen
          refine ⟨earlier, answer, since ++ [last], lastAnswer.concat unanswered generation, ?_⟩
          have quiet : (afterTurns setup outside turns).probesIn last = false := by
            rw [← Bool.not_eq_true]
            intro due
            simpa [readyThen] using undue due
          rw [probingsSince_concat lastAnswer.split, quiet]
          cases counts with
          | kept health _ _ => exact health ▸ tells
          | renewed clear unready => exact absurd ready unready
      | ended isEnd =>
          subst isEnd
          rw [stepped] at ready
          exact absurd ((state_terminate _).symm.trans ready) (by simp)

/-- The relay was ended, and no process has been started since. -/
def HasEnded (setup : Setup) (outside : Outside) (turns : List Turn) : Prop :=
  ∃ earlier later, turns = earlier ++ .terminate :: later ∧
    ∀ part, part <+: later →
      (afterTurns setup outside (earlier ++ .terminate :: part)).state = .noProcess

/-- What was ended stays so as long as there is no process. -/
theorem HasEnded.concat {outside : Outside} {turns : List Turn} {last : Turn}
    (ended : HasEnded setup outside turns)
    (idle : (afterTurns setup outside (turns ++ [last])).state = .noProcess) :
    HasEnded setup outside (turns ++ [last]) := by
  obtain ⟨earlier, later, rfl, since⟩ := ended
  refine ⟨earlier, later ++ [last], by simp, fun part begins => ?_⟩
  rcases List.prefix_concat_iff.mp begins with rfl | before
  · simpa using idle
  · exact since part before

/-- Where there is no process and the relay was not ended, no probe is unanswered. -/
theorem isClear_of_idle (setup : Setup) (outside : Outside) (turns : List Turn)
    (idle : (afterTurns setup outside turns).state = .noProcess)
    (goesOn : ¬HasEnded setup outside turns) :
    (afterTurns setup outside turns).health.IsClear := by
  induction turns using List.reverseRecOn with
  | nil => exact ⟨rfl, rfl⟩
  | append_singleton turns last ih =>
      have stepped := afterTurns_concat setup outside turns last
      have recounts := (afterTurns setup outside turns).recounts_turn setup last
      rw [← stepped] at recounts
      cases recounts with
      | answered wakes clear => exact clear
      | probed _ _ _ counts => exact absurd idle counts.running
      | other _ _ counts =>
          cases counts with
          | renewed clear unready => exact clear
          | kept health state _ =>
              exact health ▸ ih (state.symm.trans idle) (mt (·.concat idle) goesOn)
      | ended isEnd =>
          subst isEnd
          refine absurd ⟨turns, [], rfl, fun part begins => ?_⟩ goesOn
          rw [List.prefix_nil.mp begins]
          exact idle

/-- A service that is ready, and was probed often enough since its process last answered, is
taken for not ready when it is probed the next time: after as many probings as there is a limit,
and never without one.  Every answer of the present process begins the count anew, and so does
every start of a process, whatever became of the one before it.  Where there is no process, no
probe is unanswered and none is counted, except from the time the relay is ended. -/
theorem missed_probes_demote_at_limit (setup : Setup) (outside : Outside) (turns : List Turn) :
    let gateway := afterTurns setup outside turns
    let limit := setup.settings.health.maxMissedProbes
    (gateway.state = .ready → ∃ earlier answer since,
      LastAnswer setup outside turns earlier answer since ∧
        ∀ step, gateway.probes step = true → gateway.outside.writeOutcomes.next = none →
          (gateway.step setup step).state =
            if 0 < limit ∧ probingsSince setup outside earlier answer since = limit then .starting
            else .ready) ∧
      (∀ turn, gateway.Wakes setup turn → (gateway.turn setup turn).health.IsClear) ∧
      (∀ turn, (gateway.turn setup turn).state ≠ .noProcess →
        (gateway.state = .noProcess ∨
          (gateway.turn setup turn).generation ≠ gateway.generation) →
          (gateway.turn setup turn).health.IsClear) ∧
      (gateway.state = .noProcess → ¬HasEnded setup outside turns → gateway.health.IsClear) := by
  intro gateway limit
  refine ⟨fun ready => ?_, fun turn => isClear_of_wakes, isClear_of_start setup gateway,
    isClear_of_idle setup outside turns⟩
  obtain ⟨earlier, answer, since, lastAnswer, tells⟩ := tells_of_ready setup outside turns ready
  refine ⟨earlier, answer, since, lastAnswer, fun step due success => ?_⟩
  have counts : CountsProbe setup gateway (gateway.step setup step) :=
    countsProbe_step due (by simp [ready])
  have stays := counts.stays success ready
  rw [Exchange.missesTooMany_iff_of_tells tells] at stays
  split
  case isTrue tooMany =>
    have unready := mt stays.mp (not_not.mpr tooMany)
    have running := counts.running
    generalize (gateway.step setup step).state = state at unready running ⊢
    cases state with
    | noProcess => exact absurd rfl running
    | starting => rfl
    | ready => exact absurd rfl unready
  case isFalse few => exact stays.mpr few

/-- With a limit of one, the second of two probings without an answer demotes the service. -/
theorem second_probing_demotes :
    let setup : Setup :=
      { settings := { health := { maxMissedProbes := 1 } }, launch := ⟨"npx", [], none⟩ }
    let probing : Step := .event (.timer .probeInterval)
    let turns : List Turn :=
      [.step .start, .step (.event (.serviceOutput 1 "\x7b\"id\":\"health_check_1\"\x7d")),
        .step probing]
    (afterTurns setup {} turns).state = .ready ∧
      ((afterTurns setup {} turns).step setup probing).state = .starting ∧
      ∃ earlier answer since, LastAnswer setup {} turns earlier answer since ∧
        probingsSince setup {} earlier answer since = 1 := by
  intro setup probing turns
  have ready : (afterTurns setup {} turns).state = .ready := by decide +kernel
  have success : (afterTurns setup {} turns).outside.writeOutcomes.next = none := by
    decide +kernel
  have demoted : ((afterTurns setup {} turns).step setup probing).state = .starting := by
    decide +kernel
  obtain ⟨main, -⟩ := missed_probes_demote_at_limit setup {} turns
  obtain ⟨earlier, answer, since, lastAnswer, demotes⟩ := main ready
  refine ⟨ready, demoted, earlier, answer, since, lastAnswer, ?_⟩
  have state := demotes probing rfl success
  rw [demoted] at state
  by_contra few
  rw [if_neg fun reached => few reached.2] at state
  cases state

/-- Ending the relay stops the process and leaves its probe unanswered and its miss counted. -/
theorem ended_relay_keeps_missed_probes :
    let setup : Setup :=
      { settings := { health := { maxMissedProbes := 2 } }, launch := ⟨"npx", [], none⟩ }
    let probing : Turn := .step (.event (.timer .probeInterval))
    let turns : List Turn :=
      [.step .start, .step (.event (.serviceOutput 1 "\x7b\"id\":\"health_check_1\"\x7d")),
        probing, probing, .terminate]
    let gateway := afterTurns setup {} turns
    gateway.state = .noProcess ∧ gateway.health.awaiting = true ∧ gateway.health.missed = 1 ∧
      ¬gateway.health.IsClear := by
  intro setup probing turns gateway
  have missed : gateway.health.missed = 1 := by decide +kernel
  refine ⟨by decide +kernel, by decide +kernel, missed, fun clear => ?_⟩
  simp [clear.2] at missed

end Gateway

end BrowserRelay
