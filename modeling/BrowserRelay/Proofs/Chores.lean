import BrowserRelay.Proofs.Upkeep

/-!
# Chores in a step

Every handler of the gateway is a course of chores, and so is every step.  The duty of a step says
which stamp is due, whose deadline is to be armed, and which timer has elapsed.
-/

namespace BrowserRelay

namespace Gateway

variable {setup : Setup} {duty : Duty}

/-- The upkeep of a gateway. -/
abbrev upkeep (gateway : Gateway) : Upkeep := gateway.toExchange.upkeep

/-! ## Single deeds -/

theorem upkeep_tell (gateway : Gateway) (line : String) :
    (gateway.tell line).upkeep = gateway.upkeep.enter (.told line) := by
  simp only [tell, upkeep, Exchange.upkeep, Outside.killed_reply]
  rfl

theorem upkeep_answer (gateway : Gateway) (id : RequestId) (answer : Answer) :
    (gateway.answer id answer).upkeep = gateway.upkeep.enter (.answered id answer) := by
  simp only [Gateway.answer, upkeep, Exchange.upkeep, Outside.killed_reply]
  rfl

theorem chores_failCall (gateway : Gateway) (id : RequestId) (failure : Failure) :
    Chores setup duty gateway.upkeep (gateway.failCall id failure).upkeep := by
  rw [failCall, upkeep_answer]
  exact .tail (.single (.disarmed (by simp))) (.entered rfl)

theorem chores_failCalls (gateway : Gateway) (calls : List PendingCall) (failure : Failure) :
    Chores setup duty gateway.upkeep (gateway.failCalls calls failure).upkeep := by
  induction calls generalizing gateway with
  | nil => exact .refl
  | cons call calls ih => exact (gateway.chores_failCall call.id failure).trans (ih _)

theorem chores_failEntries (gateway : Gateway) (entries : List QueuedRequest)
    (failure : Failure) :
    Chores setup duty gateway.upkeep (gateway.failEntries entries failure).upkeep := by
  induction entries generalizing gateway with
  | nil => exact .refl
  | cons entry entries ih =>
      obtain ⟨request, line, plan, attempts⟩ := entry
      cases request with
      | none => exact ih gateway
      | some id => exact (gateway.chores_failCall id failure).trans (ih _)

theorem chores_failQueued (gateway : Gateway) (failure : Failure) :
    Chores setup duty gateway.upkeep (gateway.failQueued failure).upkeep := by
  unfold failQueued
  dsimp only
  split
  · exact .refl
  · exact .after (chores_failEntries _ gateway.queue failure) .refl

theorem chores_resetHealth (gateway : Gateway) :
    Chores setup duty gateway.upkeep gateway.resetHealth.upkeep :=
  .single (.counted false 0)

theorem chores_settle (gateway : Gateway) (outcome : Exchange.DispatchOutcome) :
    Chores setup duty gateway.upkeep (gateway.settle outcome).upkeep := by
  have reset : Chores setup duty gateway.upkeep gateway.resetHealth.upkeep :=
    gateway.chores_resetHealth
  cases outcome with
  | queued => exact .refl
  | sent => exact .refl
  | retrying orphaned => exact reset.trans (chores_failCalls _ orphaned _)
  | respawnFailed failure orphaned =>
      exact (reset.trans (chores_failCalls _ orphaned _)).trans (chores_failQueued _ failure)
  | abandoned entry failure orphaned =>
      have failed := reset.trans (gateway.resetHealth.chores_failCalls orphaned failure)
      obtain ⟨request, line, plan, attempts⟩ := entry
      cases request with
      | none => exact failed
      | some id =>
          exact .after (chores_failCall _ id failure) failed

theorem chores_passOn (setup : Setup) (gateway : Gateway) (entry : QueuedRequest) :
    Chores setup duty gateway.upkeep (gateway.passOn setup entry).upkeep := by
  have dispatched : Chores setup duty gateway.upkeep _ :=
    gateway.toExchange.chores_dispatch setup entry
  exact dispatched.trans (chores_settle (gateway.withExchange _) _)

theorem chores_passOnWaiting (setup : Setup) (count : Nat) (gateway : Gateway) :
    Chores setup duty gateway.upkeep (gateway.passOnWaiting setup count).upkeep := by
  induction count generalizing gateway with
  | zero => exact .refl
  | succ count ih =>
      unfold passOnWaiting
      split
      · split
        · exact .refl
        case h_2 entry rest _ =>
          exact (chores_passOn setup { gateway with queue := rest } entry).trans (ih _)
      · exact .refl

/-! ## Lines of the client -/

theorem chores_startService (setup : Setup) (gateway : Gateway) :
    Chores setup duty gateway.upkeep (gateway.startService setup).2.upkeep := by
  have started : Chores setup duty gateway.upkeep _ :=
    gateway.toExchange.chores_start setup
  unfold startService
  cases result : gateway.toHost.start setup with
  | mk outcome host =>
    rw [result] at started
    rcases outcome with failure | ready | generation
    · exact started
    · exact started
    · exact started.tail (.counted false 0)

theorem chores_ensureStarted (setup : Setup) (gateway : Gateway) (trigger : Option RequestId) :
    Chores setup duty gateway.upkeep (gateway.ensureStarted setup trigger).2.upkeep := by
  have started : Chores setup duty gateway.upkeep _ := gateway.chores_startService setup
  unfold ensureStarted
  split
  · exact .refl
  · cases result : gateway.startService setup with
    | mk outcome later =>
      rw [result] at started
      rcases outcome with failure | ready | generation
      all_goals exact started

theorem upkeep_record (setup : Setup) (gateway : Gateway) (message : ClientMessage) :
    (gateway.record setup message).upkeep = gateway.upkeep := by
  obtain ⟨actions, files, journal, recorded⟩ := exists_record setup gateway message
  rw [recorded]
  rfl

theorem chores_generateScript (setup : Setup) (gateway : Gateway) (id : Option RequestId) :
    Chores setup duty gateway.upkeep (gateway.generateScript setup id).upkeep := by
  obtain ⟨journal, generated⟩ := gateway.generateScript_eq setup id
  rw [generated]
  cases id with
  | none => exact .refl
  | some id =>
      rw [tellReport, upkeep_tell]
      exact .single (.entered rfl)

/-- The deadline of a message is armed if it is a request, and it is the only one. -/
theorem chores_forwardStarted (setup : Setup) (started : Gateway) (message : ClientMessage)
    (own : ∀ id, message.answerId = some id → duty.call? = some id) :
    Chores setup duty started.upkeep (forwardStarted setup started message).upkeep := by
  have recorded := started.upkeep_record setup message
  have passes (taken : Gateway)
      (first : Chores setup duty started.upkeep taken.upkeep) :
      Chores setup duty started.upkeep
        ((taken.enter (.forwarded message.entry)).passOn setup message.entry).upkeep :=
    .after (chores_passOn setup _ message.entry) (first.tail (.entered rfl))
  unfold forwardStarted
  cases request : message.answerId with
  | none =>
      refine passes ((started.record setup message).note _ _ _) ?_
      exact recorded ▸ .refl
  | some id =>
      refine passes (Gateway.note _ _ _ _) ?_
      have armed : Chore setup duty started.upkeep (started.upkeep.arm _ _) :=
        .deadlineArmed (.once setup.settings.service.callTimeout) (own id request)
      rw [← recorded] at armed ⊢
      exact .single armed

theorem chores_forward (setup : Setup) (gateway : Gateway) (message : ClientMessage)
    (own : ∀ id, message.answerId = some id → duty.call? = some id) :
    Chores setup duty gateway.upkeep (gateway.forward setup message).upkeep := by
  have accepted : Chores setup duty gateway.upkeep (gateway.accept message).upkeep := by
    unfold accept
    split
    · exact .refl
    · exact .single (.entered rfl)
  have started : Chores setup duty (gateway.accept message).upkeep _ :=
    (gateway.accept message).chores_ensureStarted setup message.answerId
  cases result : (gateway.accept message).ensureStarted setup message.answerId with
  | mk outcome later =>
    rw [result] at started
    have ready := accepted.trans started
    cases outcome with
    | ok _ =>
        rw [forward_started result]
        exact ready.trans (chores_forwardStarted setup later message own)
    | error failure =>
        simp only [forward, result]
        cases message.answerId with
        | none => exact ready.trans (chores_failQueued later failure)
        | some id =>
            have answered : Chores setup duty later.upkeep
                (later.answer id (.failed failure)).upkeep :=
              later.upkeep_answer id _ ▸ .single (.entered rfl)
            exact (ready.trans answered).trans (chores_failQueued _ failure)

theorem chores_handleClientLine (setup : Setup) (gateway : Gateway) (line : String)
    (own : ∀ message id, gateway.accepted? setup (.event (.clientLine line)) = some message →
      message.answerId = some id → duty.call? = some id) :
    Chores setup duty gateway.upkeep (gateway.handleClientLine setup line).upkeep := by
  have tells (noted : Gateway) (same : noted.upkeep = gateway.upkeep) (told : String) :
      Chores setup duty gateway.upkeep (noted.tell told).upkeep := by
    rw [upkeep_tell, same]
    exact .single (.entered rfl)
  by_cases blank : Text.isBlankText line = true
  · simp only [handleClientLine, blank, if_true]
    exact .refl
  cases parsed : ClientMessage.parse line with
  | error failure =>
      simp only [handleClientLine, blank, parsed, Bool.false_eq_true, if_false]
      exact tells (gateway.note _ _ _) rfl _
  | ok message =>
      have accepts (allowed : message.answerId.bind (gateway.idRefusal setup) = none) :
          Chores setup duty gateway.upkeep (gateway.acceptMessage setup message).upkeep := by
        unfold acceptMessage
        split
        · exact gateway.chores_generateScript setup message.id
        case isFalse other =>
          refine gateway.chores_forward setup message fun id request => own message id ?_ request
          simp [accepted?, blank, parsed, allowed, other]
      simp only [handleClientLine, blank, parsed, handleMessage, Bool.false_eq_true, if_false]
      cases request : message.answerId with
      | none => exact accepts (by simp [request])
      | some id =>
          cases refusal : gateway.idRefusal setup id with
          | none =>
              simp only [refusal]
              exact accepts (by simp [request, refusal])
          | some failure =>
              simp only [refusal]
              exact tells (gateway.note _ _ _) rfl _

/-! ## Lines and ends of the process -/

theorem upkeep_visit (gateway : Gateway) (plan : ResponsePlan) (message : ServiceMessage) :
    (gateway.visit plan message).upkeep = gateway.upkeep := by
  obtain ⟨page, journal, visited⟩ := gateway.exists_visit plan message
  rw [visited]
  rfl

theorem upkeep_classify (setup : Setup) (exchange : Exchange) (line : String) :
    (exchange.classify setup line).2.upkeep = exchange.upkeep := by
  unfold Exchange.classify
  split
  · rfl
  · dsimp only
    split
    · split
      · rfl
      · split
        · rfl
        · split <;> rfl
    · rfl

theorem chores_handleServiceOutput (setup : Setup) (gateway : Gateway) (line : String) :
    Chores setup duty gateway.upkeep (gateway.handleServiceOutput setup line).upkeep := by
  have same := upkeep_classify setup gateway.toExchange line
  unfold handleServiceOutput
  cases classified : gateway.toExchange.classify setup line with
  | mk output exchange =>
    rw [classified] at same
    have start : gateway.upkeep = exchange.upkeep := same.symm
    rw [start]
    cases output with
    | probe =>
        have answered : Chores setup duty exchange.upkeep _ :=
          exchange.chores_onProbeResponse setup
        dsimp only
        split
        · rw [drainQueue_eq]
          exact .after (chores_passOnWaiting setup _ _) answered
        · exact answered
    | matched call message raw =>
        dsimp only [complete]
        rw [upkeep_answer, upkeep_visit]
        exact .tail (.single (.disarmed (by simp))) (.entered rfl)
    | unmatched raw =>
        dsimp only
        rw [upkeep_tell]
        exact .single (.entered rfl)
    | late id => exact .refl
    | garbage failure => exact .refl

theorem chores_onServiceOutput (setup : Setup) (gateway : Gateway) (generation : Nat)
    (line : String) :
    Chores setup duty gateway.upkeep
      (gateway.onServiceOutput setup generation line).upkeep := by
  unfold onServiceOutput
  split
  · exact gateway.chores_handleServiceOutput setup line
  · exact .refl

theorem chores_failGeneration (gateway : Gateway) (generation : Nat) (detail : String) :
    Chores setup duty gateway.upkeep
      (gateway.failGeneration generation detail).upkeep := by
  have reset : Chores setup duty gateway.upkeep gateway.resetHealth.upkeep :=
    gateway.chores_resetHealth
  exact .after (chores_failCalls _ _ _) reset

theorem chores_onServiceExited (setup : Setup) (gateway : Gateway) (generation : Nat)
    (code : Option Int) :
    Chores setup duty gateway.upkeep
      (gateway.onServiceExited setup generation code).upkeep := by
  by_cases current : gateway.isCurrent generation = true
  · have running := (Host.isCurrent_iff.mp current).1
    have released : Chores setup duty gateway.upkeep _ :=
      gateway.toExchange.chores_release running
    simp only [onServiceExited, Host.onExit, current, if_true]
    by_cases clean : code = some 0
    · simp only [clean, if_true]
      exact .after (chores_failGeneration _ generation _) released
    · simp only [clean, if_false]
      exact .after (chores_failGeneration _ generation _) (released.tail (.restartArmed _))
  · rw [onServiceExited_stale setup code (Bool.not_eq_true _ ▸ current)]

theorem chores_onServiceFailed (gateway : Gateway) (generation : Nat) (detail : String) :
    Chores setup duty gateway.upkeep
      (gateway.onServiceFailed generation detail).upkeep := by
  by_cases current : gateway.isCurrent generation = true
  · have running := (Host.isCurrent_iff.mp current).1
    have released : Chores setup duty gateway.upkeep _ :=
      gateway.toExchange.chores_release running
    simp only [onServiceFailed, Host.onFailed, current, if_true]
    exact .after (chores_failGeneration _ generation _) released
  · rw [onServiceFailed_stale detail (Bool.not_eq_true _ ▸ current)]

/-! ## Timers -/

theorem chores_onProbeTimer (setup : Setup) (gateway : Gateway)
    (due : gateway.state ≠ .noProcess → duty.stamp? = some gateway.nextStamp) :
    Chores setup duty gateway.upkeep (gateway.onProbeTimer setup).upkeep := by
  have probed : Chores setup duty gateway.upkeep (gateway.toExchange.probe setup).2.upkeep := by
    by_cases idle : gateway.state = .noProcess
    · have absent : gateway.toHost.hasProcess = false := Host.hasProcess_eq_false_iff.mpr idle
      have started : Chores setup duty gateway.upkeep _ := gateway.toExchange.chores_start setup
      simp only [Exchange.probe, absent, Bool.false_eq_true, if_false]
      cases result : gateway.toHost.start setup with
      | mk outcome host =>
        rw [result] at started
        cases outcome <;> exact started
    · exact Exchange.chores_probe setup idle (due idle)
  unfold onProbeTimer
  cases result : gateway.toExchange.probe setup with
  | mk outcome exchange =>
    rw [result] at probed
    cases outcome with
    | sent id demoted => exact probed
    | startRequested => exact .after (chores_resetHealth _) probed
    | startFailed failure => exact .after (chores_failQueued _ failure) probed
    | writeFailed => exact probed

theorem chores_onStartupDeadline (setup : Setup) (gateway : Gateway) :
    Chores setup duty gateway.upkeep (gateway.onStartupDeadline setup).upkeep := by
  unfold onStartupDeadline
  cases gateway.state with
  | noProcess => exact .refl
  | ready => exact .refl
  | starting =>
      dsimp only
      split
      · exact .refl
      · split
        · exact .after (chores_failCall _ _ _) .refl
        · exact .refl

theorem chores_onRestart (setup : Setup) (gateway : Gateway) :
    Chores setup duty gateway.upkeep (gateway.onRestart setup).upkeep := by
  have started : Chores setup duty gateway.upkeep _ := gateway.toExchange.chores_start setup
  unfold onRestart
  split
  · exact .refl
  · cases result : gateway.toHost.start setup with
    | mk outcome host =>
      rw [result] at started
      cases outcome with
      | ok _ => exact .after (chores_resetHealth _) started
      | error failure => exact .after (chores_failQueued _ failure) started

theorem chores_onCallDeadline (setup : Setup) (gateway : Gateway) (id : RequestId) :
    Chores setup duty gateway.upkeep (gateway.onCallDeadline setup id).upkeep := by
  unfold onCallDeadline
  cases takes : gateway.takeExpired id with
  | none => exact .refl
  | some taken =>
      dsimp only
      rw [upkeep_answer, takeExpired_eq takes]
      exact .single (.entered rfl)

/-! ## Steps -/

/-- The stamp that a step takes, if the process is probed in it. -/
def dueStamp? (gateway : Gateway) (step : Step) : Option Nat :=
  if gateway.probes step && gateway.hasProcess then some gateway.nextStamp else none

/-- What is to be done in a step. -/
def dutyIn (setup : Setup) (gateway : Gateway) (step : Step) : Duty where
  stamp? := gateway.dueStamp? step
  call? := (gateway.accepted? setup step).bind ClientMessage.answerId
  elapsed? :=
    match step with
    | .elapse timer => some timer
    | _ => none

theorem chores_onTimer (setup : Setup) (gateway : Gateway) (timer : Timer)
    (due : timer.isProbe = true → gateway.state ≠ .noProcess →
      duty.stamp? = some gateway.nextStamp) :
    Chores setup duty gateway.upkeep (gateway.onTimer setup timer).upkeep := by
  cases timer with
  | firstProbe => exact gateway.chores_onProbeTimer setup (due rfl)
  | probeInterval => exact gateway.chores_onProbeTimer setup (due rfl)
  | startupDeadline => exact gateway.chores_onStartupDeadline setup
  | restart => exact gateway.chores_onRestart setup
  | callDeadline id => exact gateway.chores_onCallDeadline setup id
  | shutdownGrace => exact .refl

theorem chores_handleEvent (setup : Setup) (gateway : Gateway) (event : Event) :
    Chores setup (gateway.dutyIn setup (.event event)) gateway.upkeep
      (gateway.handleEvent setup event).upkeep := by
  cases event with
  | clientLine line =>
      refine gateway.chores_handleClientLine setup line fun message id accepted request => ?_
      simp [dutyIn, accepted, request]
  | clientClosed => exact .refl
  | serviceOutput generation line => exact gateway.chores_onServiceOutput setup generation line
  | serviceError generation line => exact .refl
  | serviceExited generation code => exact gateway.chores_onServiceExited setup generation code
  | serviceFailed generation detail => exact gateway.chores_onServiceFailed generation detail
  | timer timer =>
      refine gateway.chores_onTimer setup timer fun isProbe running => ?_
      simp [dutyIn, dueStamp?, probes, isProbe, Host.hasProcess_iff.mpr running]
  | shutdown => exact .refl

/-- Whatever happens in a step, the upkeep is a course of chores. -/
theorem chores_step (setup : Setup) (gateway : Gateway) (step : Step) :
    Chores setup (gateway.dutyIn setup step) gateway.upkeep (gateway.step setup step).upkeep := by
  cases step with
  | start => exact gateway.chores_startService setup
  | event event => exact gateway.chores_handleEvent setup event
  | meanwhile outside => exact .refl
  | elapse timer =>
      have armed := gateway.timers.fire_fst timer
      have disarmed := gateway.timers.fire_snd timer
      cases fires : gateway.timers.fire timer with
      | mk isArmed timers =>
        rw [fires] at armed disarmed
        cases isArmed with
        | false =>
            simp only [Gateway.step, fires]
            exact .refl
        | true =>
            simp only [Gateway.step, fires, handleEvent]
            let fired : Gateway := { gateway with timers := timers }
            have first : Chores setup (gateway.dutyIn setup (.elapse timer)) gateway.upkeep
                fired.upkeep := by
              rcases disarmed with same | same
              · obtain rfl : timers = gateway.timers := same
                exact .refl
              · obtain rfl : timers = gateway.timers.cancel timer := same
                exact .single (.disarmed fun _ => rfl)
            refine first.trans (fired.chores_onTimer setup timer fun isProbe running => ?_)
            have present : gateway.hasProcess = true := Host.hasProcess_iff.mpr running
            simp [dutyIn, dueStamp?, probes, isProbe, ← armed, present, fired, Exchange.nextStamp]

end Gateway

end BrowserRelay
