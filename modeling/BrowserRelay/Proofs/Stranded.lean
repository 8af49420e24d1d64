import BrowserRelay.Proofs.Order
import Mathlib.Data.List.Induction

/-!
# Who serves those who wait

Messages that wait are served by the process, or by the one that is to be started again.  Four
kinds of steps leave them with neither: the process exits cleanly, the process fails, a message
is given up while those who wait are passed on, and the service that is asked for cannot be
started.  In every run that has no such step, those who wait are served all the time.
-/

namespace BrowserRelay

/-! ## Processes and restarts -/

namespace Traffic

/-- Nobody waits, or there is a process, or one is to be started again. -/
def IsServed (traffic : Traffic) : Prop :=
  traffic.queue = [] ∨ traffic.state ≠ .noProcess ∨ traffic.armed .restart ≠ none

/-- While there is a process, none is to be started again. -/
def IsCalm (traffic : Traffic) : Prop :=
  traffic.state ≠ .noProcess → traffic.armed .restart = none

theorem isServed_of_running {traffic : Traffic} (running : traffic.state ≠ .noProcess) :
    traffic.IsServed :=
  .inr (.inl running)

theorem IsServed.disarm {traffic : Traffic} (served : traffic.IsServed) {timer : Timer}
    (other : timer ≠ .restart) : (traffic.disarm timer).IsServed := by
  rcases served with nobody | running | called
  · exact .inl nobody
  · exact .inr (.inl running)
  · refine .inr (.inr ?_)
    rwa [traffic.armed_disarm_of_ne other.symm]

/-- Without a process and without the prospect of one, nobody may wait. -/
theorem isServed_iff_of_gone {traffic : Traffic} (gone : traffic.state = .noProcess)
    (uncalled : traffic.armed .restart = none) : traffic.IsServed ↔ traffic.queue = [] := by
  simp [IsServed, gone, uncalled]

theorem armed_restart_failAll (traffic : Traffic) (ids : List RequestId) (failure : Failure) :
    (traffic.failAll ids failure).armed .restart = traffic.armed .restart := by
  simp [failAll]

theorem armed_restart_failPresent (traffic : Traffic) (failure : Failure) :
    (traffic.failPresent failure).armed .restart = traffic.armed .restart :=
  traffic.forget.armed_restart_failAll traffic.presentIds failure

theorem armed_restart_release (traffic : Traffic) :
    traffic.release.armed .restart = traffic.armed .restart := by
  simp [release, disarm]

end Traffic

theorem Move.isCalm {setup : Setup} {before after : Traffic} (move : Move setup before after)
    (calm : before.IsCalm) : after.IsCalm := by
  intro running
  cases move with
  | launched idle => simp [Traffic.launch, Traffic.arm, Traffic.disarm]
  | launchFailed idle => simp [Traffic.failLaunch, Traffic.disarm]
  | probed => exact calm running
  | probeRefused present =>
      exact (before.armed_disarm_of_ne (by simp)).trans (calm present)
  | demoted ready => exact calm (by simp [ready])
  | wrote => exact calm running
  | abandoned failure ready => exact absurd rfl running
  | retried => exact absurd rfl running
  | ended => exact absurd rfl running
  | queueFailed => exact (Traffic.armed_restart_failAll _ _ _).trans (calm running)
  | expired => exact calm running
  | withdrawn => exact calm running
  | @startedLate id =>
      have kept : (before.disarm (.callDeadline id)).armed .restart = before.armed .restart :=
        before.armed_disarm_of_ne (by simp)
      exact kept.trans (calm running)
  | told => exact calm running
  | elapsed timer =>
      by_cases restart : timer = .restart
      · subst restart
        simp [Traffic.disarm]
      · exact (before.armed_disarm_of_ne (Ne.symm restart)).trans (calm running)

theorem Moves.isCalm {setup : Setup} {before after : Traffic} (moves : Moves setup before after)
    (calm : before.IsCalm) : after.IsCalm := by
  induction moves with
  | refl => exact calm
  | tail _ move ih => exact move.isCalm ih

theorem Passage.isCalm {setup : Setup} {before after : Traffic}
    {arrival : Option Arrival} (passage : Passage setup before arrival after)
    (calm : before.IsCalm) : after.IsCalm := by
  cases passage with
  | quiet moves => exact moves.isCalm calm
  | woken starting moves =>
      refine moves.isCalm fun _ => ?_
      have none := calm (by simp [starting])
      simpa [Traffic.wake, Traffic.disarm, Traffic.arm] using none
  | turnedAway message failure free moves => exact moves.isCalm calm
  | takenIn message first kept free moves =>
      refine moves.isCalm fun running => ?_
      have none := first.isCalm calm running
      cases request : message.answerId <;>
        simpa [Traffic.takeIn, Traffic.armDeadline, Traffic.enter, Traffic.accept,
          ClientMessage.entry, request] using none
  | responded response found =>
      intro running
      have kept : (before.disarm (.callDeadline response.id)).armed .restart =
          before.armed .restart := before.armed_disarm_of_ne (by simp)
      exact kept.trans (calm running)
  | recalled response missing timedOut => exact calm
  | unmatched response missing unknown => exact calm

namespace Gateway

variable {setup : Setup} {gateway : Gateway}

theorem isCalm_after (setup : Setup) (outside : Outside) (steps : List Step) :
    (after setup outside steps).traffic.IsCalm := by
  have start : (initial setup outside).traffic.IsCalm := by
    rw [traffic_initial]
    exact fun _ => rfl
  have keeps (before : Traffic) (arrival : Option Arrival) (after : Traffic)
      (_ : before.IsSettled) (passage : Passage setup before arrival after)
      (calm : before.IsCalm) : after.IsCalm :=
    passage.isCalm calm
  exact (traffic_induction keeps (settled_initial setup outside) start steps).1

/-! ## Steps that leave somebody behind -/

/-- If messages wait, there is a process, or one is to be started again. -/
def servesQueue (gateway : Gateway) : Prop :=
  gateway.queue ≠ [] → gateway.hasProcess = true ∨ gateway.timers.isArmed .restart = true

theorem servesQueue_iff : gateway.servesQueue ↔ gateway.traffic.IsServed := by
  have present : gateway.hasProcess = true ↔ gateway.traffic.state ≠ .noProcess :=
    Host.hasProcess_iff
  have armed : gateway.timers.isArmed .restart = true ↔ gateway.traffic.armed .restart ≠ none := by
    rw [TimerTable.isArmed_eq, Option.isSome_iff_ne_none]
    rfl
  rw [servesQueue, present, armed, Traffic.IsServed, ← or_iff_not_imp_left]
  rfl

/-- When waiting messages are passed on, the first write that fails is that of a message which
is given up for it, and others wait behind it. -/
def leavesBehind (setup : Setup) : Outcomes → List QueuedRequest → Prop
  | _, [] => False
  | outcomes, entry :: rest =>
      match outcomes.next with
      | none => leavesBehind setup outcomes.later rest
      | some _ => setup.settings.service.maxWriteRetries < entry.attempts + 1 ∧ rest ≠ []

/-- The steps that leave those who wait without a process and without the prospect of one. -/
inductive Strands (setup : Setup) (gateway : Gateway) : Step → Prop
  /-- The process exits cleanly, so it is not started again. -/
  | exited {generation : Nat} (current : gateway.isCurrent generation = true)
      (waiting : gateway.queue ≠ []) :
      Strands setup gateway (.event (.serviceExited generation (some 0)))
  /-- The process fails, so it is not started again. -/
  | failed {generation : Nat} {detail : String} (current : gateway.isCurrent generation = true)
      (waiting : gateway.queue ≠ []) :
      Strands setup gateway (.event (.serviceFailed generation detail))
  /-- The process has become ready, but a message that waits is given up, and with it the
  process. -/
  | abandoned {generation : Nat} {line : String} {id : RequestId} {message : ServiceMessage}
      (current : gateway.isCurrent generation = true)
      (isResponse : ServiceMessage.response? line = some (id, message))
      (isProbe : Exchange.isProbeId setup id = true) (starting : gateway.state = .starting)
      (leaves : leavesBehind setup gateway.outside.writeOutcomes gateway.queue) :
      Strands setup gateway (.event (.serviceOutput generation line))
  /-- The service is asked for and cannot be started, which calls off the restart. -/
  | unstarted {failure : Failure} (idle : gateway.state = .noProcess)
      (waiting : gateway.queue ≠ [])
      (failing : gateway.outside.launchOutcomes.next = some failure) :
      Strands setup gateway .start

/-! ## Passing on those who wait -/

/-- Passing on those who wait leaves somebody behind only if it gives up a message with others
behind it. -/
theorem isServed_passOnWaiting_iff (setup : Setup) (count : Nat) (gateway : Gateway)
    (ready : gateway.state = .ready) (calm : gateway.traffic.armed .restart = none)
    (enough : gateway.queue.length ≤ count) :
    (gateway.passOnWaiting setup count).traffic.IsServed ↔
      ¬leavesBehind setup gateway.outside.writeOutcomes gateway.queue := by
  induction count generalizing gateway with
  | zero =>
      have nobody : gateway.queue = [] := List.eq_nil_of_length_eq_zero (Nat.le_zero.mp enough)
      rw [nobody]
      exact iff_of_true (.inl nobody) id
  | succ count ih =>
      cases waiting : gateway.queue with
      | nil =>
          rw [passOnWaiting_nil setup _ waiting]
          exact iff_of_true (.inl waiting) id
      | cons entry rest =>
          rw [passOnWaiting_cons setup _ ready waiting]
          let ahead : Gateway := { gateway with queue := rest }
          cases outcome : gateway.outside.writeOutcomes.next with
          | none =>
              obtain ⟨passed, later⟩ := passOn_written setup ahead entry ready outcome
              have place : (ahead.passOn setup entry).queue = rest := congrArg Traffic.queue passed
              have next := ih (ahead.passOn setup entry)
                ((congrArg Traffic.state passed).trans ready)
                (by rw [passed]; exact calm) (by rw [place]; simpa [waiting] using enough)
              rw [next, place, later]
              simp only [leavesBehind, outcome]
              rfl
          | some failure =>
              simp only [leavesBehind, outcome]
              rcases traffic_passOn_refused setup ahead entry ready outcome with
                ⟨tooOften, passed⟩ | ⟨again, passed | ⟨respawn, passed⟩⟩
              · -- The message is given up: the process is gone, and those behind it stay.
                have gone : (ahead.passOn setup entry).state = .noProcess :=
                  congrArg Traffic.state passed
                have left : (ahead.passOn setup entry).traffic.queue = rest :=
                  congrArg Traffic.queue passed
                have uncalled : (ahead.passOn setup entry).traffic.armed .restart = none := by
                  rw [passed, Traffic.armed_restart_failAll, Traffic.armed_restart_failPresent,
                    Traffic.armed_restart_release]
                  exact calm
                rw [passOnWaiting_unready setup _ (gone ▸ by simp),
                  Traffic.isServed_iff_of_gone gone uncalled, left]
                simp [tooOften]
              · have starting : (ahead.passOn setup entry).state = .starting :=
                  congrArg Traffic.state passed
                rw [passOnWaiting_unready setup _ (starting ▸ by simp)]
                have running : (ahead.passOn setup entry).traffic.state ≠ .noProcess := fun gone =>
                  absurd (starting.symm.trans gone) (by simp)
                exact iff_of_true (Traffic.isServed_of_running running) fun gaveUp =>
                  absurd gaveUp.1 (Nat.not_lt.mpr again)
              · have gone : (ahead.passOn setup entry).state = .noProcess :=
                  congrArg Traffic.state passed
                have nobody : (ahead.passOn setup entry).queue = [] := congrArg Traffic.queue passed
                rw [passOnWaiting_unready setup _ (gone ▸ by simp)]
                exact iff_of_true (.inl nobody) fun gaveUp => absurd gaveUp.1 (Nat.not_lt.mpr again)

/-! ## Steps that serve those who wait -/

theorem isServed_launch (setup : Setup) (traffic : Traffic) : (traffic.launch setup).IsServed :=
  .inr (.inl (by simp [Traffic.launch]))

theorem isServed_passOn (setup : Setup) (gateway : Gateway) (entry : QueuedRequest)
    (running : gateway.state ≠ .noProcess) (settled : gateway.traffic.IsSettled) :
    (gateway.passOn setup entry).traffic.IsServed := by
  by_cases ready : gateway.state = .ready
  · cases outcome : gateway.outside.writeOutcomes.next with
    | none =>
        rw [(passOn_written setup gateway entry ready outcome).1]
        exact Traffic.isServed_of_running running
    | some failure =>
        rcases traffic_passOn_refused setup gateway entry ready outcome with
          ⟨tooOften, passed⟩ | ⟨again, passed | ⟨respawn, passed⟩⟩
        · rw [passed]
          exact .inl (settled ready)
        · rw [passed]
          exact isServed_launch setup _
        · rw [passed]
          exact .inl rfl
  · rw [traffic_passOn_waiting setup gateway entry ready]
    exact Traffic.isServed_of_running running

theorem isServed_forward (setup : Setup) (gateway : Gateway) (message : ClientMessage)
    (settled : gateway.traffic.IsSettled) :
    (gateway.forward setup message).traffic.IsServed := by
  rcases ensureStarted_cases setup (gateway.accept message) message.answerId with
    ⟨started, result, running, same⟩ | ⟨failure, unstarted, result, idle, same⟩
  · obtain ⟨taken, passed, -, takenTraffic⟩ := forwardStarted_eq setup started message
    have takenState : taken.state = started.state := congrArg Traffic.state takenTraffic
    have takenQueue : taken.queue = started.queue := congrArg Traffic.queue takenTraffic
    rw [forward_started result, passed]
    refine isServed_passOn setup taken message.entry (takenState ▸ running) fun ready => ?_
    have startedReady : started.traffic.state = .ready := takenState.symm.trans ready
    rcases same with same | ⟨-, same⟩
    · have kept := same.trans (gateway.traffic_accept message)
      have isReady : gateway.state = .ready := (congrArg Traffic.state kept).symm.trans startedReady
      exact (takenQueue.trans (congrArg Traffic.queue kept)).trans (settled isReady)
    · have starting : started.traffic.state = .starting := congrArg Traffic.state same
      exact absurd (starting.symm.trans startedReady) (by simp)
  · rw [traffic_forward_unstarted result same]
    exact .inl rfl

theorem isServed_onProbeTimer (setup : Setup) (gateway : Gateway) :
    (gateway.onProbeTimer setup).traffic.IsServed := by
  by_cases idle : gateway.state = .noProcess
  · rcases traffic_onProbeTimer_idle setup idle with launched | ⟨failure, failed⟩
    · rw [launched]
      exact isServed_launch setup _
    · rw [failed]
      exact .inl rfl
  · rw [traffic_onProbeTimer_running setup idle]
    exact Traffic.isServed_of_running (Exchange.moves_probe setup idle).2

theorem isServed_onRestart (setup : Setup) (gateway : Gateway) :
    (gateway.onRestart setup).traffic.IsServed := by
  by_cases idle : gateway.state = .noProcess
  · rcases traffic_onRestart_idle setup idle with launched | ⟨failure, failed⟩
    · rw [launched]
      exact isServed_launch setup _
    · rw [failed]
      exact .inl rfl
  · rw [onRestart_running setup idle]
    exact Traffic.isServed_of_running idle

theorem isServed_onStartupDeadline (setup : Setup) (served : gateway.traffic.IsServed) :
    (gateway.onStartupDeadline setup).traffic.IsServed := by
  rcases gateway.traffic_onStartupDeadline setup with same | ⟨id, failure, starting, -, late⟩
  · rwa [same]
  · rw [late]
    exact Traffic.isServed_of_running fun gone => absurd (starting.symm.trans gone) (by simp)

theorem isServed_withdraw {traffic : Traffic} (id : RequestId) (served : traffic.IsServed) :
    (traffic.withdraw id).IsServed := by
  rcases served with nobody | running | called
  · exact .inl (by simp [Traffic.withdraw, nobody, RequestQueue.remove])
  · exact .inr (.inl running)
  · exact .inr (.inr called)

theorem isServed_onCallDeadline (setup : Setup) (id : RequestId)
    (served : gateway.traffic.IsServed) :
    (gateway.onCallDeadline setup id).traffic.IsServed := by
  rcases gateway.traffic_onCallDeadline setup id with
    ⟨call, -, late⟩ | ⟨-, ⟨-, late⟩ | ⟨-, same⟩⟩
  · rw [late]
    exact served
  · rw [late]
    exact isServed_withdraw id served
  · rwa [same]

theorem isServed_onTimer (setup : Setup) (timer : Timer)
    (served : timer ≠ .restart → gateway.traffic.IsServed) :
    (gateway.onTimer setup timer).traffic.IsServed := by
  cases timer with
  | firstProbe => exact gateway.isServed_onProbeTimer setup
  | probeInterval => exact gateway.isServed_onProbeTimer setup
  | startupDeadline => exact isServed_onStartupDeadline setup (served (by simp))
  | restart => exact gateway.isServed_onRestart setup
  | callDeadline id => exact isServed_onCallDeadline setup id (served (by simp))
  | shutdownGrace => exact served (by simp)

theorem isServed_elapse (setup : Setup) (timer : Timer) (served : gateway.traffic.IsServed) :
    (gateway.step setup (.elapse timer)).traffic.IsServed := by
  rcases gateway.step_elapse_cases setup timer with
    ⟨-, same⟩ | ⟨period, -, same⟩ | ⟨delay, -, same⟩
  · rw [same]
    exact served
  · rw [same]
    exact isServed_onTimer setup timer fun _ => served
  · rw [same]
    refine isServed_onTimer setup timer fun other => ?_
    rw [traffic_cancelled]
    exact served.disarm other

/-! ## Exactly these steps -/

theorem isServed_onServiceExited_iff (setup : Setup) {generation : Nat} (code : Option Int)
    (calm : gateway.traffic.IsCalm) (current : gateway.isCurrent generation = true) :
    (gateway.onServiceExited setup generation code).traffic.IsServed ↔
      ¬(code = some 0 ∧ gateway.queue ≠ []) := by
  have running := (Host.isCurrent_iff.mp current).1
  have exited := traffic_onServiceExited setup code current
  have left : (gateway.onServiceExited setup generation code).traffic.queue = gateway.queue :=
    congrArg Traffic.queue exited
  have gone : (gateway.onServiceExited setup generation code).traffic.state = .noProcess :=
    congrArg Traffic.state exited
  have armed : (gateway.onServiceExited setup generation code).traffic.armed .restart =
      (gateway.traffic.release.armRestart (Exchange.restartDelay setup code)).armed .restart := by
    rw [exited, Traffic.armed_restart_failPresent]
  by_cases clean : code = some 0
  · have uncalled : (gateway.onServiceExited setup generation code).traffic.armed .restart =
        none := by
      rw [armed]
      simp only [Exchange.restartDelay, clean, if_true, Traffic.armRestart]
      rw [Traffic.armed_restart_release]
      exact calm running
    rw [Traffic.isServed_iff_of_gone gone uncalled, left]
    simp [clean]
  · have called : (gateway.onServiceExited setup generation code).traffic.armed .restart ≠
        none := by
      rw [armed]
      simp [Exchange.restartDelay, clean, Traffic.armRestart]
    exact iff_of_true (.inr (.inr called)) fun stopped => clean stopped.1

theorem isServed_onServiceFailed_iff {generation : Nat} (detail : String)
    (calm : gateway.traffic.IsCalm) (current : gateway.isCurrent generation = true) :
    (gateway.onServiceFailed generation detail).traffic.IsServed ↔ gateway.queue = [] := by
  have running := (Host.isCurrent_iff.mp current).1
  have failed := traffic_onServiceFailed detail current
  have left : (gateway.onServiceFailed generation detail).traffic.queue = gateway.queue :=
    congrArg Traffic.queue failed
  have gone : (gateway.onServiceFailed generation detail).traffic.state = .noProcess :=
    congrArg Traffic.state failed
  have uncalled : (gateway.onServiceFailed generation detail).traffic.armed .restart = none := by
    rw [failed, Traffic.armed_restart_failPresent, Traffic.armed_restart_release]
    exact calm running
  rw [Traffic.isServed_iff_of_gone gone uncalled, left]

theorem isServed_startService_iff (setup : Setup) (served : gateway.traffic.IsServed) :
    (gateway.startService setup).2.traffic.IsServed ↔ ¬Strands setup gateway .start := by
  by_cases idle : gateway.state = .noProcess
  · cases outcome : gateway.outside.launchOutcomes.next with
    | none =>
        obtain ⟨started, result, same⟩ := startService_launched setup idle outcome
        rw [result, same]
        refine iff_of_true (isServed_launch setup _) fun strands => ?_
        cases strands with
        | unstarted _ _ failing => simp [outcome] at failing
    | some failure =>
        obtain ⟨unstarted, result, same⟩ := startService_failed setup idle outcome
        have uncalled : gateway.traffic.failLaunch.armed .restart = none := by
          simp [Traffic.failLaunch, Traffic.disarm]
        rw [result, same, Traffic.isServed_iff_of_gone idle uncalled]
        constructor
        · intro nobody strands
          cases strands with
          | unstarted _ waiting _ => exact waiting nobody
        · intro spared
          by_contra waiting
          exact spared (.unstarted idle waiting outcome)
  · obtain ⟨ready, result⟩ := startService_running setup idle
    rw [result]
    refine iff_of_true served fun strands => ?_
    cases strands with
    | unstarted none _ _ => exact idle none

/-- When the service has become ready, those who wait are served unless one of them is given up
with others behind it. -/
theorem isServed_woken_iff {line : String} {id : RequestId} {message : ServiceMessage}
    (isResponse : ServiceMessage.response? line = some (id, message))
    (isProbe : Exchange.isProbeId setup id = true) (starting : gateway.state = .starting)
    (calm : gateway.traffic.IsCalm) :
    (gateway.handleServiceOutput setup line).traffic.IsServed ↔
      ¬leavesBehind setup gateway.outside.writeOutcomes gateway.queue := by
  obtain ⟨later, woken, outcomes, drained⟩ := handleServiceOutput_woken isResponse isProbe starting
  have ready : later.state = .ready := congrArg Traffic.state woken
  have place : later.queue = gateway.queue := congrArg Traffic.queue woken
  have uncalled : later.traffic.armed .restart = none := by
    have none := calm (show gateway.state ≠ .noProcess by simp [starting])
    rw [woken]
    simpa [Traffic.wake, Traffic.disarm, Traffic.arm] using none
  rw [drained, drainQueue_eq,
    isServed_passOnWaiting_iff setup _ later ready uncalled (Nat.le_refl _),
    outcomes, place]

/-- A line of the process leaves those who wait with nobody only if it makes the service ready
and one of them is given up with others behind it. -/
theorem isServed_onServiceOutput_iff (setup : Setup) (generation : Nat) (line : String)
    (calm : gateway.traffic.IsCalm) (served : gateway.traffic.IsServed) :
    (gateway.onServiceOutput setup generation line).traffic.IsServed ↔
      ¬Strands setup gateway (.event (.serviceOutput generation line)) := by
  by_cases current : gateway.isCurrent generation = true
  case neg =>
    simp only [onServiceOutput, current]
    refine iff_of_true served fun strands => ?_
    cases strands with
    | abandoned isCurrent => exact current isCurrent
  simp only [onServiceOutput, current, if_true]
  by_cases wakes : ∃ id message, ServiceMessage.response? line = some (id, message) ∧
      Exchange.isProbeId setup id = true ∧ gateway.state = .starting
  · obtain ⟨id, message, isResponse, isProbe, starting⟩ := wakes
    rw [isServed_woken_iff isResponse isProbe starting calm]
    refine not_congr ⟨.abandoned current isResponse isProbe starting, fun strands => ?_⟩
    cases strands with
    | abandoned _ _ _ _ leaves => exact leaves
  · refine iff_of_true ?_ fun strands => ?_
    · rcases traffic_handleServiceOutput_cases setup gateway line
          (fun id message isResponse isProbe starting =>
            wakes ⟨id, message, isResponse, isProbe, starting⟩) with
        same | ⟨raw, same⟩ | ⟨id, call, text, -, same⟩ | ⟨id, same⟩
      all_goals rw [same]
      · exact served
      · exact served
      · have resolved : (gateway.traffic.resolve id).IsServed := served
        have disarmed : ((gateway.traffic.resolve id).disarm (.callDeadline id)).IsServed :=
          resolved.disarm (by simp)
        exact disarmed
      · exact served
    · cases strands with
      | abandoned _ isResponse isProbe starting =>
          exact wakes ⟨_, _, isResponse, isProbe, starting⟩

/-- A step leaves those who wait with nobody exactly if it is one of the four kinds. -/
theorem isServed_step_iff (setup : Setup) (step : Step) (settled : gateway.traffic.IsSettled)
    (calm : gateway.traffic.IsCalm) (served : gateway.traffic.IsServed) :
    (gateway.step setup step).traffic.IsServed ↔ ¬Strands setup gateway step := by
  cases step with
  | start => exact isServed_startService_iff setup served
  | elapse timer =>
      exact iff_of_true (isServed_elapse setup timer served) (by rintro ⟨⟩)
  | meanwhile outside => exact iff_of_true served (by rintro ⟨⟩)
  | event event =>
      cases event with
      | clientLine line =>
          refine iff_of_true ?_ (by rintro ⟨⟩)
          rcases gateway.handleClientLine_cases setup line with
            ⟨message, accepted, forwarded, free⟩ | ⟨nothing, same | ⟨told, same⟩⟩
          · simp only [Gateway.step, handleEvent, forwarded]
            exact isServed_forward setup gateway message settled
          · simp only [Gateway.step, handleEvent, same]
            exact served
          · simp only [Gateway.step, handleEvent, same]
            exact served
      | clientClosed => exact iff_of_true served (by rintro ⟨⟩)
      | serviceOutput generation line =>
          exact isServed_onServiceOutput_iff setup generation line calm served
      | serviceError generation line => exact iff_of_true served (by rintro ⟨⟩)
      | serviceExited generation code =>
          by_cases current : gateway.isCurrent generation = true
          · refine (isServed_onServiceExited_iff setup code calm current).trans (not_congr ?_)
            constructor
            · rintro ⟨rfl, waiting⟩
              exact .exited current waiting
            · intro strands
              cases strands with
              | exited _ waiting => exact ⟨rfl, waiting⟩
          · have stale := onServiceExited_stale setup code (Bool.not_eq_true _ ▸ current)
            simp only [Gateway.step, handleEvent, stale]
            refine iff_of_true served fun strands => ?_
            cases strands with
            | exited isCurrent => exact current isCurrent
      | serviceFailed generation detail =>
          by_cases current : gateway.isCurrent generation = true
          · refine (isServed_onServiceFailed_iff detail calm current).trans ?_
            constructor
            · intro nobody strands
              cases strands with
              | failed _ waiting => exact waiting nobody
            · intro spared
              by_contra waiting
              exact spared (.failed current waiting)
          · have stale := onServiceFailed_stale detail (Bool.not_eq_true _ ▸ current)
            simp only [Gateway.step, handleEvent, stale]
            refine iff_of_true served fun strands => ?_
            cases strands with
            | failed isCurrent => exact current isCurrent
      | timer timer =>
          refine iff_of_true ?_ (by rintro ⟨⟩)
          exact isServed_onTimer setup timer fun _ => served
      | shutdown => exact iff_of_true served (by rintro ⟨⟩)

theorem isServed_initial (setup : Setup) (outside : Outside) :
    (initial setup outside).traffic.IsServed := by
  rw [traffic_initial]
  exact .inl rfl

/-- Those who wait are served throughout a run, by a process or by the one that is to be started
again, exactly if none of its steps leaves them behind: a clean exit or a failure of the process
while messages wait, a message that is given up with others behind it, and a start of the
service that fails while messages wait. -/
theorem queue_is_served_iff_no_step_strands (setup : Setup) (outside : Outside)
    (steps : List Step) :
    (∀ first second, steps = first ++ second → (after setup outside first).servesQueue) ↔
      ∀ first step second, steps = first ++ step :: second →
        ¬Strands setup (after setup outside first) step := by
  have exact_step (first : List Step) (step : Step)
      (served : (after setup outside first).traffic.IsServed) :
      (after setup outside (first ++ [step])).traffic.IsServed ↔
        ¬Strands setup (after setup outside first) step := by
    rw [after_concat]
    exact isServed_step_iff setup step (settled_after setup outside first)
      (isCalm_after setup outside first) served
  simp only [servesQueue_iff]
  constructor
  · rintro served first step second rfl
    refine (exact_step first step (served first _ rfl)).mp (served (first ++ [step]) second ?_)
    simp
  · intro spared first
    induction first using List.reverseRecOn with
    | nil => exact fun _ _ => isServed_initial setup outside
    | append_singleton first step ih =>
        intro second split
        rw [List.append_assoc] at split
        exact (exact_step first step (ih ([step] ++ second) split)).mpr
          (spared first step second split)

end Gateway

end BrowserRelay
