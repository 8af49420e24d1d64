import BrowserRelay.Proofs.Journal

/-!
# Gateways that differ only in the journal

Two gateways that agree in everything but the journal still do so after any turn.
-/

namespace BrowserRelay

namespace Gateway

/-- Two gateways agree in everything but the journal. -/
def Agrees (first second : Gateway) : Prop :=
  ∃ journal, first = second.withJournal journal

@[simp]
theorem toExchange_withJournal (gateway : Gateway) (journal : List LogEvent) :
    (gateway.withJournal journal).toExchange = gateway.toExchange.withJournal journal :=
  rfl

namespace Agrees

variable {setup : Setup} {first second : Gateway}

theorem refl (gateway : Gateway) : gateway.Agrees gateway :=
  ⟨gateway.outside.journal, rfl⟩

theorem isCurrent (agrees : first.Agrees second) (generation : Nat) :
    first.isCurrent generation = second.isCurrent generation := by
  obtain ⟨journal, rfl⟩ := agrees
  rfl

/-! ## Single deeds -/

theorem note (agrees : first.Agrees second) (level : LogLevel) (type : String)
    (payload payloadToo : List (String × Json)) :
    (first.note level type payload).Agrees (second.note level type payloadToo) := by
  obtain ⟨journal, rfl⟩ := agrees
  exact ⟨_, rfl⟩

/-- A note makes no difference. -/
theorem noted (gateway : Gateway) (level : LogLevel) (type : String)
    (payload : List (String × Json)) : (gateway.note level type payload).Agrees gateway :=
  ⟨_, rfl⟩

theorem enter (agrees : first.Agrees second) (deed : Deed) :
    (first.enter deed).Agrees (second.enter deed) := by
  obtain ⟨journal, rfl⟩ := agrees
  exact ⟨journal, rfl⟩

theorem resetHealth (agrees : first.Agrees second) :
    first.resetHealth.Agrees second.resetHealth := by
  obtain ⟨journal, rfl⟩ := agrees
  exact ⟨journal, rfl⟩

theorem tell (agrees : first.Agrees second) (line : String) :
    (first.tell line).Agrees (second.tell line) := by
  obtain ⟨journal, rfl⟩ := agrees
  obtain ⟨later, replied⟩ := second.outside.reply_withJournal journal line
  refine ⟨later, ?_⟩
  have same : (second.withJournal journal).outside.reply line =
      (second.outside.reply line).withJournal later := replied
  simp only [Gateway.tell, same]
  rfl

theorem answer (agrees : first.Agrees second) (id : RequestId) (answer : Answer) :
    (first.answer id answer).Agrees (second.answer id answer) := by
  obtain ⟨journal, rfl⟩ := agrees
  obtain ⟨later, replied⟩ := second.outside.reply_withJournal journal (answer.line id)
  refine ⟨later, ?_⟩
  have same : (second.withJournal journal).outside.reply (answer.line id) =
      (second.outside.reply (answer.line id)).withJournal later := replied
  simp only [Gateway.answer, same]
  rfl

theorem cancelDeadline (agrees : first.Agrees second) (id : RequestId) :
    (first.cancelDeadline id).Agrees (second.cancelDeadline id) := by
  obtain ⟨journal, rfl⟩ := agrees
  exact ⟨journal, rfl⟩

theorem schedule (agrees : first.Agrees second) (timer : Timer) (rule : TimerRule) :
    (first.withHost (first.toHost.schedule timer rule)).Agrees
      (second.withHost (second.toHost.schedule timer rule)) := by
  obtain ⟨journal, rfl⟩ := agrees
  exact ⟨journal, rfl⟩

theorem failCall (agrees : first.Agrees second) (id : RequestId) (failure : Failure) :
    (first.failCall id failure).Agrees (second.failCall id failure) :=
  (agrees.cancelDeadline id).answer id (.failed failure)

theorem failCalls (agrees : first.Agrees second) (calls : List PendingCall)
    (failure : Failure) :
    (first.failCalls calls failure).Agrees (second.failCalls calls failure) := by
  induction calls generalizing first second with
  | nil => exact agrees
  | cons call calls ih => exact ih (agrees.failCall call.id failure)

theorem failEntries (agrees : first.Agrees second) (entries : List QueuedRequest)
    (failure : Failure) :
    (first.failEntries entries failure).Agrees (second.failEntries entries failure) := by
  induction entries generalizing first second with
  | nil => exact agrees
  | cons entry entries ih =>
      obtain ⟨request, line, plan, attempts⟩ := entry
      cases request with
      | none => exact ih agrees
      | some id => exact ih (agrees.failCall id failure)

theorem failQueued (agrees : first.Agrees second) (failure : Failure) :
    (first.failQueued failure).Agrees (second.failQueued failure) := by
  have emptied : ({ first with queue := [], startupTrigger := none } : Gateway).Agrees
      { second with queue := [], startupTrigger := none } := by
    obtain ⟨journal, rfl⟩ := agrees
    exact ⟨journal, rfl⟩
  have same : first.queue = second.queue := by
    obtain ⟨journal, rfl⟩ := agrees
    rfl
  simp only [Gateway.failQueued, same]
  split
  · exact emptied
  · exact (emptied.note _ _ _ _).failEntries _ failure

/-! ## Starting the service -/

theorem startService (agrees : first.Agrees second) :
    (first.startService setup).1 = (second.startService setup).1 ∧
      (first.startService setup).2.Agrees (second.startService setup).2 := by
  obtain ⟨journal, rfl⟩ := agrees
  obtain ⟨later, started⟩ := second.toHost.start_withJournal setup journal
  simp only [Gateway.startService, toExchange_withJournal, Exchange.toHost_withJournal, started]
  cases second.toHost.start setup with
  | mk result host =>
    rcases result with failure | ready | generation
    all_goals exact ⟨rfl, later, rfl⟩

theorem ensureStarted (agrees : first.Agrees second) (trigger : Option RequestId) :
    (first.ensureStarted setup trigger).1 = (second.ensureStarted setup trigger).1 ∧
      (first.ensureStarted setup trigger).2.Agrees (second.ensureStarted setup trigger).2 := by
  have same : first.hasProcess = second.hasProcess := by
    obtain ⟨journal, rfl⟩ := agrees
    rfl
  obtain ⟨result, started⟩ :
      (first.startService setup).1 = (second.startService setup).1 ∧
        (first.startService setup).2.Agrees (second.startService setup).2 := agrees.startService
  simp only [Gateway.ensureStarted, same]
  split
  · exact ⟨rfl, agrees⟩
  · cases firstStart : first.startService setup with
    | mk outcome firstLater =>
      cases secondStart : second.startService setup with
      | mk outcomeToo secondLater =>
        rw [firstStart, secondStart] at result started
        obtain rfl : outcome = outcomeToo := result
        obtain ⟨journal, rfl⟩ : firstLater.Agrees secondLater := started
        rcases outcome with failure | ready | generation
        all_goals exact ⟨rfl, journal, rfl⟩

/-! ## Passing messages on -/

theorem settle (agrees : first.Agrees second) (outcome : Exchange.DispatchOutcome) :
    (first.settle outcome).Agrees (second.settle outcome) := by
  cases outcome with
  | queued => exact agrees
  | sent => exact agrees
  | retrying orphaned => exact agrees.resetHealth.failCalls orphaned _
  | respawnFailed failure orphaned =>
      exact (agrees.resetHealth.failCalls orphaned _).failQueued failure
  | abandoned entry failure orphaned =>
      have noted := (agrees.resetHealth.failCalls orphaned failure).note .failure
        "client.request.abandoned"
        [("id", idJson entry.id), ("attempts", .ofNat entry.attempts),
          ("error", .string failure.message)]
        [("id", idJson entry.id), ("attempts", .ofNat entry.attempts),
          ("error", .string failure.message)]
      obtain ⟨request, line, plan, attempts⟩ := entry
      cases request with
      | none => exact noted
      | some id => exact noted.failCall id failure

theorem withExchange (agrees : first.Agrees second) (exchange : Exchange)
    (journal : List LogEvent) :
    (first.withExchange (exchange.withJournal journal)).Agrees (second.withExchange exchange) := by
  obtain ⟨own, rfl⟩ := agrees
  exact ⟨journal, rfl⟩

theorem passOn (agrees : first.Agrees second) (entry : QueuedRequest) :
    (first.passOn setup entry).Agrees (second.passOn setup entry) := by
  have dispatches : ∃ later, first.toExchange.dispatch setup entry =
      ((second.toExchange.dispatch setup entry).1,
        (second.toExchange.dispatch setup entry).2.withJournal later) := by
    obtain ⟨journal, rfl⟩ := agrees
    exact second.toExchange.dispatch_withJournal setup journal entry
  obtain ⟨later, dispatched⟩ := dispatches
  simp only [Gateway.passOn, dispatched]
  exact (agrees.withExchange _ later).settle _

theorem passOnWaiting (agrees : first.Agrees second) (count : Nat) :
    (first.passOnWaiting setup count).Agrees (second.passOnWaiting setup count) := by
  induction count generalizing first second with
  | zero => exact agrees
  | succ count ih =>
      have queue : first.queue = second.queue := by
        obtain ⟨journal, rfl⟩ := agrees
        rfl
      have ready : first.isReady = second.isReady := by
        obtain ⟨journal, rfl⟩ := agrees
        rfl
      simp only [Gateway.passOnWaiting, queue, ready]
      split
      · split
        · exact agrees
        case h_2 entry rest _ =>
          have ahead : ({ first with queue := rest } : Gateway).Agrees
              { second with queue := rest } := by
            obtain ⟨journal, rfl⟩ := agrees
            exact ⟨journal, rfl⟩
          exact ih (ahead.passOn entry)
      · exact agrees

theorem drainQueue (agrees : first.Agrees second) :
    (first.drainQueue setup).Agrees (second.drainQueue setup) := by
  have queue : first.queue = second.queue := by
    obtain ⟨journal, rfl⟩ := agrees
    rfl
  rw [drainQueue_eq, drainQueue_eq, queue]
  exact agrees.passOnWaiting _

/-! ## Lines of the client -/

theorem record (agrees : first.Agrees second) (message : ClientMessage) :
    (first.record setup message).Agrees (second.record setup message) := by
  obtain ⟨journal, rfl⟩ := agrees
  cases derived : derivedAction? setup message with
  | none =>
      rw [record_none derived, record_none derived]
      exact ⟨journal, rfl⟩
  | some action =>
      obtain ⟨later, recorded⟩ := record_some (second.withJournal journal) derived
      obtain ⟨laterToo, recordedToo⟩ := record_some second derived
      rw [recorded, recordedToo]
      exact ⟨later, rfl⟩

theorem generateScript (agrees : first.Agrees second) (id : Option RequestId) :
    (first.generateScript setup id).Agrees (second.generateScript setup id) := by
  obtain ⟨journal, rfl⟩ := agrees
  obtain ⟨later, generated⟩ := (second.withJournal journal).generateScript_eq setup id
  obtain ⟨laterToo, generatedToo⟩ := second.generateScript_eq setup id
  have given : (second.withJournal journal).emission setup = second.emission setup := rfl
  obtain ⟨report, files⟩ := (second.emission setup).emit_congr setup.launch second.outside
    (second.withJournal journal).outside rfl rfl rfl
  have sameReport : (second.withJournal journal).emissionReport setup =
      second.emissionReport setup := report
  have emitted : ((second.withJournal journal).afterEmission setup later).Agrees
      (second.afterEmission setup laterToo) := by
    refine ⟨later, ?_⟩
    unfold afterEmission
    rw [sameReport, given, files]
    rfl
  rw [generated, generatedToo, sameReport]
  cases id with
  | none => exact emitted
  | some id => exact emitted.tell _

theorem accept (agrees : first.Agrees second) (message : ClientMessage) :
    (first.accept message).Agrees (second.accept message) := by
  unfold Gateway.accept
  split
  · exact agrees
  · exact agrees.enter _

theorem forwardStarted (agrees : first.Agrees second) (message : ClientMessage) :
    (Gateway.forwardStarted setup first message).Agrees
      (Gateway.forwardStarted setup second message) := by
  have recorded : (first.record setup message).Agrees (second.record setup message) :=
    agrees.record message
  unfold Gateway.forwardStarted
  cases message.answerId with
  | none => exact ((recorded.note _ _ _ _).enter _).passOn _
  | some id => exact (((recorded.schedule _ _).note _ _ _ _).enter _).passOn _

theorem forward (agrees : first.Agrees second) (message : ClientMessage) :
    (first.forward setup message).Agrees (second.forward setup message) := by
  have accepted := agrees.accept message
  obtain ⟨result, started⟩ := @ensureStarted setup _ _ accepted message.answerId
  cases firstStart : (first.accept message).ensureStarted setup message.answerId with
  | mk outcome firstLater =>
    cases secondStart : (second.accept message).ensureStarted setup message.answerId with
    | mk outcomeToo secondLater =>
      rw [firstStart, secondStart] at result started
      obtain rfl : outcome = outcomeToo := result
      cases outcome with
      | ok _ =>
          rw [forward_started firstStart, forward_started secondStart]
          exact started.forwardStarted message
      | error failure =>
          simp only [Gateway.forward, firstStart, secondStart]
          cases message.answerId with
          | none => exact started.failQueued failure
          | some id => exact (started.answer id _).failQueued failure

theorem handleClientLine (agrees : first.Agrees second) (line : String) :
    (first.handleClientLine setup line).Agrees (second.handleClientLine setup line) := by
  have accepts (message : ClientMessage) :
      (first.acceptMessage setup message).Agrees (second.acceptMessage setup message) := by
    unfold acceptMessage
    split
    · exact agrees.generateScript message.id
    · exact agrees.forward message
  have refusal (id : RequestId) : first.idRefusal setup id = second.idRefusal setup id := by
    obtain ⟨journal, rfl⟩ := agrees
    rfl
  unfold Gateway.handleClientLine
  split
  · exact agrees
  · split
    · exact (agrees.note _ _ _ _).tell _
    · unfold handleMessage
      split
      · exact accepts _
      · rw [refusal]
        split
        · exact accepts _
        · exact (agrees.note _ _ _ _).tell _

/-! ## Lines and ends of the process -/

theorem visit (agrees : first.Agrees second) (plan : ResponsePlan) (message : ServiceMessage) :
    (first.visit plan message).Agrees (second.visit plan message) := by
  cases plan with
  | relay => exact agrees
  | mergeTools => exact agrees
  | navigate url =>
      obtain ⟨journal, rfl⟩ := agrees
      simp only [Gateway.visit]
      split <;> exact ⟨_, rfl⟩

theorem handleServiceOutput (agrees : first.Agrees second) (line : String) :
    (first.handleServiceOutput setup line).Agrees (second.handleServiceOutput setup line) := by
  obtain ⟨journal, rfl⟩ := agrees
  have classified := second.toExchange.classify_withJournal setup journal line
  unfold Gateway.handleServiceOutput
  simp only [toExchange_withJournal, classified]
  cases second.toExchange.classify setup line with
  | mk output exchange =>
    have after : ((second.withJournal journal).withExchange (exchange.withJournal journal)).Agrees
        (second.withExchange exchange) := ⟨journal, rfl⟩
    cases output with
    | probe =>
        obtain ⟨later, answered⟩ := exchange.onProbeResponse_withJournal setup journal
        have same : ((second.withJournal journal).withExchange
            (exchange.withJournal journal)).toExchange.onProbeResponse setup = _ := answered
        have sameToo : (second.withExchange exchange).toExchange.onProbeResponse setup =
            exchange.onProbeResponse setup := rfl
        simp only [same, sameToo]
        have settled := after.withExchange (exchange.onProbeResponse setup).2 later
        split
        · have untriggered : ({ ((second.withJournal journal).withExchange
              (exchange.withJournal journal)).withExchange
                ((exchange.onProbeResponse setup).2.withJournal later) with
              startupTrigger := none } : Gateway).Agrees
              { (second.withExchange exchange).withExchange (exchange.onProbeResponse setup).2 with
                startupTrigger := none } := ⟨later, rfl⟩
          exact untriggered.drainQueue
        · exact settled
    | matched call message raw =>
        exact ((after.cancelDeadline call.id).visit call.plan message).answer call.id _
    | unmatched raw => exact after.tell raw
    | late id => exact after.note _ _ _ _
    | garbage failure => exact after.note _ _ _ _

theorem onServiceOutput (agrees : first.Agrees second) (generation : Nat) (line : String) :
    (first.onServiceOutput setup generation line).Agrees
      (second.onServiceOutput setup generation line) := by
  simp only [Gateway.onServiceOutput, agrees.isCurrent]
  split
  · exact agrees.handleServiceOutput line
  · exact agrees.note _ _ _ _

theorem failGeneration (agrees : first.Agrees second) (generation : Nat) (detail : String) :
    (first.failGeneration generation detail).Agrees
      (second.failGeneration generation detail) := by
  obtain ⟨journal, rfl⟩ := agrees
  refine failCalls ?_ _ _
  exact ⟨journal, rfl⟩

theorem onServiceExited (agrees : first.Agrees second) (generation : Nat) (code : Option Int) :
    (first.onServiceExited setup generation code).Agrees
      (second.onServiceExited setup generation code) := by
  obtain ⟨journal, rfl⟩ := agrees
  obtain ⟨later, exited⟩ := second.toHost.onExit_withJournal setup journal generation code
  simp only [Gateway.onServiceExited, toExchange_withJournal, Exchange.toHost_withJournal, exited]
  cases second.toHost.onExit setup generation code with
  | mk outcome host =>
    have lost : ((second.withJournal journal).withHost (host.withJournal later)).Agrees
        (second.withHost host) := ⟨later, rfl⟩
    cases outcome with
    | stale => exact ⟨journal, rfl⟩
    | stopped => exact lost.failGeneration generation _
    | restartScheduled => exact lost.failGeneration generation _

theorem onServiceFailed (agrees : first.Agrees second) (generation : Nat) (detail : String) :
    (first.onServiceFailed generation detail).Agrees
      (second.onServiceFailed generation detail) := by
  obtain ⟨journal, rfl⟩ := agrees
  obtain ⟨later, failed⟩ := second.toHost.onFailed_withJournal journal generation detail
  simp only [Gateway.onServiceFailed, toExchange_withJournal, Exchange.toHost_withJournal, failed]
  cases second.toHost.onFailed generation detail with
  | mk outcome host =>
    have lost : ((second.withJournal journal).withHost (host.withJournal later)).Agrees
        (second.withHost host) := ⟨later, rfl⟩
    cases outcome with
    | stale => exact ⟨journal, rfl⟩
    | stopped => exact lost.failGeneration generation _
    | restartScheduled => exact lost.failGeneration generation _

/-! ## Timers -/

theorem onProbeTimer (agrees : first.Agrees second) :
    (first.onProbeTimer setup).Agrees (second.onProbeTimer setup) := by
  obtain ⟨journal, rfl⟩ := agrees
  obtain ⟨later, probed⟩ := second.toExchange.probe_withJournal setup journal
  simp only [Gateway.onProbeTimer, toExchange_withJournal, probed]
  cases second.toExchange.probe setup with
  | mk outcome exchange =>
    have after : ((second.withJournal journal).withExchange (exchange.withJournal later)).Agrees
        (second.withExchange exchange) := ⟨later, rfl⟩
    cases outcome with
    | sent id demoted => exact after
    | startRequested => exact after.resetHealth
    | startFailed failure => exact after.failQueued failure
    | writeFailed => exact after

theorem onStartupDeadline (agrees : first.Agrees second) :
    (first.onStartupDeadline setup).Agrees (second.onStartupDeadline setup) := by
  obtain ⟨journal, rfl⟩ := agrees
  have state : (second.withJournal journal).state = second.state := rfl
  have trigger : (second.withJournal journal).startupTrigger = second.startupTrigger := rfl
  unfold Gateway.onStartupDeadline
  simp only [state, trigger]
  cases second.state with
  | noProcess => exact ⟨journal, rfl⟩
  | ready => exact ⟨journal, rfl⟩
  | starting =>
      cases second.startupTrigger with
      | none => exact ⟨_, rfl⟩
      | some id =>
          cases waiting : RequestQueue.contains second.queue id with
          | false =>
              have waitingToo :
                  RequestQueue.contains (second.withJournal journal).queue id = false := waiting
              simp only [Gateway.note, withHost, waiting, waitingToo, Bool.false_eq_true, if_false]
              exact ⟨_, rfl⟩
          | true =>
              have waitingToo :
                  RequestQueue.contains (second.withJournal journal).queue id = true := waiting
              simp only [Gateway.note, withHost, waiting, waitingToo, if_true]
              refine failCall ?_ id _
              exact ⟨_, rfl⟩

theorem onRestart (agrees : first.Agrees second) :
    (first.onRestart setup).Agrees (second.onRestart setup) := by
  obtain ⟨journal, rfl⟩ := agrees
  obtain ⟨later, started⟩ := second.toHost.start_withJournal setup journal
  simp only [Gateway.onRestart, toExchange_withJournal, Exchange.toHost_withJournal,
    Host.hasProcess_withJournal, started]
  split
  · exact ⟨journal, rfl⟩
  · cases second.toHost.start setup with
    | mk result host =>
      have after : ((second.withJournal journal).withHost (host.withJournal later)).Agrees
          (second.withHost host) := ⟨later, rfl⟩
      cases result with
      | ok _ => exact after.resetHealth
      | error failure => exact after.failQueued failure

theorem takeExpired (agrees : first.Agrees second) (id : RequestId) :
    Option.Rel Agrees (first.takeExpired id) (second.takeExpired id) := by
  obtain ⟨journal, rfl⟩ := agrees
  have expired := second.toExchange.expire_withJournal journal id
  unfold Gateway.takeExpired
  simp only [toExchange_withJournal, expired]
  cases second.toExchange.expire id with
  | mk call exchange =>
    cases call with
    | some call => exact .some ⟨journal, rfl⟩
    | none =>
        cases waiting : RequestQueue.contains second.queue id with
        | false =>
            have waitingToo :
                RequestQueue.contains (second.toExchange.withJournal journal).queue id = false :=
              waiting
            simp only [waitingToo, Bool.false_eq_true, if_false]
            exact .none
        | true =>
            have waitingToo :
                RequestQueue.contains (second.toExchange.withJournal journal).queue id = true :=
              waiting
            simp only [waitingToo, if_true]
            exact .some ⟨journal, rfl⟩

theorem onCallDeadline (agrees : first.Agrees second) (id : RequestId) :
    (first.onCallDeadline setup id).Agrees (second.onCallDeadline setup id) := by
  have takes := agrees.takeExpired id
  unfold Gateway.onCallDeadline
  generalize first.takeExpired id = firstTaken at takes ⊢
  generalize second.takeExpired id = secondTaken at takes ⊢
  cases takes with
  | none => exact agrees
  | some taken =>
      obtain ⟨journal, rfl⟩ := taken
      refine answer (note ?_ _ _ _ _) id _
      exact ⟨journal, rfl⟩

theorem onTimer (agrees : first.Agrees second) (timer : Timer) :
    (first.onTimer setup timer).Agrees (second.onTimer setup timer) := by
  cases timer with
  | firstProbe => exact agrees.onProbeTimer
  | probeInterval => exact agrees.onProbeTimer
  | startupDeadline => exact agrees.onStartupDeadline
  | restart => exact agrees.onRestart
  | callDeadline id => exact agrees.onCallDeadline id
  | shutdownGrace => exact agrees

/-! ## Turns -/

theorem handleEvent (agrees : first.Agrees second) (event : Event) :
    (first.handleEvent setup event).Agrees (second.handleEvent setup event) := by
  unfold Gateway.handleEvent
  cases event with
  | clientLine line => exact agrees.handleClientLine line
  | clientClosed => exact agrees
  | serviceOutput generation line => exact agrees.onServiceOutput generation line
  | serviceError generation line => exact agrees.note _ _ _ _
  | serviceExited generation code => exact agrees.onServiceExited generation code
  | serviceFailed generation detail => exact agrees.onServiceFailed generation detail
  | timer timer => exact agrees.onTimer timer
  | shutdown => exact agrees

theorem step (agrees : first.Agrees second) (step : Step) :
    (first.step setup step).Agrees (second.step setup step) := by
  cases step with
  | start => exact agrees.startService.2
  | event event => exact agrees.handleEvent event
  | elapse timer =>
      have timers : first.timers = second.timers := by
        obtain ⟨journal, rfl⟩ := agrees
        rfl
      simp only [Gateway.step, timers]
      split
      · exact agrees
      case h_2 later _ =>
        have fired : ({ first with timers := later } : Gateway).Agrees
            { second with timers := later } := by
          obtain ⟨journal, rfl⟩ := agrees
          exact ⟨journal, rfl⟩
        exact fired.onTimer timer
  | meanwhile outside =>
      obtain ⟨journal, rfl⟩ := agrees
      exact ⟨journal, rfl⟩

theorem terminate (agrees : first.Agrees second) : first.terminate.Agrees second.terminate := by
  obtain ⟨journal, noted⟩ := agrees.note .info "gateway.terminate"
    [("pending", .ofNat first.pending.length), ("queued", .ofNat first.queue.length)]
    [("pending", .ofNat second.pending.length), ("queued", .ofNat second.queue.length)]
  obtain ⟨later, terminated⟩ := (second.note .info "gateway.terminate"
    [("pending", .ofNat second.pending.length),
      ("queued", .ofNat second.queue.length)]).toHost.terminate_withJournal journal
  refine ⟨later, ?_⟩
  simp only [Gateway.terminate, noted, toExchange_withJournal, Exchange.toHost_withJournal,
    terminated]
  rfl

theorem turn (agrees : first.Agrees second) (turn : Turn) :
    (first.turn setup turn).Agrees (second.turn setup turn) := by
  cases turn with
  | step step => exact agrees.step step
  | terminate => exact agrees.terminate

end Agrees
end Gateway

end BrowserRelay
