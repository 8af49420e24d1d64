import BrowserRelay.Proofs.Answers
import BrowserRelay.Proofs.CatchingUp
import BrowserRelay.Proofs.History
import BrowserRelay.Proofs.LeftOver
import BrowserRelay.Proofs.Lifecycle
import BrowserRelay.Proofs.Readiness
import BrowserRelay.Proofs.Replies
import Mathlib.Data.List.Infix

/-!
# The request that started the process

A request for which a process was started is remembered for as long as it waits for that process
to be ready.  When the start takes too long, it is the only one that is told so, whatever became
of the process in the meantime and whoever else waits.
-/

namespace BrowserRelay

namespace Exchange

/-- Passing a message on takes nobody else out of the queue. -/
theorem queue_subset_dispatch (setup : Setup) (exchange : Exchange) (entry : QueuedRequest) :
    exchange.queue ⊆ (exchange.dispatch setup entry).2.queue := by
  by_cases ready : exchange.state = .ready
  · cases outcome : exchange.outside.writeOutcomes.next with
    | none =>
        obtain ⟨later, dispatched, same, -⟩ := dispatch_written setup entry ready outcome
        have kept : later.queue = exchange.queue := congrArg Traffic.queue same
        rw [dispatched, kept]
        exact List.Subset.refl _
    | some failure =>
        obtain ⟨refused, dispatched, same⟩ := dispatch_refused setup entry ready outcome
        have kept : refused.queue = exchange.queue := congrArg Traffic.queue same
        rw [dispatched, ← kept]
        rcases refused.afterFailedWrite_cases setup entry failure with
          ⟨later, result, -, lost⟩ | ⟨-, ⟨later, result, lost⟩ | ⟨respawn, later, result, lost⟩⟩
        · have left : later.queue = refused.queue := congrArg Traffic.queue lost
          rw [result, left]
          exact List.Subset.refl _
        · have left : later.queue = _ :: refused.queue := congrArg Traffic.queue lost
          rw [result, left]
          exact List.subset_cons_self _ _
        · have left : later.queue = _ :: refused.queue := congrArg Traffic.queue lost
          rw [result, left]
          exact List.subset_cons_self _ _
  · rw [dispatch_waiting entry ready]
    exact List.subset_append_left _ _

end Exchange

namespace Gateway

variable {setup : Setup} {gateway : Gateway}

/-! ## What is remembered -/

/-- The request that is remembered later, if any, was remembered before.  It still waits if it
did, for a service that has not become ready. -/
def KeepsTrigger (before later : Gateway) : Prop :=
  ∀ id, later.startupTrigger = some id →
    before.startupTrigger = some id ∧
      (∀ entry ∈ before.queue, entry.id = some id → entry ∈ later.queue) ∧
      (later.state = .ready → before.state = .ready)

namespace KeepsTrigger

variable {before middle later : Gateway}

theorem of_subset (trigger : later.startupTrigger = before.startupTrigger)
    (queue : before.queue ⊆ later.queue) (state : later.state = .ready → before.state = .ready) :
    before.KeepsTrigger later := fun _ remembered =>
  ⟨trigger ▸ remembered, fun _ waits _ => queue waits, state⟩

theorem of_same (trigger : later.startupTrigger = before.startupTrigger)
    (queue : later.queue = before.queue) (state : later.state = before.state) :
    before.KeepsTrigger later :=
  .of_subset trigger (queue ▸ List.Subset.refl _) fun ready => state ▸ ready

theorem of_unready (trigger : later.startupTrigger = before.startupTrigger)
    (queue : later.queue = before.queue) (unready : later.state ≠ .ready) :
    before.KeepsTrigger later :=
  .of_subset trigger (queue ▸ List.Subset.refl _) fun ready => absurd ready unready

theorem of_forgotten (forgotten : later.startupTrigger = none) : before.KeepsTrigger later :=
  fun _ remembered => by simp [forgotten] at remembered

theorem trans (first : before.KeepsTrigger middle) (second : middle.KeepsTrigger later) :
    before.KeepsTrigger later := by
  intro id remembered
  obtain ⟨stillRemembered, stillWaits, unready⟩ := second id remembered
  obtain ⟨wasRemembered, waited, notBefore⟩ := first id stillRemembered
  exact ⟨wasRemembered, fun entry listed own => stillWaits entry (waited entry listed own) own,
    notBefore ∘ unready⟩

/-- Nobody is remembered who was not. -/
theorem forgotten (keeps : before.KeepsTrigger later) (nobody : before.startupTrigger = none) :
    later.startupTrigger = none := by
  cases remembered : later.startupTrigger with
  | none => rfl
  | some id => exact (keeps id remembered).1.symm.trans nobody

end KeepsTrigger

/-! ### What is noted about the process -/

/-- What is noted about the present process: the request that started it, and its probes. -/
def watch (gateway : Gateway) : Option RequestId × Health :=
  (gateway.startupTrigger, gateway.health)

/-- The process and those who wait for it are the same, and so is what is noted about it. -/
structure Unmoved (before later : Gateway) : Prop where
  watch : later.watch = before.watch
  state : later.state = before.state
  generation : later.generation = before.generation
  queue : later.queue = before.queue

theorem Unmoved.of_traffic {before later : Gateway} {traffic : Traffic}
    (watch : later.watch = before.watch) (same : later.traffic = traffic)
    (state : traffic.state = before.state) (generation : traffic.generation = before.generation)
    (queue : traffic.queue = before.queue) : before.Unmoved later :=
  ⟨watch, (congrArg Traffic.state same).trans state,
    (congrArg Traffic.generation same).trans generation,
    (congrArg Traffic.queue same).trans queue⟩

theorem Unmoved.keepsTrigger {before later : Gateway} (unmoved : before.Unmoved later) :
    before.KeepsTrigger later :=
  .of_same (congrArg Prod.fst unmoved.watch) unmoved.queue unmoved.state

theorem watch_failCalls (gateway : Gateway) (calls : List PendingCall) (failure : Failure) :
    (gateway.failCalls calls failure).watch = gateway.watch := by
  induction calls generalizing gateway with
  | nil => rfl
  | cons call calls ih => exact ih (gateway.failCall call.id failure)

theorem watch_failEntries (gateway : Gateway) (entries : List QueuedRequest)
    (failure : Failure) : (gateway.failEntries entries failure).watch = gateway.watch := by
  induction entries generalizing gateway with
  | nil => rfl
  | cons entry entries ih =>
      cases present : entry.id with
      | none => simpa [failEntries, present] using ih gateway
      | some id =>
          simp only [failEntries, List.foldl_cons, present]
          exact ih (gateway.failCall id failure)

/-- When nobody waits any more, nobody waits for the start. -/
theorem watch_failQueued (gateway : Gateway) (failure : Failure) :
    (gateway.failQueued failure).watch = (none, gateway.health) := by
  simp only [failQueued]
  split
  · rfl
  · rw [watch_failEntries]
    rfl

theorem unmoved_record (setup : Setup) (gateway : Gateway) (message : ClientMessage) :
    gateway.Unmoved (gateway.record setup message) := by
  refine .of_traffic ?_ (traffic_record setup gateway message) rfl rfl rfl
  obtain ⟨actions, files, journal, recorded⟩ := exists_record setup gateway message
  rw [recorded]
  rfl

theorem watch_generateScript (setup : Setup) (gateway : Gateway) (id : Option RequestId) :
    (gateway.generateScript setup id).watch = gateway.watch := by
  obtain ⟨journal, generated⟩ := gateway.generateScript_eq setup id
  rw [generated]
  cases id <;> rfl

theorem unmoved_accept (gateway : Gateway) (message : ClientMessage) :
    gateway.Unmoved (gateway.accept message) := by
  unfold accept
  split <;> exact ⟨rfl, rfl, rfl, rfl⟩

theorem startsNone_record (setup : Setup) (gateway : Gateway) (message : ClientMessage) :
    gateway.StartsNone (gateway.record setup message) := by
  obtain ⟨actions, files, journal, recorded⟩ := exists_record setup gateway message
  rw [recorded]
  exact ⟨rfl, rfl⟩

/-! ### Passing messages on -/

theorem watch_settle_abandoned (gateway : Gateway) (entry : QueuedRequest) (failure : Failure)
    (orphaned : List PendingCall) :
    (gateway.settle (.abandoned entry failure orphaned)).watch = gateway.resetHealth.watch := by
  have failed := gateway.resetHealth.watch_failCalls orphaned failure
  cases present : entry.id with
  | none =>
      simp only [settle, present]
      exact failed
  | some id =>
      simp only [settle, present]
      exact failed

theorem keepsTrigger_settle (gateway : Gateway) (outcome : Exchange.DispatchOutcome) :
    gateway.KeepsTrigger (gateway.settle outcome) := by
  have failed (orphaned : List PendingCall) (failure : Failure) :
      (gateway.resetHealth.failCalls orphaned failure).startupTrigger = gateway.startupTrigger :=
    congrArg Prod.fst (gateway.resetHealth.watch_failCalls orphaned failure)
  cases outcome with
  | queued => exact .of_same rfl rfl rfl
  | sent => exact .of_same rfl rfl rfl
  | retrying orphaned =>
      have same := gateway.traffic_settle_retrying orphaned
      exact .of_same (failed orphaned connectionReset) (congrArg Traffic.queue same)
        (congrArg Traffic.state same)
  | respawnFailed failure orphaned =>
      exact .of_forgotten (congrArg Prod.fst (watch_failQueued _ failure))
  | abandoned entry failure orphaned =>
      have same := gateway.traffic_settle_abandoned entry failure orphaned
      exact .of_same (congrArg Prod.fst (gateway.watch_settle_abandoned entry failure orphaned))
        (congrArg Traffic.queue same) (congrArg Traffic.state same)

theorem keepsTrigger_passOn (setup : Setup) (gateway : Gateway) (entry : QueuedRequest) :
    gateway.KeepsTrigger (gateway.passOn setup entry) := by
  have dispatched :
      gateway.KeepsTrigger (gateway.withExchange (gateway.toExchange.dispatch setup entry).2) := by
    refine .of_subset rfl (gateway.toExchange.queue_subset_dispatch setup entry) fun ready => ?_
    by_contra unready
    rw [Exchange.dispatch_waiting entry unready] at ready
    exact unready ready
  exact dispatched.trans (keepsTrigger_settle _ _)

theorem forgotten_passOnWaiting (setup : Setup) (count : Nat)
    (nobody : gateway.startupTrigger = none) :
    (gateway.passOnWaiting setup count).startupTrigger = none := by
  induction count generalizing gateway with
  | zero => exact nobody
  | succ count ih =>
      unfold passOnWaiting
      split
      · split
        · exact nobody
        · exact ih ((keepsTrigger_passOn setup _ _).forgotten nobody)
      · exact nobody

/-! ### Messages of the client -/

/-- What is done before a message is passed on concerns no process and nobody who waits. -/
theorem forwardStarted_passesOn (setup : Setup) (started : Gateway) (message : ClientMessage) :
    ∃ taken : Gateway, forwardStarted setup started message = taken.passOn setup message.entry ∧
      started.Unmoved taken ∧ started.StartsNone taken := by
  obtain ⟨watch, state, generation, queue⟩ := unmoved_record setup started message
  have launched := (startsNone_record setup started message).launched
  refine ⟨_, rfl, ?_⟩
  cases message.answerId with
  | none => exact ⟨⟨watch, state, generation, queue⟩, generation, launched⟩
  | some id => exact ⟨⟨watch, state, generation, queue⟩, generation, launched⟩

theorem keepsTrigger_forwardStarted (setup : Setup) (started : Gateway)
    (message : ClientMessage) : started.KeepsTrigger (forwardStarted setup started message) := by
  obtain ⟨taken, passed, unmoved, -⟩ := forwardStarted_passesOn setup started message
  rw [passed]
  exact unmoved.keepsTrigger.trans (keepsTrigger_passOn setup taken message.entry)

/-- A message that is taken in while the service is not ready waits behind all others. -/
theorem forwardStarted_waiting (setup : Setup) {started : Gateway} (message : ClientMessage)
    (unready : started.state ≠ .ready) :
    let later := forwardStarted setup started message
    later.watch = started.watch ∧ started.StartsNone later ∧ later.state = started.state ∧
      later.queue = started.queue ++ [message.entry] := by
  intro later
  obtain ⟨taken, passed, unmoved, none⟩ := forwardStarted_passesOn setup started message
  have waits : later = { taken with queue := taken.queue ++ [message.entry] } :=
    passed.trans (passOn_waiting message.entry (unmoved.state ▸ unready))
  rw [waits, unmoved.queue]
  exact ⟨unmoved.watch, ⟨none.generation, none.launched⟩, unmoved.state, rfl⟩

theorem launched_start (setup : Setup) {host : Host} (idle : host.state = .noProcess)
    (success : host.outside.launchOutcomes.next = none) :
    (host.start setup).2.outside.launched = host.outside.launched ++ [host.generation + 1] := by
  simp only [Host.start, idle, Outside.launch, Host.cancel, success]
  rfl

/-- A message for which a process is started waits for it, and is remembered.  The probes are
counted anew. -/
structure Rouses (before : Gateway) (message : ClientMessage) (later : Gateway) : Prop where
  idle : before.state = .noProcess
  launched : later.outside.launched = before.outside.launched ++ [before.generation + 1]
  starting : later.state = .starting
  generation : later.generation = before.generation + 1
  waits : later.queue = before.queue ++ [message.entry]
  trigger : later.startupTrigger = message.answerId
  health : later.health = before.resetHealth.health

theorem rouses_forward (setup : Setup) (message : ClientMessage)
    (idle : gateway.state = .noProcess)
    (success : gateway.outside.launchOutcomes.next = none) :
    gateway.Rouses message (gateway.forward setup message) := by
  let accepted := gateway.accept message
  have same : accepted.toHost = gateway.toHost := gateway.toHost_accept message
  have health : accepted.health = gateway.health :=
    congrArg Prod.snd (gateway.unmoved_accept message).watch
  have queue : accepted.queue = gateway.queue :=
    congrArg Traffic.queue (gateway.traffic_accept message)
  have absent : accepted.hasProcess = false := by
    rw [same]
    exact Host.hasProcess_eq_false_iff.mpr idle
  have stillIdle : accepted.state = .noProcess := by rwa [same]
  obtain ⟨host, result, traffic⟩ :=
    Exchange.start_launched setup stillIdle (by rw [same]; exact success)
  have launched := launched_start setup idle success
  rw [← same, result] at launched
  let started : Gateway :=
    { accepted.withExchange (accepted.toExchange.withHost host).resetHealth with
      startupTrigger := message.answerId }
  have ensured : accepted.ensureStarted setup message.answerId = (.ok (), started) := by
    simp only [ensureStarted, absent, startService, result]
    rfl
  have state : started.state = .starting := congrArg Traffic.state traffic
  have generation : started.generation = gateway.generation + 1 := by
    rw [← same]
    exact congrArg Traffic.generation traffic
  obtain ⟨watch, none, kept, waits⟩ :=
    forwardStarted_waiting setup message (by rw [state]; simp : started.state ≠ .ready)
  rw [forward_started ensured]
  exact
    { idle := idle
      launched := none.launched.trans (by rw [← same]; exact launched)
      starting := kept.trans state
      generation := none.generation.trans generation
      waits := waits.trans (congrArg (· ++ [message.entry]) queue)
      trigger := congrArg Prod.fst watch
      health := by
        rw [show (forwardStarted setup started message).health =
          accepted.resetHealth.health from congrArg Prod.snd watch]
        simp only [resetHealth, withExchange, Exchange.resetHealth, health] }

/-- A message for which no process can be started fails, and with it all who wait. -/
theorem forward_unstarted (setup : Setup) (message : ClientMessage) {failure : Failure}
    (idle : gateway.state = .noProcess)
    (failing : gateway.outside.launchOutcomes.next = some failure) :
    ∃ unstarted : Gateway, gateway.forward setup message = unstarted.failQueued failure ∧
      unstarted.watch = gateway.watch ∧ unstarted.state = .noProcess := by
  let accepted := gateway.accept message
  have same : accepted.toHost = gateway.toHost := gateway.toHost_accept message
  have watch : accepted.watch = gateway.watch := (gateway.unmoved_accept message).watch
  have stillIdle : accepted.state = .noProcess := by rwa [same]
  have absent : accepted.hasProcess = false := Host.hasProcess_eq_false_iff.mpr stillIdle
  obtain ⟨host, result, traffic⟩ :=
    Exchange.start_failed setup stillIdle (by rw [same]; exact failing)
  have state : (accepted.withHost host).state = .noProcess :=
    (congrArg Traffic.state traffic).trans stillIdle
  have unensured : accepted.ensureStarted setup message.answerId =
      (.error failure, accepted.withHost host) := by
    simp only [ensureStarted, absent, startService, result]
    rfl
  simp only [forward, accepted, unensured]
  refine ⟨_, rfl, ?_⟩
  cases message.answerId with
  | none => exact ⟨watch, state⟩
  | some id => exact ⟨watch, state⟩

theorem keepsTrigger_forward (setup : Setup) (gateway : Gateway) (message : ClientMessage) :
    gateway.KeepsTrigger (gateway.forward setup message) ∨
      gateway.Rouses message (gateway.forward setup message) := by
  by_cases idle : gateway.state = .noProcess
  · cases outcome : gateway.outside.launchOutcomes.next with
    | none => exact .inr (rouses_forward setup message idle outcome)
    | some failure =>
        obtain ⟨unstarted, failed, -⟩ := forward_unstarted setup message idle outcome
        rw [failed]
        exact .inl (.of_forgotten (congrArg Prod.fst (watch_failQueued unstarted failure)))
  · rw [forward_running message idle]
    exact .inl ((gateway.unmoved_accept message).keepsTrigger.trans
      (keepsTrigger_forwardStarted setup _ message))

/-- A line that is not accepted is noted nowhere. -/
theorem watch_handleClientLine (setup : Setup) (gateway : Gateway) {line : String}
    (rejected : gateway.accepted? setup (.event (.clientLine line)) = none) :
    (gateway.handleClientLine setup line).watch = gateway.watch := by
  unfold handleClientLine
  simp only [accepted?] at rejected
  split
  case isTrue => rfl
  case isFalse shown =>
    rw [if_neg shown] at rejected
    cases parsed : ClientMessage.parse line with
    | error failure => rfl
    | ok message =>
        simp only [parsed] at rejected
        dsimp only
        by_cases allowed : message.answerId.bind (gateway.idRefusal setup) = none
        · rw [handleMessage_allowed allowed]
          by_cases own : message.toolName = some setup.settings.tool.name
          · simp only [acceptMessage, own, if_true]
            exact watch_generateScript setup gateway message.id
          · simp [allowed, own] at rejected
        · obtain ⟨failure, refused⟩ := Option.ne_none_iff_exists'.mp allowed
          obtain ⟨id, request, refusal⟩ := Option.bind_eq_some_iff.mp refused
          simp only [handleMessage, request, refusal]
          rfl

theorem unmoved_handleClientLine (setup : Setup) (gateway : Gateway) {line : String}
    (rejected : gateway.accepted? setup (.event (.clientLine line)) = none) :
    gateway.Unmoved (gateway.handleClientLine setup line) := by
  have watch := watch_handleClientLine setup gateway rejected
  rcases gateway.handleClientLine_cases setup line with
    ⟨message, accepted, -⟩ | ⟨-, same | ⟨told, same⟩⟩
  · simp [rejected] at accepted
  · exact .of_traffic watch same rfl rfl rfl
  · exact .of_traffic watch same rfl rfl rfl

/-! ### Lines and ends of the process -/

/-- The response to a probe makes a service that is starting ready, and nobody waits for the
start any more. -/
theorem handleServiceOutput_answered {line : String} {id : RequestId} {message : ServiceMessage}
    (isResponse : ServiceMessage.response? line = some (id, message))
    (isProbe : Exchange.isProbeId setup id = true) :
    let answered := gateway.toExchange.onProbeResponse setup
    gateway.handleServiceOutput setup line =
      if answered.1 then
        { gateway.withExchange answered.2 with startupTrigger := none }.drainQueue setup
      else gateway.withExchange answered.2 := by
  intro answered
  unfold handleServiceOutput
  simp only [Exchange.classify_probe _ isResponse isProbe]
  rfl

theorem watch_visit (gateway : Gateway) (plan : ResponsePlan) (message : ServiceMessage) :
    (gateway.visit plan message).watch = gateway.watch := by
  obtain ⟨page, journal, visited⟩ := gateway.exists_visit plan message
  rw [visited]
  rfl

/-- A line of the process that answers no probe leaves it as it is. -/
theorem unmoved_handleServiceOutput {line : String} (unanswered : ¬ AnswersProbe setup line) :
    gateway.Unmoved (gateway.handleServiceOutput setup line) := by
  have unprobed (id : RequestId) (message : ServiceMessage)
      (isResponse : ServiceMessage.response? line = some (id, message)) :
      Exchange.isProbeId setup id = false := by
    rw [← Bool.not_eq_true]
    exact fun isProbe => unanswered (answersProbe_iff.mpr ⟨id, message, isResponse, isProbe⟩)
  have watch : (gateway.handleServiceOutput setup line).watch = gateway.watch := by
    unfold handleServiceOutput
    cases isResponse : ServiceMessage.response? line with
    | none =>
        rcases Exchange.classify_other setup gateway.toExchange isResponse with
          ⟨raw, unmatched⟩ | ⟨failure, garbage⟩
        · simp only [unmatched]
          rfl
        · simp only [garbage]
          rfl
    | some response =>
        obtain ⟨id, message⟩ := response
        rw [Exchange.classify_response _ isResponse (unprobed id message isResponse)]
        cases CallTable.find? gateway.pending id with
        | some call => exact watch_visit _ call.plan message
        | none =>
            dsimp only
            cases gateway.expired.any fun call => call.id = id <;> rfl
  have cases := traffic_handleServiceOutput_cases setup gateway line
    fun id message isResponse isProbe =>
      absurd (unprobed id message isResponse) (by simp [isProbe])
  generalize gateway.handleServiceOutput setup line = later at watch cases ⊢
  rcases cases with same | ⟨raw, same⟩ | ⟨id, call, text, -, same⟩ | ⟨id, same⟩
  all_goals exact .of_traffic watch same rfl rfl rfl

theorem keepsTrigger_handleServiceOutput (setup : Setup) (gateway : Gateway) (line : String) :
    gateway.KeepsTrigger (gateway.handleServiceOutput setup line) := by
  by_cases answers : AnswersProbe setup line
  · obtain ⟨id, message, isResponse, isProbe⟩ := answersProbe_iff.mp answers
    rw [handleServiceOutput_answered isResponse isProbe]
    by_cases starting : gateway.state = .starting
    · obtain ⟨later, answered, -, -⟩ :=
        Exchange.onProbeResponse_starting setup gateway.toExchange starting
      rw [answered, if_pos rfl, drainQueue_eq]
      exact .of_forgotten (forgotten_passOnWaiting setup _ rfl)
    · rw [Exchange.onProbeResponse_other setup gateway.toExchange starting]
      exact .of_same rfl rfl rfl
  · exact (unmoved_handleServiceOutput answers).keepsTrigger

theorem watch_failGeneration (gateway : Gateway) (generation : Nat) (detail : String) :
    (gateway.failGeneration generation detail).watch = gateway.resetHealth.watch :=
  watch_failCalls _ _ _

theorem watch_onServiceExited (setup : Setup) (code : Option Int) {generation : Nat}
    (current : gateway.isCurrent generation = true) :
    (gateway.onServiceExited setup generation code).watch = gateway.resetHealth.watch := by
  rw [onServiceExited_current setup code current, watch_failGeneration]
  rfl

theorem watch_onServiceFailed (detail : String) {generation : Nat}
    (current : gateway.isCurrent generation = true) :
    (gateway.onServiceFailed generation detail).watch = gateway.resetHealth.watch := by
  rw [onServiceFailed_current detail current, watch_failGeneration]
  rfl

theorem keepsTrigger_onServiceExited (setup : Setup) (gateway : Gateway) (generation : Nat)
    (code : Option Int) :
    gateway.KeepsTrigger (gateway.onServiceExited setup generation code) := by
  cases current : gateway.isCurrent generation with
  | true =>
      have same := traffic_onServiceExited setup code current
      have gone : (gateway.onServiceExited setup generation code).state = .noProcess :=
        congrArg Traffic.state same
      exact .of_unready (congrArg Prod.fst (watch_onServiceExited setup code current))
        (congrArg Traffic.queue same) (by simp [gone])
  | false =>
      rw [onServiceExited_stale setup code current]
      exact .of_same rfl rfl rfl

theorem keepsTrigger_onServiceFailed (gateway : Gateway) (generation : Nat) (detail : String) :
    gateway.KeepsTrigger (gateway.onServiceFailed generation detail) := by
  cases current : gateway.isCurrent generation with
  | true =>
      have same := traffic_onServiceFailed detail current
      have gone : (gateway.onServiceFailed generation detail).state = .noProcess :=
        congrArg Traffic.state same
      exact .of_unready (congrArg Prod.fst (watch_onServiceFailed detail current))
        (congrArg Traffic.queue same) (by simp [gone])
  | false =>
      rw [onServiceFailed_stale detail current]
      exact .of_same rfl rfl rfl

/-! ### Starts and timers -/

theorem startupTrigger_startService (setup : Setup) (gateway : Gateway) :
    (gateway.startService setup).2.startupTrigger = gateway.startupTrigger := by
  unfold startService
  split <;> rfl

theorem keepsTrigger_startService (setup : Setup) (gateway : Gateway) :
    gateway.KeepsTrigger (gateway.startService setup).2 := by
  have trigger := gateway.startupTrigger_startService setup
  rcases startService_cases setup gateway with
    ⟨outcome, started, result, -, same | ⟨idle, same⟩⟩ | ⟨failure, unstarted, result, idle, same⟩
  · rw [result] at trigger ⊢
    exact .of_same trigger (congrArg Traffic.queue same) (congrArg Traffic.state same)
  · have starting : started.state = .starting := congrArg Traffic.state same
    rw [result] at trigger ⊢
    exact .of_unready trigger (congrArg Traffic.queue same) (by simp [starting])
  · rw [result] at trigger ⊢
    exact .of_same trigger (congrArg Traffic.queue same) (congrArg Traffic.state same)

/-- A process is started for those who wait, or they are not waited for any more. -/
theorem keepsTrigger_launch {later : Gateway} {host : Host}
    (trigger : later.startupTrigger = gateway.startupTrigger)
    (same : later.traffic = (gateway.toExchange.withHost host).traffic)
    (launched : (gateway.toExchange.withHost host).traffic = gateway.traffic.launch setup) :
    gateway.KeepsTrigger later := by
  have started := same.trans launched
  have starting : later.state = .starting := congrArg Traffic.state started
  exact .of_unready trigger (congrArg Traffic.queue started) (by simp [starting])

theorem keepsTrigger_onProbeTimer (setup : Setup) (gateway : Gateway) :
    gateway.KeepsTrigger (gateway.onProbeTimer setup) := by
  by_cases idle : gateway.state = .noProcess
  · have absent : gateway.hasProcess = false := Host.hasProcess_eq_false_iff.mpr idle
    rcases Exchange.start_cases setup idle with
      ⟨host, started, same⟩ | ⟨failure, host, started, -⟩
    · simp only [onProbeTimer, Exchange.probe, absent, started]
      exact keepsTrigger_launch rfl rfl same
    · simp only [onProbeTimer, Exchange.probe, absent, started]
      exact .of_forgotten (congrArg Prod.fst (watch_failQueued _ failure))
  · have same := traffic_onProbeTimer_running setup idle
    have trigger : (gateway.onProbeTimer setup).startupTrigger = gateway.startupTrigger := by
      cases result : gateway.toExchange.probe setup with
      | mk outcome later =>
        cases outcome with
        | startFailed failure =>
            exact absurd (congrArg Prod.fst result)
              (Exchange.probe_ne_startFailed setup idle failure)
        | _ => simp only [onProbeTimer, result]; rfl
    obtain ⟨counted, missed, -, probed⟩ := gateway.toExchange.probe_cases setup idle
    rcases probed with ⟨-, id, line, sent⟩ | ⟨-, unsent⟩
    · have kept := same.trans sent
      rcases missed with ⟨-, rfl⟩ | ⟨-, rfl⟩
      · exact .of_same trigger (congrArg Traffic.queue kept) (congrArg Traffic.state kept)
      · have demoted : (gateway.onProbeTimer setup).state = .starting := congrArg Traffic.state kept
        exact .of_unready trigger (congrArg Traffic.queue kept) (by simp [demoted])
    · have kept := same.trans unsent
      have demoted : (gateway.onProbeTimer setup).state = .starting := congrArg Traffic.state kept
      refine .of_unready trigger ((congrArg Traffic.queue kept).trans ?_) (by simp [demoted])
      rcases missed with ⟨-, rfl⟩ | ⟨-, rfl⟩ <;> rfl

theorem keepsTrigger_onStartupDeadline (setup : Setup) (gateway : Gateway) :
    gateway.KeepsTrigger (gateway.onStartupDeadline setup) := by
  unfold onStartupDeadline
  split
  case h_1 =>
    dsimp only
    split
    case h_1 => exact .of_same rfl rfl rfl
    case h_2 =>
      refine .of_forgotten ?_
      split <;> rfl
  case h_2 => exact .of_same rfl rfl rfl

theorem keepsTrigger_onRestart (setup : Setup) (gateway : Gateway) :
    gateway.KeepsTrigger (gateway.onRestart setup) := by
  by_cases idle : gateway.state = .noProcess
  · have absent : gateway.hasProcess = false := Host.hasProcess_eq_false_iff.mpr idle
    rcases Exchange.start_cases setup idle with
      ⟨host, started, same⟩ | ⟨failure, host, started, -⟩
    · simp only [onRestart, absent, started]
      exact keepsTrigger_launch rfl rfl same
    · simp only [onRestart, absent, started]
      exact .of_forgotten (congrArg Prod.fst (watch_failQueued _ failure))
  · rw [onRestart_running setup idle]
    exact .of_same rfl rfl rfl

/-- A request that has waited too long is not remembered any more; others still wait. -/
theorem keepsTrigger_onCallDeadline (setup : Setup) (gateway : Gateway) (id : RequestId) :
    gateway.KeepsTrigger (gateway.onCallDeadline setup id) := by
  have trigger (other : RequestId)
      (remembered : (gateway.onCallDeadline setup id).startupTrigger = some other) :
      gateway.startupTrigger = some other ∧
        (other = id → gateway.onCallDeadline setup id = gateway) := by
    unfold onCallDeadline at remembered ⊢
    split at remembered
    case h_1 => exact ⟨remembered, fun _ => rfl⟩
    case h_2 taken found =>
      have kept : taken.startupTrigger = gateway.startupTrigger := by
        rw [takeExpired_eq found]
      have still : (if taken.startupTrigger = some id then none else taken.startupTrigger) =
          some other := remembered
      split at still
      case isTrue => cases still
      case isFalse apart =>
        refine ⟨kept ▸ still, ?_⟩
        rintro rfl
        exact absurd still apart
  intro other remembered
  obtain ⟨wasRemembered, unchanged⟩ := trigger other remembered
  by_cases own : other = id
  · rw [unchanged own]
    exact ⟨wasRemembered, fun _ waits _ => waits, fun ready => ready⟩
  · have apart (entry : QueuedRequest) (isOther : entry.id = some other) :
        ¬ RequestQueue.hasId id entry = true := by
      simp [RequestQueue.hasId, isOther, own]
    have waits (entry : QueuedRequest) (waited : entry ∈ gateway.queue)
        (isOther : entry.id = some other) : entry ∈ (gateway.onCallDeadline setup id).queue := by
      rcases gateway.traffic_onCallDeadline setup id with
        ⟨call, -, late⟩ | ⟨-, ⟨-, late⟩ | ⟨-, late⟩⟩
      · rwa [show (gateway.onCallDeadline setup id).queue = gateway.queue from
          congrArg Traffic.queue late]
      · rw [show (gateway.onCallDeadline setup id).queue = RequestQueue.remove gateway.queue id from
          congrArg Traffic.queue late]
        exact (List.mem_eraseP_of_neg (apart entry isOther)).mpr waited
      · rwa [show (gateway.onCallDeadline setup id).queue = gateway.queue from
          congrArg Traffic.queue late]
    have state : (gateway.onCallDeadline setup id).state = gateway.state := by
      rcases gateway.traffic_onCallDeadline setup id with
        ⟨call, -, late⟩ | ⟨-, ⟨-, late⟩ | ⟨-, late⟩⟩
      all_goals exact congrArg Traffic.state late
    exact ⟨wasRemembered, waits, fun ready => state ▸ ready⟩

theorem keepsTrigger_onTimer (setup : Setup) (gateway : Gateway) (timer : Timer) :
    gateway.KeepsTrigger (gateway.onTimer setup timer) := by
  cases timer with
  | firstProbe => exact gateway.keepsTrigger_onProbeTimer setup
  | probeInterval => exact gateway.keepsTrigger_onProbeTimer setup
  | startupDeadline => exact gateway.keepsTrigger_onStartupDeadline setup
  | restart => exact gateway.keepsTrigger_onRestart setup
  | callDeadline id => exact gateway.keepsTrigger_onCallDeadline setup id
  | shutdownGrace => exact .of_same rfl rfl rfl

/-- No step lets another request be remembered, unless it is that of a line for which a process
is started. -/
theorem keepsTrigger_step (setup : Setup) (gateway : Gateway) (step : Step) :
    gateway.KeepsTrigger (gateway.step setup step) ∨
      ∃ message, gateway.accepted? setup step = some message ∧
        gateway.Rouses message (gateway.step setup step) := by
  cases step with
  | start => exact .inl (gateway.keepsTrigger_startService setup)
  | event event =>
      cases event with
      | clientLine line =>
          rcases gateway.handleClientLine_cases setup line with
            ⟨message, accepted, forwarded, -⟩ | ⟨rejected, -⟩
          · have stepped : gateway.step setup (.event (.clientLine line)) =
              gateway.forward setup message := forwarded
            rw [stepped]
            exact (gateway.keepsTrigger_forward setup message).imp_right fun rouses =>
              ⟨message, accepted, rouses⟩
          · exact .inl (unmoved_handleClientLine setup gateway rejected).keepsTrigger
      | clientClosed => exact .inl (.of_same rfl rfl rfl)
      | serviceOutput generation line =>
          refine .inl ?_
          have stepped : gateway.step setup (.event (.serviceOutput generation line)) =
            gateway.onServiceOutput setup generation line := rfl
          rw [stepped, onServiceOutput]
          split
          · exact gateway.keepsTrigger_handleServiceOutput setup line
          · exact .of_same rfl rfl rfl
      | serviceError generation line => exact .inl (.of_same rfl rfl rfl)
      | serviceExited generation code =>
          exact .inl (gateway.keepsTrigger_onServiceExited setup generation code)
      | serviceFailed generation detail =>
          exact .inl (gateway.keepsTrigger_onServiceFailed generation detail)
      | timer timer => exact .inl (gateway.keepsTrigger_onTimer setup timer)
      | shutdown => exact .inl (.of_same rfl rfl rfl)
  | elapse timer =>
      refine .inl ?_
      rcases gateway.step_elapse_cases setup timer with
        ⟨-, same⟩ | ⟨period, -, same⟩ | ⟨delay, -, same⟩
      · rw [same]
        exact .of_same rfl rfl rfl
      · rw [same]
        exact gateway.keepsTrigger_onTimer setup timer
      · rw [same]
        refine .trans ?_ (keepsTrigger_onTimer setup _ timer)
        exact .of_same rfl rfl rfl
  | meanwhile outside => exact .inl (.of_same rfl rfl rfl)

/-! ## Runs -/

/-- In the course of steps a process was started for a message.  It has been remembered since,
and waits for a service that is not ready. -/
structure AwaitsStart (setup : Setup) (outside : Outside) (steps : List Step)
    (message : ClientMessage) : Prop where
  roused : ∃ earlier step since, steps = earlier ++ step :: since ∧
    (after setup outside earlier).accepted? setup step = some message ∧
    (after setup outside earlier).Rouses message (after setup outside (earlier ++ [step])) ∧
    ∀ part, part <+: since →
      (after setup outside (earlier ++ step :: part)).startupTrigger = message.answerId
  waits : message.entry ∈ (after setup outside steps).queue
  unready : (after setup outside steps).state ≠ .ready

theorem awaitsStart_after (setup : Setup) (outside : Outside) (steps : List Step) {id : RequestId}
    (remembered : (after setup outside steps).startupTrigger = some id) :
    ∃ message, message.answerId = some id ∧ AwaitsStart setup outside steps message := by
  induction steps using List.reverseRecOn with
  | nil =>
      have nobody : (after setup outside []).startupTrigger = none := rfl
      simp [nobody] at remembered
  | append_singleton steps step ih =>
      have last := after_concat setup outside steps step
      rcases (after setup outside steps).keepsTrigger_step setup step with
        keeps | ⟨message, accepted, rouses⟩
      · rw [← last] at keeps
        obtain ⟨wasRemembered, stillWaits, unready⟩ := keeps id remembered
        obtain ⟨message, request, awaits⟩ := ih wasRemembered
        obtain ⟨earlier, first, since, rfl, accepted, rouses, sinceThen⟩ := awaits.roused
        refine ⟨message, request, ⟨earlier, first, since ++ [step], by simp, accepted, rouses, ?_⟩,
          stillWaits message.entry awaits.waits request, awaits.unready ∘ unready⟩
        intro part begins
        rcases List.prefix_concat_iff.mp begins with rfl | before
        · rw [request, ← remembered]
          simp
        · exact sinceThen part before
      · rw [← last] at rouses
        have request : message.answerId = some id := rouses.trigger.symm.trans remembered
        refine ⟨message, request, ⟨steps, step, [], rfl, accepted, rouses, ?_⟩, ?_, ?_⟩
        · intro part begins
          rw [List.prefix_nil.mp begins]
          exact rouses.trigger
        · rw [rouses.waits]
          simp
        · rw [rouses.starting]
          simp

/-- What it comes to that the start takes too long.  Only the request that started the process
is told so, and leaves the queue; it is the only one there with its identifier. -/
inductive ReportsSlowStart (setup : Setup) (before : Gateway) : Gateway → Prop
  /-- The service is ready, or there is none. -/
  | settled (other : before.state ≠ .starting) : ReportsSlowStart setup before before
  /-- The request that started the process does not wait any more, or there was none. -/
  | unclaimed {later : Gateway} (starting : before.state = .starting)
      (nobody : before.startupTrigger = none)
      (rest : later = { before with outside := later.outside })
      (said : before.outside.Says [] later.outside) : ReportsSlowStart setup before later
  /-- The request that started the process is told. -/
  | told {later : Gateway} {id : RequestId} {entry : QueuedRequest}
      {ahead behind : List QueuedRequest} (starting : before.state = .starting)
      (trigger : before.startupTrigger = some id) (own : entry.id = some id)
      (waits : before.queue = ahead ++ entry :: behind)
      (others : ∀ other ∈ ahead ++ behind, other.id ≠ some id)
      (rest : later = { before with
        startupTrigger := none
        queue := ahead ++ behind
        timers := before.timers.cancel (.callDeadline id)
        ledger := before.ledger ++
          [.answered id (.failed (.startupTimeout setup.settings.service.startupTimeout))]
        outside := later.outside })
      (said : before.outside.Says
        [Envelope.errorLineFor (some id)
          (.startupTimeout setup.settings.service.startupTimeout)] later.outside) :
      ReportsSlowStart setup before later

theorem others_of_distinct {ahead behind : List QueuedRequest} {entry : QueuedRequest}
    {id : RequestId} (own : entry.id = some id)
    (distinct : ((ahead ++ entry :: behind).filterMap QueuedRequest.id).Nodup) :
    ∀ other ∈ ahead ++ behind, other.id ≠ some id := by
  intro other listed same
  rw [List.filterMap_append, List.filterMap_cons_some own] at distinct
  have split := (List.nodup_middle.mp distinct)
  rw [← List.filterMap_append] at split
  exact (List.nodup_cons.mp split).1 (List.mem_filterMap.mpr ⟨other, listed, same⟩)

theorem reportsSlowStart_onStartupDeadline (setup : Setup) (gateway : Gateway)
    (waits : ∀ id, gateway.startupTrigger = some id → ∃ entry ∈ gateway.queue, entry.id = some id)
    (distinct : (gateway.queue.filterMap QueuedRequest.id).Nodup) :
    gateway.ReportsSlowStart setup (gateway.onStartupDeadline setup) := by
  by_cases starting : gateway.state = .starting
  · let noted := gateway.note .failure "service.startup_timeout"
      [("timeout_ms", .ofNat setup.settings.service.startupTimeout),
        ("queued", .ofNat gateway.queue.length)]
    have said : gateway.outside.Says [] noted.outside := .note gateway.outside _ _ _
    cases trigger : gateway.startupTrigger with
    | none =>
        have done : gateway.onStartupDeadline setup = noted := by
          simp only [onStartupDeadline, starting, trigger]
          rfl
        rw [done]
        exact .unclaimed starting trigger rfl said
    | some id =>
        obtain ⟨entry, listed, own⟩ := waits id trigger
        have hasId : RequestQueue.hasId id entry = true := by simp [RequestQueue.hasId, own]
        obtain ⟨found, ahead, behind, -, foundId, split, removed⟩ :=
          List.exists_of_eraseP listed hasId
        have foundOwn : found.id = some id := by simpa [RequestQueue.hasId] using foundId
        have contained : RequestQueue.contains gateway.queue id = true :=
          List.any_eq_true.mpr ⟨entry, listed, hasId⟩
        have done : gateway.onStartupDeadline setup =
            ({ noted with startupTrigger := none, queue := ahead ++ behind }).failCall id
              (.startupTimeout setup.settings.service.startupTimeout) := by
          simp only [onStartupDeadline, starting, trigger]
          rw [← removed]
          exact if_pos contained
        rw [done]
        refine .told starting trigger foundOwn split (others_of_distinct foundOwn ?_) rfl
          (said.trans (.reply noted.outside _))
        rwa [split] at distinct
  · rw [onStartupDeadline_eq_iff.mpr starting]
    exact .settled starting

/-- At any time the request that is remembered waits in the queue of a service that is not ready,
and its own arrival had started a process.  When the start takes too long, it is told so if there
is a process that is not ready, and leaves the queue with its deadline.  Nobody else is told
anything, and nothing else becomes different. -/
theorem slow_start_reaches_its_trigger (setup : Setup) (outside : Outside) (steps : List Step) :
    let gateway := after setup outside steps
    (∀ id, gateway.startupTrigger = some id →
      ∃ message, message.answerId = some id ∧ AwaitsStart setup outside steps message) ∧
    gateway.ReportsSlowStart setup (gateway.handleEvent setup (.timer .startupDeadline)) := by
  intro gateway
  have awaits (id : RequestId) (remembered : gateway.startupTrigger = some id) :=
    awaitsStart_after setup outside steps remembered
  refine ⟨awaits, reportsSlowStart_onStartupDeadline setup gateway (fun id remembered => ?_) ?_⟩
  · obtain ⟨message, request, awaits⟩ := awaits id remembered
    exact ⟨message.entry, awaits.waits, request⟩
  · exact (List.nodup_append.mp (isAccountable_after setup outside steps).2.nodup).2.1

/-- Two requests wait for the process that the first of them started. -/
theorem slow_start_reaches_the_first :
    let setup : Setup := { launch := ⟨"npx", [], none⟩ }
    let steps : List Step :=
      [.event (.clientLine "\x7b\"id\":\"1\",\"method\":\"page/content\"\x7d"),
        .event (.clientLine "\x7b\"id\":\"2\",\"method\":\"page/content\"\x7d")]
    let gateway := after setup {} steps
    gateway.startupTrigger = some (.text "1") ∧
      (∃ message, message.answerId = some (.text "1") ∧ AwaitsStart setup {} steps message) ∧
      gateway.ReportsSlowStart setup (gateway.handleEvent setup (.timer .startupDeadline)) ∧
      (gateway.handleEvent setup (.timer .startupDeadline)).queue.map QueuedRequest.id =
        [some (.text "2")] := by
  intro setup steps gateway
  have remembered : gateway.startupTrigger = some (.text "1") := by decide +kernel
  obtain ⟨awaits, reports⟩ := slow_start_reaches_its_trigger setup {} steps
  exact ⟨remembered, awaits _ remembered, reports, by decide +kernel⟩

end Gateway

end BrowserRelay
