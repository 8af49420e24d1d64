import BrowserRelay.Proofs.Readiness
import BrowserRelay.Proofs.Recording

/-!
# Waiting and being passed on at once

A message of the client that comes before the service is ready waits, and is written once the
process answers a probe.  A message that comes after the answer is written at once.  The two
ways lead to the same place: if the answer comes first, the relay is ahead by no more than the
writing of the messages that wait, and it stays so with every further message.
-/

namespace BrowserRelay

/-- The calls that are pending after a message was written to the process of a generation. -/
def CallTable.write (generation : Nat) (calls : List PendingCall) (entry : QueuedRequest) :
    List PendingCall :=
  match entry.id with
  | none => calls
  | some id => CallTable.insert calls ⟨id, entry.plan, generation⟩

theorem CallTable.isSome_find?_write (generation : Nat) (calls : List PendingCall)
    (entry : QueuedRequest) (id : RequestId) :
    (find? (write generation calls entry) id).isSome =
      ((find? calls id).isSome || RequestQueue.hasId id entry) := by
  cases request : entry.id with
  | none => simp [write, request, RequestQueue.hasId]
  | some own =>
      by_cases same : own = id
      · subst same
        simp [write, request, RequestQueue.hasId, find?, insert, remove]
      · have kept : find? (write generation calls entry) id = find? calls id := by
          have apart (call : PendingCall) : (call.id ≠ own ∧ call.id = id) ↔ call.id = id :=
            and_iff_right_of_imp fun found other => same (other.symm.trans found)
          simp [write, request, find?, insert, remove, List.find?_append, List.find?_filter,
            apart, same]
        simp [kept, request, RequestQueue.hasId, same]

/-- A call is in flight after the messages that wait were written exactly if it was before. -/
theorem CallTable.isSome_find?_foldl_write (generation : Nat) (calls : List PendingCall)
    (entries : List QueuedRequest) (id : RequestId) :
    (find? (entries.foldl (write generation) calls) id).isSome =
      ((find? calls id).isSome || RequestQueue.contains entries id) := by
  induction entries generalizing calls with
  | nil => simp [RequestQueue.contains]
  | cons entry entries ih =>
      have later := ih (write generation calls entry)
      rw [isSome_find?_write, Bool.or_assoc] at later
      exact later

theorem Outcomes.next_of_success {outcomes : Outcomes}
    (succeed : ∀ outcome ∈ outcomes, outcome = none) : outcomes.next = none := by
  cases outcomes with
  | nil => rfl
  | cons first later => exact succeed first List.mem_cons_self

/-- The edges after messages were written to the process of a generation. -/
def Outside.afterWriting (outside : Outside) (generation : Nat) (entries : List QueuedRequest)
    (journal : List LogEvent) : Outside :=
  { outside with
    written := outside.written ++ entries.map fun entry => ⟨generation, entry.line⟩
    writeOutcomes := outside.writeOutcomes.drop entries.length
    journal := journal }

namespace Gateway

variable {setup : Setup} {waiting ready : Gateway}

/-! ## Passing a message on -/

theorem passOn_waiting (entry : QueuedRequest) (unready : waiting.state ≠ .ready) :
    waiting.passOn setup entry = { waiting with queue := waiting.queue ++ [entry] } := by
  simp only [passOn, Exchange.dispatch_waiting entry unready, settle]
  rfl

theorem passOn_success (setup : Setup) (ready : Gateway) (entry : QueuedRequest)
    (isReady : ready.state = .ready)
    (success : ready.outside.writeOutcomes.next = none) :
    ready.passOn setup entry =
      { ready with
        pending := CallTable.write ready.generation ready.pending entry
        ledger := ready.ledger ++ [.written ready.generation entry]
        outside :=
          { ready.outside with
            written := ready.outside.written ++ [⟨ready.generation, entry.line⟩]
            writeOutcomes := ready.outside.writeOutcomes.later } } := by
  have present : ready.toHost.isReady = true := by simp [Host.isReady, isReady]
  have running : ready.toHost.hasProcess = true := by simp [Host.hasProcess, isReady]
  simp only [passOn, Exchange.dispatch, present, Host.writeLine, running, Outside.writeLine,
    success, if_true, settle]
  cases entry with
  | mk id line plan attempts => cases id <;> rfl

/-- As long as writes succeed, all who wait are written in their order. -/
theorem passOnWaiting_success (setup : Setup) (gateway : Gateway) (entries : List QueuedRequest)
    (isReady : gateway.state = .ready)
    (succeed : ∀ outcome ∈ gateway.outside.writeOutcomes, outcome = none) :
    ∃ ledger, ({ gateway with queue := entries }).passOnWaiting setup entries.length =
      { gateway with
        pending := entries.foldl (CallTable.write gateway.generation) gateway.pending
        queue := []
        ledger := ledger
        outside :=
          gateway.outside.afterWriting gateway.generation entries gateway.outside.journal } := by
  induction entries generalizing gateway with
  | nil => exact ⟨gateway.ledger, by simp [passOnWaiting, Outside.afterWriting]⟩
  | cons entry entries ih =>
      let ahead : Gateway := { gateway with queue := entries }
      have success := Outcomes.next_of_success succeed
      have passed := passOn_success setup ahead entry isReady success
      obtain ⟨ledger, others⟩ := ih (ahead.passOn setup entry) (by rw [passed]; exact isReady)
        fun outcome listed => by
          rw [passed] at listed
          exact succeed outcome (List.mem_of_mem_tail listed)
      refine ⟨ledger, ?_⟩
      have step : ({ gateway with queue := entry :: entries }).passOnWaiting setup
          (entries.length + 1) = (ahead.passOn setup entry).passOnWaiting setup entries.length :=
        passOnWaiting_cons setup entries.length isReady rfl
      have same : { ahead.passOn setup entry with queue := entries } =
          ahead.passOn setup entry := by
        rw [passed]
      rw [same] at others
      rw [List.length_cons, step, others, passed]
      simp [ahead, Outside.afterWriting, Outcomes.later]

/-! ## Messages of the client while there is a process -/

theorem forward_running {gateway : Gateway} (message : ClientMessage)
    (running : gateway.state ≠ .noProcess) :
    gateway.forward setup message = forwardStarted setup (gateway.accept message) message := by
  have present : (gateway.accept message).hasProcess = true := by
    rw [Host.hasProcess_iff, toHost_accept]
    exact running
  exact forward_started (by simp only [ensureStarted, present, if_true])

theorem generation_handleClientLine (line : String) (starting : waiting.state = .starting) :
    (waiting.handleClientLine setup line).generation = waiting.generation := by
  rcases waiting.handleClientLine_cases setup line with
    ⟨message, -, forwarded, -⟩ | ⟨-, same | ⟨told, same⟩⟩
  · have settled : waiting.traffic.IsSettled := fun ready => by
      have isReady : waiting.state = .ready := ready
      simp [starting] at isReady
    rw [forwarded, forward_running message (by simp [starting])]
    rcases forwardStarted_cases setup (waiting.traffic_accept message) settled with
      ⟨taken, ready, -, -, -, start⟩ | ⟨-, taken⟩
    · have isReady : taken.state = waiting.state := congrArg Traffic.state start
      simp [ready, starting] at isReady
    · exact congrArg Traffic.generation taken
  · exact congrArg Traffic.generation same
  · exact congrArg Traffic.generation same

/-! ## Two gateways, one of them ahead -/

/-- The gateway once the process has answered a probe and the messages that wait are written,
with timers, a ledger and a journal of its own. -/
def caughtUp (gateway : Gateway) (timers : TimerTable) (ledger : List Deed)
    (journal : List LogEvent) : Gateway :=
  { gateway with
    state := .ready
    timers := timers
    outside := gateway.outside.afterWriting gateway.generation gateway.queue journal
    health := { gateway.health with awaiting := false, missed := 0 }
    pending := gateway.queue.foldl (CallTable.write gateway.generation) gateway.pending
    queue := []
    ledger := ledger
    startupTrigger := none }

/-- The first gateway is where the second one, whose process has not answered yet, will be once
it has, as long as writes succeed. -/
structure IsAhead (setup : Setup) (ready waiting : Gateway) : Prop where
  starting : waiting.state = .starting
  succeed : ∀ outcome ∈ waiting.outside.writeOutcomes, outcome = none
  armed : ready.timers.rule? =
    Function.update (Function.update waiting.timers.rule? .startupDeadline none) .probeInterval
      (some (.every setup.settings.health.interval))
  rest : ready = waiting.caughtUp ready.timers ready.ledger ready.outside.journal

namespace IsAhead

theorem isReady (ahead : IsAhead setup ready waiting) : ready.state = .ready :=
  congrArg (·.state) ahead.rest

theorem outside (ahead : IsAhead setup ready waiting) :
    ready.outside = waiting.outside.afterWriting waiting.generation waiting.queue
      ready.outside.journal :=
  congrArg (·.outside) ahead.rest

/-! ### Single deeds -/

theorem note (ahead : IsAhead setup ready waiting) (level : LogLevel) (type : String)
    (payload payloadToo : List (String × Json)) :
    IsAhead setup (ready.note level type payload) (waiting.note level type payloadToo) := by
  refine ⟨ahead.starting, ahead.succeed, ahead.armed, ?_⟩
  rw [ahead.rest]
  rfl

theorem enter (ahead : IsAhead setup ready waiting) (deed : Deed) :
    IsAhead setup (ready.enter deed) (waiting.enter deed) := by
  refine ⟨ahead.starting, ahead.succeed, ahead.armed, ?_⟩
  rw [ahead.rest]
  rfl

theorem tell (ahead : IsAhead setup ready waiting) (line : String) :
    IsAhead setup (ready.tell line) (waiting.tell line) := by
  have outcomes : (waiting.tell line).outside.writeOutcomes = waiting.outside.writeOutcomes := by
    cases fails : waiting.outside.replyOutcomes.next <;>
      simp [Gateway.tell, Outside.reply, Outside.note, fails]
  refine ⟨ahead.starting, outcomes ▸ ahead.succeed, ahead.armed, ?_⟩
  rw [ahead.rest]
  cases fails : waiting.outside.replyOutcomes.next <;>
    simp [Gateway.tell, Outside.reply, caughtUp, Outside.afterWriting, Gateway.enter,
      withExchange, Exchange.enter, Outside.note, fails]

theorem schedule (ahead : IsAhead setup ready waiting) (id : RequestId) (rule : TimerRule) :
    IsAhead setup (ready.withHost (ready.toHost.schedule (.callDeadline id) rule))
      (waiting.withHost (waiting.toHost.schedule (.callDeadline id) rule)) := by
  refine ⟨ahead.starting, ahead.succeed, ?_, ?_⟩
  · have startup : Timer.startupDeadline ≠ .callDeadline id := by simp
    have interval : Timer.probeInterval ≠ .callDeadline id := by simp
    simp only [withHost, Host.schedule, TimerTable.rule?_schedule, ahead.armed]
    rw [Function.update_comm interval, Function.update_comm startup]
  · rw [ahead.rest]
    rfl

theorem record (ahead : IsAhead setup ready waiting) (message : ClientMessage) :
    IsAhead setup (ready.record setup message) (waiting.record setup message) := by
  cases derived : derivedAction? setup message with
  | none =>
      rw [record_none derived, record_none derived]
      exact ahead
  | some action =>
      obtain ⟨journal, recorded⟩ := record_some ready derived
      obtain ⟨journalToo, recordedToo⟩ := record_some waiting derived
      rw [recorded, recordedToo]
      refine ⟨ahead.starting, ahead.succeed, ahead.armed, ?_⟩
      rw [ahead.rest]
      rfl

theorem passOn (ahead : IsAhead setup ready waiting) (entry : QueuedRequest) :
    IsAhead setup (ready.passOn setup entry) (waiting.passOn setup entry) := by
  have unready : waiting.state ≠ .ready := by simp [ahead.starting]
  have success : ready.outside.writeOutcomes.next = none := by
    rw [ahead.outside]
    exact Outcomes.next_of_success fun outcome listed =>
      ahead.succeed outcome (List.mem_of_mem_drop listed)
  rw [passOn_waiting entry unready, passOn_success setup ready entry ahead.isReady success]
  refine ⟨ahead.starting, ahead.succeed, ahead.armed, ?_⟩
  rw [ahead.rest]
  simp only [caughtUp, Outside.afterWriting, List.foldl_append, List.foldl_cons, List.foldl_nil,
    List.map_append, List.map_cons, List.map_nil, List.append_assoc, List.length_append,
    List.length_cons, List.length_nil, Outcomes.later, List.tail_drop]

/-! ### Messages of the client -/

/-- The emitter is given the same, with the same outcome. -/
theorem emission (ahead : IsAhead setup ready waiting) :
    ready.emission setup = waiting.emission setup ∧
      ready.emissionReport setup = waiting.emissionReport setup ∧
      ((ready.emission setup).emit setup.launch ready.outside).2.files =
        ((waiting.emission setup).emit setup.launch waiting.outside).2.files := by
  have given : ready.emission setup = waiting.emission setup := by
    rw [ahead.rest]
    rfl
  have ends := (waiting.emission setup).emit_congr setup.launch waiting.outside ready.outside
    (by rw [ahead.outside]; rfl) (by rw [ahead.outside]; rfl) (by rw [ahead.outside]; rfl)
  unfold emissionReport
  rw [given]
  exact ⟨rfl, ends⟩

theorem generateScript (ahead : IsAhead setup ready waiting) (id : Option RequestId) :
    IsAhead setup (ready.generateScript setup id) (waiting.generateScript setup id) := by
  obtain ⟨journal, generated⟩ := ready.generateScript_eq setup id
  obtain ⟨journalToo, generatedToo⟩ := waiting.generateScript_eq setup id
  obtain ⟨given, report, files⟩ := ahead.emission
  have emitted : IsAhead setup (ready.afterEmission setup journal)
      (waiting.afterEmission setup journalToo) := by
    refine ⟨ahead.starting, ahead.succeed, ahead.armed, ?_⟩
    unfold afterEmission
    rw [report, files, given, ahead.rest]
    rfl
  rw [generated, generatedToo, report]
  cases id with
  | none => exact emitted
  | some id => exact emitted.tell _

theorem forward (ahead : IsAhead setup ready waiting) (message : ClientMessage) :
    IsAhead setup (ready.forward setup message) (waiting.forward setup message) := by
  rw [forward_running message (by simp [ahead.isReady]),
    forward_running message (by simp [ahead.starting])]
  unfold forwardStarted accept
  cases request : message.answerId with
  | none =>
      have recorded := ahead.record message
      exact ((recorded.note _ _ _ _).enter _).passOn _
  | some id =>
      have recorded := (ahead.enter (.accepted id)).record message
      exact (((recorded.schedule id _).note _ _ _ _).enter _).passOn _

/-- An identifier is refused if a call with it is pending or waits, and both count alike. -/
theorem idRefusal (ahead : IsAhead setup ready waiting) (id : RequestId) :
    ready.idRefusal setup id = waiting.idRefusal setup id := by
  have inFlight : (ready.toExchange.isPending id || RequestQueue.contains ready.queue id) =
      (waiting.toExchange.isPending id || RequestQueue.contains waiting.queue id) := by
    rw [ahead.rest]
    simp only [Exchange.isPending, caughtUp, CallTable.isSome_find?_foldl_write]
    exact Bool.or_false _
  unfold Gateway.idRefusal
  rw [inFlight]

theorem acceptMessage (ahead : IsAhead setup ready waiting) (message : ClientMessage) :
    IsAhead setup (ready.acceptMessage setup message) (waiting.acceptMessage setup message) := by
  unfold Gateway.acceptMessage
  split
  · exact ahead.generateScript message.id
  · exact ahead.forward message

theorem handleClientLine (ahead : IsAhead setup ready waiting) (line : String) :
    IsAhead setup (ready.handleClientLine setup line) (waiting.handleClientLine setup line) := by
  unfold Gateway.handleClientLine
  split
  · exact ahead
  · split
    · exact (ahead.note _ _ _ _).tell _
    · unfold handleMessage
      split
      · exact ahead.acceptMessage _
      · rw [ahead.idRefusal]
        split
        · exact ahead.acceptMessage _
        · exact (ahead.note _ _ _ _).tell _

end IsAhead

/-- A gateway is ahead of itself by the answer to a probe. -/
theorem isAhead_of_answer {line : String} {id : RequestId} {message : ServiceMessage}
    (isResponse : ServiceMessage.response? line = some (id, message))
    (isProbe : Exchange.isProbeId setup id = true) (starting : waiting.state = .starting)
    (succeed : ∀ outcome ∈ waiting.outside.writeOutcomes, outcome = none) :
    IsAhead setup (waiting.handleServiceOutput setup line) waiting := by
  let woken : Gateway :=
    { waiting with
      state := .ready
      timers := (waiting.timers.cancel .startupDeadline).schedule .probeInterval
        (.every setup.settings.health.interval)
      outside := waiting.outside.note .info "service.ready"
        [("generation", .ofNat waiting.generation)]
      health := { waiting.health with awaiting := false, missed := 0 }
      startupTrigger := none }
  have woke : waiting.toExchange.onProbeResponse setup = (true, woken.toExchange) := by
    have marked : waiting.toExchange.resetHealth.toHost.markReady =
        { waiting.toHost with state := .ready } := by
      have same : waiting.toExchange.resetHealth.toHost.state = .starting := starting
      simp only [Host.markReady, same]
      rfl
    simp only [Exchange.onProbeResponse, starting, marked]
    rfl
  have drained : waiting.handleServiceOutput setup line =
      woken.passOnWaiting setup waiting.queue.length := by
    have same : (waiting.withExchange waiting.toExchange).toExchange = waiting.toExchange := rfl
    simp only [handleServiceOutput, Exchange.classify_probe _ isResponse isProbe, same, woke,
      if_true]
    exact drainQueue_eq setup woken
  obtain ⟨ledger, passed⟩ := passOnWaiting_success setup woken waiting.queue rfl succeed
  have caught : waiting.handleServiceOutput setup line =
      waiting.caughtUp woken.timers ledger woken.outside.journal := drained.trans passed
  refine ⟨starting, succeed, ?_, ?_⟩
  · rw [caught]
    exact (TimerTable.rule?_schedule _ _ _).trans
      (congrArg (Function.update · .probeInterval _) (TimerTable.rule?_cancel _ _))
  · rw [caught]
    rfl

/-! ## Two ways to the same place -/

/-- The steps in which lines of the client come. -/
def clientSteps (lines : List String) : List Step :=
  lines.map fun line => .event (.clientLine line)

theorem IsAhead.run (ahead : IsAhead setup ready waiting) (lines : List String) :
    IsAhead setup (ready.run setup (clientSteps lines))
        (waiting.run setup (clientSteps lines)) ∧
      (waiting.run setup (clientSteps lines)).generation = waiting.generation := by
  induction lines generalizing ready waiting with
  | nil => exact ⟨ahead, rfl⟩
  | cons line lines ih =>
      obtain ⟨later, same⟩ := ih (ahead.handleClientLine line)
      exact ⟨later, same.trans (generation_handleClientLine line ahead.starting)⟩

theorem step_serviceOutput_running (setup : Setup) {gateway : Gateway} (line : String)
    (running : gateway.state ≠ .noProcess) :
    gateway.step setup (.event (.serviceOutput gateway.generation line)) =
      gateway.handleServiceOutput setup line := by
  have current : gateway.isCurrent gateway.generation = true :=
    Host.isCurrent_iff.mpr ⟨running, rfl⟩
  simp only [step, handleEvent, onServiceOutput, current, if_true]

/-- Two gateways agree in everything but the journal, the ledger, and the order in which
their timers were armed. -/
structure IsAlike (first second : Gateway) : Prop where
  armed : first.timers.rule? = second.timers.rule?
  rest : first =
    { second with
      timers := first.timers
      ledger := first.ledger
      outside := { second.outside with journal := first.outside.journal } }

theorem IsAhead.isAlike {first second : Gateway} (ahead : IsAhead setup first waiting)
    (aheadToo : IsAhead setup second waiting) : IsAlike first second := by
  refine ⟨ahead.armed.trans aheadToo.armed.symm, ?_⟩
  rw [ahead.rest, aheadToo.rest]
  rfl

/-- It makes no difference whether the process answers a probe before or after messages of the
client have come, as long as they can be written. -/
theorem waiting_leads_where_writing_leads (setup : Setup) (gateway : Gateway)
    (lines : List String) (answer : String) (starting : gateway.state = .starting)
    (answers : AnswersProbe setup answer)
    (succeed : ∀ outcome ∈ gateway.outside.writeOutcomes, outcome = none) :
    let answered := Step.event (.serviceOutput gateway.generation answer)
    let waited := gateway.run setup (clientSteps lines ++ [answered])
    let written := gateway.run setup (answered :: clientSteps lines)
    IsAlike written waited ∧ waited.queue = [] ∧ waited.state = .ready := by
  intro answered waited written
  obtain ⟨id, message, isResponse, isProbe⟩ := answersProbe_iff.mp answers
  have first : gateway.step setup answered = gateway.handleServiceOutput setup answer :=
    step_serviceOutput_running setup answer (by simp [starting])
  have ahead := isAhead_of_answer isResponse isProbe starting succeed
  obtain ⟨later, same⟩ := ahead.run lines
  have last : waited =
      (gateway.run setup (clientSteps lines)).handleServiceOutput setup answer := by
    have final := step_serviceOutput_running setup answer
      (by simp [later.starting] : (gateway.run setup (clientSteps lines)).state ≠ .noProcess)
    rw [same] at final
    exact (run_append setup gateway (clientSteps lines) [answered]).trans final
  have caught := isAhead_of_answer isResponse isProbe later.starting later.succeed
  rw [← last] at caught
  rw [← first] at later
  exact ⟨later.isAlike caught, congrArg (·.queue) caught.rest, caught.isReady⟩

theorem waiting_leads_where_writing_leads_once :
    let setup : Setup := { launch := ⟨"npx", [], none⟩ }
    let gateway : Gateway := { state := .starting, generation := 1 }
    let answered :=
      Step.event (.serviceOutput gateway.generation "\x7b\"id\":\"health_check_1\"\x7d")
    let messages := clientSteps ["\x7b\"id\":1,\"method\":\"page/content\"\x7d", "\x7b"]
    let waited := gateway.run setup (messages ++ [answered])
    let written := gateway.run setup (answered :: messages)
    IsAlike written waited ∧ waited.queue = [] ∧ waited.state = .ready :=
  waiting_leads_where_writing_leads { launch := ⟨"npx", [], none⟩ }
    { state := .starting, generation := 1 }
    ["\x7b\"id\":1,\"method\":\"page/content\"\x7d", "\x7b"]
    "\x7b\"id\":\"health_check_1\"\x7d" rfl
    ⟨[("id", .string "health_check_1")], "health_check_1", by cbv, rfl, by decide,
      by simp [List.lookup_cons]⟩
    (by simp)

end Gateway

end BrowserRelay
