import BrowserRelay.Proofs.Answers

/-!
# Telling who was refused too often

A message that could not be written too often is given up.  If it is a request, it is answered
before anything else is accepted, with the failure of its last write.
-/

namespace BrowserRelay

/-- Every write that will fail fails as a write to the service does. -/
def Outside.FailsAsWrite (outside : Outside) : Prop :=
  ∀ failure, some failure ∈ outside.writeOutcomes → ∃ detail, failure = .serviceWrite detail

/-- It is not a failure to write a message. -/
def Deed.isUnrefused : Deed → Bool
  | refused _ _ => false
  | _ => true

/-- A request that was refused too often is answered with a failure to write, before another with
its identifier is accepted. -/
def TellsRefused (limit : Nat) (deeds : List Deed) : Prop :=
  ∀ earlier generation entry since id, deeds = earlier ++ .refused generation entry :: since →
    limit ≤ entry.attempts → entry.id = some id →
      ∃ others detail later,
        since = others ++ .answered id (.failed (.serviceWrite detail)) :: later ∧
          .accepted id ∉ others

theorem unrefused_failures (ids : List RequestId) (failure : Failure) :
    ∀ deed ∈ ids.map fun id => Deed.answered id (.failed failure), deed.isUnrefused = true := by
  intro deed listed
  obtain ⟨id, -, rfl⟩ := List.mem_map.mp listed
  rfl

namespace TellsRefused

variable {limit : Nat} {deeds : List Deed}

theorem of_unrefused (unrefused : ∀ deed ∈ deeds, deed.isUnrefused = true) :
    TellsRefused limit deeds := by
  rintro earlier generation entry since id rfl
  have own := unrefused (.refused generation entry) (by simp)
  simp [Deed.isUnrefused] at own

theorem append {further : List Deed} (tells : TellsRefused limit deeds)
    (tellsToo : TellsRefused limit further) : TellsRefused limit (deeds ++ further) := by
  intro earlier generation entry since id split tooOften request
  rcases List.append_eq_append_iff.mp split with ⟨middle, rfl, rest⟩ | ⟨middle, own, rest⟩
  · exact tellsToo middle generation entry since id rest tooOften request
  · cases middle with
    | nil => exact tellsToo [] generation entry since id rest.symm tooOften request
    | cons first behind =>
        obtain ⟨rfl, rfl⟩ := List.cons.inj rest
        obtain ⟨others, detail, later, rfl, unaccepted⟩ :=
          tells earlier generation entry behind id own tooOften request
        exact ⟨others, detail, later ++ further, by simp, unaccepted⟩

/-- A message that is refused is told so, if it was refused too often. -/
theorem refused {generation : Nat} {entry : QueuedRequest}
    (unrefused : ∀ deed ∈ deeds, deed.isUnrefused = true)
    (tells : limit ≤ entry.attempts → ∀ id, entry.id = some id → ∃ others detail later,
      deeds = others ++ .answered id (.failed (.serviceWrite detail)) :: later ∧
        .accepted id ∉ others) :
    TellsRefused limit (.refused generation entry :: deeds) := by
  intro earlier other waiting since id split tooOften request
  cases earlier with
  | nil =>
      obtain ⟨same, rfl⟩ := List.cons.inj split
      obtain ⟨-, rfl⟩ := Deed.refused.inj same
      exact tells tooOften id request
  | cons first earlier =>
      obtain ⟨-, rest⟩ := List.cons.inj split
      exact of_unrefused unrefused earlier other waiting since id rest tooOften request

end TellsRefused

/-! ## The coming outcomes of writes -/

theorem Outcomes.mem_of_next {outcomes : Outcomes} {failure : Failure}
    (next : outcomes.next = some failure) : some failure ∈ outcomes := by
  cases outcomes with
  | nil => simp [Outcomes.next] at next
  | cons first rest =>
      obtain rfl : first = some failure := by simpa [Outcomes.next] using next
      exact List.mem_cons_self

theorem Outside.writeOutcomes_reply (outside : Outside) (line : String) :
    (outside.reply line).writeOutcomes = outside.writeOutcomes := by
  unfold reply
  split <;> rfl

theorem Outside.Serves.fewer {before after : Outside} (serves : before.Serves after) :
    after.writeOutcomes ⊆ before.writeOutcomes :=
  serves.outcomes.subset

/-! ## Exchanges -/

namespace Exchange

variable {setup : Setup} {before after exchange : Exchange}

/-- Writes will fail as they do, and those who were refused too often were told. -/
structure IsCandid (setup : Setup) (exchange : Exchange) : Prop where
  outcomes : exchange.outside.FailsAsWrite
  ledger : TellsRefused setup.settings.service.maxWriteRetries exchange.ledger

namespace IsCandid

theorem grow {deeds : List Deed} (candid : before.IsCandid setup)
    (ledger : after.ledger = before.ledger ++ deeds)
    (unrefused : ∀ deed ∈ deeds, deed.isUnrefused = true)
    (outcomes : after.outside.writeOutcomes ⊆ before.outside.writeOutcomes) :
    after.IsCandid setup where
  outcomes failure coming := candid.outcomes failure (outcomes coming)
  ledger := by
    rw [ledger]
    exact candid.ledger.append (.of_unrefused unrefused)

theorem keep (candid : before.IsCandid setup) (ledger : after.ledger = before.ledger)
    (outcomes : after.outside.writeOutcomes ⊆ before.outside.writeOutcomes) :
    after.IsCandid setup where
  outcomes failure coming := candid.outcomes failure (outcomes coming)
  ledger := by
    rw [ledger]
    exact candid.ledger

theorem same (candid : before.IsCandid setup) (ledger : after.ledger = before.ledger)
    (outcomes : after.outside.writeOutcomes = before.outside.writeOutcomes) :
    after.IsCandid setup :=
  candid.keep ledger (by rw [outcomes]; exact List.Subset.refl _)

theorem deed {deed : Deed} (candid : before.IsCandid setup)
    (ledger : after.ledger = before.ledger ++ [deed]) (unrefused : deed.isUnrefused = true)
    (outcomes : after.outside.writeOutcomes = before.outside.writeOutcomes) :
    after.IsCandid setup :=
  candid.grow ledger (List.forall_mem_singleton.mpr unrefused)
    (by rw [outcomes]; exact List.Subset.refl _)

/-- Answers refuse nobody. -/
theorem failures {ids : List RequestId} {failure : Failure} (candid : before.IsCandid setup)
    (ledger : after.ledger = before.ledger ++ ids.map fun id => .answered id (.failed failure))
    (outcomes : after.outside.writeOutcomes = before.outside.writeOutcomes) :
    after.IsCandid setup := by
  refine candid.grow ledger ?_ (by rw [outcomes]; exact List.Subset.refl _)
  exact unrefused_failures ids failure

/-- Someone is refused, and told so if it was too often. -/
theorem refuse {generation : Nat} {entry : QueuedRequest} {deeds : List Deed}
    (candid : before.IsCandid setup)
    (ledger : after.ledger = before.ledger ++ .refused generation entry :: deeds)
    (unrefused : ∀ deed ∈ deeds, deed.isUnrefused = true)
    (tells : setup.settings.service.maxWriteRetries ≤ entry.attempts → ∀ id, entry.id = some id → ∃ others detail later,
      deeds = others ++ .answered id (.failed (.serviceWrite detail)) :: later ∧
        .accepted id ∉ others)
    (outcomes : after.outside.writeOutcomes ⊆ before.outside.writeOutcomes) :
    after.IsCandid setup where
  outcomes failure coming := candid.outcomes failure (outcomes coming)
  ledger := by
    rw [ledger]
    exact candid.ledger.append (.refused unrefused tells)

end IsCandid

theorem IsCandid.start (candid : exchange.IsCandid setup) :
    (exchange.withHost (exchange.toHost.start setup).2).IsCandid setup :=
  candid.keep rfl (exchange.toHost.serves_start setup).fewer

theorem IsCandid.sendProbe (candid : exchange.IsCandid setup) (demoted : Bool) :
    (exchange.sendProbe setup demoted).2.IsCandid setup := by
  have fewer := (exchange.serves_sendProbe setup demoted).fewer
  unfold Exchange.sendProbe at fewer ⊢
  dsimp only at fewer ⊢
  split
  case h_1 failure host failed =>
    rw [failed] at fewer
    exact candid.keep rfl fewer
  case h_2 host done =>
    rw [done] at fewer
    exact candid.grow rfl (List.forall_mem_singleton.mpr rfl) fewer

theorem IsCandid.countMissed (candid : exchange.IsCandid setup) :
    (exchange.countMissed setup).2.IsCandid setup :=
  candid.keep (exchange.ledger_countMissed setup) (exchange.serves_countMissed setup).fewer

theorem IsCandid.probe (candid : exchange.IsCandid setup) :
    (exchange.probe setup).2.IsCandid setup := by
  have started := candid.start
  unfold Exchange.probe
  split
  · exact candid.countMissed.sendProbe _
  · split
    all_goals
      rename_i result
      rwa [result] at started

theorem IsCandid.onProbeResponse (candid : exchange.IsCandid setup) :
    (exchange.onProbeResponse setup).2.IsCandid setup :=
  candid.keep (exchange.ledger_onProbeResponse setup) (exchange.serves_onProbeResponse setup).fewer

theorem IsCandid.classify (candid : exchange.IsCandid setup) (line : String) :
    (exchange.classify setup line).2.IsCandid setup := by
  unfold Exchange.classify
  split
  · exact candid
  · dsimp only
    split
    · split
      · exact candid
      · split
        · exact candid.same rfl rfl
        · split
          · exact candid.same rfl rfl
          · exact candid
    · exact candid

end Exchange

/-! ## Gateways -/

namespace Gateway

variable {setup : Setup} {gateway : Gateway}

/-- Writes will fail as they do, and those who were refused too often were told. -/
abbrev IsCandid (setup : Setup) (gateway : Gateway) : Prop := gateway.toExchange.IsCandid setup

theorem isCandid_withExchange {exchange : Exchange} (candid : exchange.IsCandid setup) :
    (gateway.withExchange exchange).IsCandid setup :=
  candid

theorem writeOutcomes_failCall (gateway : Gateway) (id : RequestId) (failure : Failure) :
    (gateway.failCall id failure).outside.writeOutcomes = gateway.outside.writeOutcomes :=
  gateway.outside.writeOutcomes_reply _

theorem writeOutcomes_failCalls (gateway : Gateway) (calls : List PendingCall)
    (failure : Failure) :
    (gateway.failCalls calls failure).outside.writeOutcomes = gateway.outside.writeOutcomes := by
  induction calls generalizing gateway with
  | nil => rfl
  | cons call calls ih =>
      exact (ih (gateway.failCall call.id failure)).trans
        (gateway.writeOutcomes_failCall call.id failure)

theorem writeOutcomes_failEntries (gateway : Gateway) (entries : List QueuedRequest)
    (failure : Failure) :
    (gateway.failEntries entries failure).outside.writeOutcomes =
      gateway.outside.writeOutcomes := by
  induction entries generalizing gateway with
  | nil => rfl
  | cons entry entries ih =>
      rw [failEntries, List.foldl_cons]
      cases entry.id with
      | none => exact ih gateway
      | some id => exact (ih _).trans (gateway.writeOutcomes_failCall id failure)

theorem writeOutcomes_failQueued (gateway : Gateway) (failure : Failure) :
    (gateway.failQueued failure).outside.writeOutcomes = gateway.outside.writeOutcomes := by
  unfold failQueued
  dsimp only
  split
  · rfl
  · exact writeOutcomes_failEntries _ gateway.queue failure

theorem writeOutcomes_settle (gateway : Gateway) (outcome : Exchange.DispatchOutcome) :
    (gateway.settle outcome).outside.writeOutcomes = gateway.outside.writeOutcomes := by
  cases outcome with
  | queued => rfl
  | sent => rfl
  | retrying orphaned => exact gateway.resetHealth.writeOutcomes_failCalls orphaned _
  | respawnFailed failure orphaned =>
      exact (writeOutcomes_failQueued _ failure).trans
        (gateway.resetHealth.writeOutcomes_failCalls orphaned _)
  | abandoned entry failure orphaned =>
      have others := gateway.resetHealth.writeOutcomes_failCalls orphaned failure
      unfold settle
      dsimp only
      split
      · exact others
      · exact (writeOutcomes_failCall _ _ failure).trans others

theorem writeOutcomes_passOn (setup : Setup) (gateway : Gateway) (entry : QueuedRequest) :
    (gateway.passOn setup entry).outside.writeOutcomes ⊆ gateway.outside.writeOutcomes := by
  have settled := (gateway.withExchange (gateway.toExchange.dispatch setup entry).2).writeOutcomes_settle
    (gateway.toExchange.dispatch setup entry).1
  have passed : (gateway.passOn setup entry).outside.writeOutcomes =
      (gateway.toExchange.dispatch setup entry).2.outside.writeOutcomes := settled
  rw [passed]
  exact (gateway.toExchange.serves_dispatch setup entry).fewer

namespace IsCandid

theorem failQueued (candid : gateway.IsCandid setup) (failure : Failure) :
    (gateway.failQueued failure).IsCandid setup :=
  candid.failures (congrArg Traffic.ledger (gateway.traffic_failQueued failure))
    (gateway.writeOutcomes_failQueued failure)

theorem failCalls (candid : gateway.IsCandid setup) (calls : List PendingCall)
    (failure : Failure) : (gateway.failCalls calls failure).IsCandid setup :=
  candid.failures (congrArg Traffic.ledger (gateway.traffic_failCalls calls failure))
    (gateway.writeOutcomes_failCalls calls failure)

theorem tell (candid : gateway.IsCandid setup) (line : String) :
    (gateway.tell line).IsCandid setup :=
  candid.deed rfl rfl (gateway.outside.writeOutcomes_reply line)

theorem answer (candid : gateway.IsCandid setup) (id : RequestId) (answer : Answer) :
    (gateway.answer id answer).IsCandid setup :=
  candid.deed rfl rfl (gateway.outside.writeOutcomes_reply _)

theorem startService (candid : gateway.IsCandid setup) :
    (gateway.startService setup).2.IsCandid setup := by
  have started := Exchange.IsCandid.start candid
  unfold Gateway.startService
  split
  all_goals
    rename_i result
    rw [result] at started
    exact Exchange.IsCandid.same started rfl rfl

theorem ensureStarted (candid : gateway.IsCandid setup)
    (trigger : Option RequestId) : (gateway.ensureStarted setup trigger).2.IsCandid setup := by
  have started := candid.startService
  unfold Gateway.ensureStarted
  split
  · exact candid
  · split
    all_goals
      rename_i result
      rw [result] at started
      exact started

/-- A message that is refused too often is answered in the course of passing it on. -/
theorem passOn (candid : gateway.IsCandid setup) (entry : QueuedRequest) :
    (gateway.passOn setup entry).IsCandid setup := by
  have fewer := gateway.writeOutcomes_passOn setup entry
  by_cases unready : gateway.state ≠ .ready
  · have waits := congrArg Traffic.ledger (gateway.traffic_passOn_waiting setup entry unready)
    exact candid.keep waits fewer
  have ready : gateway.state = .ready := not_not.mp unready
  cases outcome : gateway.outside.writeOutcomes.next with
  | none =>
      have passed := congrArg Traffic.ledger (gateway.passOn_written setup entry ready outcome).1
      exact candid.grow passed (List.forall_mem_singleton.mpr rfl) fewer
  | some failure =>
      obtain ⟨detail, rfl⟩ := candid.outcomes failure (Outcomes.mem_of_next outcome)
      let orphans := (gateway.traffic.refuse entry).release.presentIds
      let failures (ids : List RequestId) (failure : Failure) : List Deed :=
        ids.map fun id => .answered id (.failed failure)
      let refused := gateway.ledger ++ [.refused gateway.generation entry]
      rcases gateway.traffic_passOn_refused setup entry ready outcome with
        ⟨tooOften, passed⟩ | ⟨again, passed⟩
      · have ledger : (gateway.passOn setup entry).ledger =
            refused ++ failures orphans (.serviceWrite detail) ++
              failures entry.id.toList (.serviceWrite detail) := congrArg Traffic.ledger passed
        simp only [refused, List.append_assoc, List.singleton_append] at ledger
        refine candid.refuse ledger ?_ ?_ fewer
        · exact List.forall_mem_append.mpr ⟨unrefused_failures _ _, unrefused_failures _ _⟩
        · intro _ id request
          refine ⟨failures orphans (.serviceWrite detail), detail, [], by simp [failures, request], ?_⟩
          simp [failures]
      · have kept : ∃ deeds, (gateway.passOn setup entry).ledger = refused ++ deeds ∧
            ∀ deed ∈ deeds, deed.isUnrefused = true := by
          rcases passed with passed | ⟨respawn, passed⟩
          · exact ⟨failures orphans connectionReset, congrArg Traffic.ledger passed,
              unrefused_failures _ _⟩
          · have ledger : (gateway.passOn setup entry).ledger =
                refused ++ failures orphans connectionReset ++
                  failures (({ entry with attempts := entry.attempts + 1 } ::
                    gateway.queue).filterMap QueuedRequest.id) respawn :=
              congrArg Traffic.ledger passed
            refine ⟨_, ledger.trans (List.append_assoc _ _ _), ?_⟩
            exact List.forall_mem_append.mpr ⟨unrefused_failures _ _, unrefused_failures _ _⟩
        obtain ⟨deeds, ledger, unrefused⟩ := kept
        simp only [refused, List.append_assoc, List.singleton_append] at ledger
        refine candid.refuse ledger unrefused (fun tooOften => ?_) fewer
        omega

theorem passOnWaiting (candid : gateway.IsCandid setup) (count : Nat) :
    (gateway.passOnWaiting setup count).IsCandid setup := by
  induction count generalizing gateway with
  | zero => exact candid
  | succ count ih =>
      unfold Gateway.passOnWaiting
      split
      · split
        · exact candid
        · rename_i entry rest _
          have rested : ({ gateway with queue := rest } : Gateway).IsCandid setup :=
            candid.same rfl rfl
          exact ih (rested.passOn entry)
      · exact candid

theorem drainQueue (candid : gateway.IsCandid setup) : (gateway.drainQueue setup).IsCandid setup := by
  rw [drainQueue_eq]
  exact candid.passOnWaiting _

/-! ### Lines of the client -/

theorem generateScript (candid : gateway.IsCandid setup) (id : Option RequestId) :
    (gateway.generateScript setup id).IsCandid setup := by
  obtain ⟨journal, generated⟩ := gateway.generateScript_eq setup id
  have emitted : (gateway.afterEmission setup journal).IsCandid setup := candid.same rfl rfl
  rw [generated]
  cases id with
  | none => exact emitted
  | some id => exact emitted.tell _

theorem forward (candid : gateway.IsCandid setup) (message : ClientMessage) :
    (gateway.forward setup message).IsCandid setup := by
  have accepted : (gateway.accept message).IsCandid setup := by
    unfold accept
    split
    · exact candid
    · exact candid.deed rfl rfl rfl
  have started := accepted.ensureStarted message.answerId
  unfold Gateway.forward
  dsimp only
  split
  case h_1 failure unstarted result =>
    rw [result] at started
    apply failQueued
    split
    · exact started
    · exact started.answer _ _
  case h_2 later result =>
    rw [result] at started
    apply passOn
    have recorded : (later.record setup message).IsCandid setup :=
      started.same (congrArg Traffic.ledger (traffic_record setup later message))
        (writeOutcomes_record setup later message)
    split <;> exact recorded.deed rfl rfl rfl

theorem acceptMessage (candid : gateway.IsCandid setup) (message : ClientMessage) :
    (gateway.acceptMessage setup message).IsCandid setup := by
  unfold Gateway.acceptMessage
  split
  · exact candid.generateScript message.id
  · exact candid.forward message

theorem handleClientLine (candid : gateway.IsCandid setup) (line : String) :
    (gateway.handleClientLine setup line).IsCandid setup := by
  have told (level : LogLevel) (type : String) (payload : List (String × Json)) (line : String) :
      ((gateway.note level type payload).tell line).IsCandid setup := by
    apply tell
    exact candid.same rfl rfl
  unfold Gateway.handleClientLine
  split
  · exact candid
  · split
    · exact told _ _ _ _
    · unfold handleMessage
      split
      · exact candid.acceptMessage _
      · split
        · exact candid.acceptMessage _
        · exact told _ _ _ _

/-! ### Lines and ends of processes, and timers -/

theorem handleServiceOutput (candid : gateway.IsCandid setup) (line : String) :
    (gateway.handleServiceOutput setup line).IsCandid setup := by
  have start : (gateway.withExchange (gateway.toExchange.classify setup line).2).IsCandid setup :=
    isCandid_withExchange (Exchange.IsCandid.classify candid line)
  unfold Gateway.handleServiceOutput
  generalize gateway.toExchange.classify setup line = classification at start ⊢
  obtain ⟨output, exchange⟩ := classification
  dsimp only at start ⊢
  generalize gateway.withExchange exchange = classified at start ⊢
  cases output with
  | probe =>
      have answered : (classified.withExchange
          (classified.toExchange.onProbeResponse setup).2).IsCandid setup :=
        isCandid_withExchange (Exchange.IsCandid.onProbeResponse start)
      dsimp only
      generalize classified.withExchange (classified.toExchange.onProbeResponse setup).2 =
        woken at answered ⊢
      split
      · apply drainQueue
        exact answered.same rfl rfl
      · exact answered
  | matched call message raw =>
      apply answer
      obtain ⟨page, journal, visited⟩ :=
        (classified.cancelDeadline call.id).exists_visit call.plan message
      rw [visited]
      exact start.same rfl rfl
  | unmatched raw => exact start.tell raw
  | late id => exact start.same rfl rfl
  | garbage failure => exact start.same rfl rfl

theorem failGeneration (candid : gateway.IsCandid setup) (generation : Nat) (detail : String) :
    (gateway.failGeneration generation detail).IsCandid setup := by
  apply failCalls
  exact candid.same rfl rfl

theorem onServiceExited (candid : gateway.IsCandid setup) (generation : Nat)
    (code : Option Int) : (gateway.onServiceExited setup generation code).IsCandid setup := by
  cases current : gateway.isCurrent generation with
  | false => rwa [onServiceExited_stale setup code current]
  | true =>
      rw [onServiceExited_current setup code current]
      apply failGeneration
      exact candid.keep rfl (gateway.toHost.serves_onExit setup generation code).fewer

theorem onServiceFailed (candid : gateway.IsCandid setup) (generation : Nat) (detail : String) :
    (gateway.onServiceFailed generation detail).IsCandid setup := by
  cases current : gateway.isCurrent generation with
  | false => rwa [onServiceFailed_stale detail current]
  | true =>
      rw [onServiceFailed_current detail current]
      apply failGeneration
      exact candid.keep rfl (gateway.toHost.serves_onFailed generation detail).fewer

theorem onProbeTimer (candid : gateway.IsCandid setup) :
    (gateway.onProbeTimer setup).IsCandid setup := by
  have probed := Exchange.IsCandid.probe candid
  unfold Gateway.onProbeTimer
  dsimp only
  split
  · exact probed.same rfl rfl
  · exact failQueued probed _
  · exact probed

theorem onStartupDeadline (candid : gateway.IsCandid setup) :
    (gateway.onStartupDeadline setup).IsCandid setup := by
  unfold Gateway.onStartupDeadline
  split
  · dsimp only
    split
    · exact candid.same rfl rfl
    · split
      · apply answer
        exact candid.same rfl rfl
      · exact candid.same rfl rfl
  · exact candid

theorem onRestart (candid : gateway.IsCandid setup) : (gateway.onRestart setup).IsCandid setup := by
  have started := Exchange.IsCandid.start candid
  unfold Gateway.onRestart
  split
  · exact candid
  · split
    · rename_i result
      rw [result] at started
      exact started.same rfl rfl
    · rename_i result
      rw [result] at started
      exact failQueued started _

theorem onCallDeadline (candid : gateway.IsCandid setup) (id : RequestId) :
    (gateway.onCallDeadline setup id).IsCandid setup := by
  unfold Gateway.onCallDeadline
  split
  · exact candid
  case h_2 taken result =>
    rw [takeExpired_eq result]
    apply answer
    exact candid.same rfl rfl

theorem onTimer (candid : gateway.IsCandid setup) (timer : Timer) :
    (gateway.onTimer setup timer).IsCandid setup := by
  cases timer with
  | firstProbe => exact candid.onProbeTimer
  | probeInterval => exact candid.onProbeTimer
  | startupDeadline => exact candid.onStartupDeadline
  | restart => exact candid.onRestart
  | callDeadline id => exact candid.onCallDeadline id
  | shutdownGrace => exact candid

theorem handleEvent (candid : gateway.IsCandid setup) (event : Event) :
    (gateway.handleEvent setup event).IsCandid setup := by
  cases event with
  | clientLine line => exact candid.handleClientLine line
  | clientClosed => exact candid
  | serviceOutput generation line =>
      rw [Gateway.handleEvent, onServiceOutput]
      split
      · exact candid.handleServiceOutput line
      · exact candid.same rfl rfl
  | serviceError generation line => exact candid.same rfl rfl
  | serviceExited generation code => exact candid.onServiceExited generation code
  | serviceFailed generation detail => exact candid.onServiceFailed generation detail
  | timer timer => exact candid.onTimer timer
  | shutdown => exact candid

end IsCandid

/-- Whenever the outcomes to come become others, every write that will fail fails as a write to
the service does. -/
def FailAsWrites (steps : List Step) : Prop :=
  ∀ other, .meanwhile other ∈ steps → other.FailsAsWrite

theorem IsCandid.step {step : Step} (candid : gateway.IsCandid setup)
    (faithful : FailAsWrites [step]) : (gateway.step setup step).IsCandid setup := by
  cases step with
  | start => exact candid.startService
  | event event => exact candid.handleEvent event
  | elapse timer =>
      unfold Gateway.step
      dsimp only
      split
      · exact candid
      · apply onTimer
        exact candid.same rfl rfl
  | meanwhile other =>
      exact ⟨faithful other List.mem_cons_self, candid.ledger⟩

theorem IsCandid.run {steps : List Step} (candid : gateway.IsCandid setup)
    (faithful : FailAsWrites steps) : (gateway.run setup steps).IsCandid setup := by
  induction steps generalizing gateway with
  | nil => exact candid
  | cons first steps ih =>
      obtain ⟨now, later⟩ : FailAsWrites [first] ∧ FailAsWrites steps :=
        ⟨fun other listed => faithful other (by simp_all), fun other listed =>
          faithful other (List.mem_cons_of_mem first listed)⟩
      exact ih (candid.step now) later

theorem writeOutcomes_initial (setup : Setup) (outside : Outside) :
    (initial setup outside).outside.writeOutcomes = outside.writeOutcomes := by
  unfold initial
  dsimp only
  split <;> rfl

/-- In every state that can be reached, the requests that were refused too often were told. -/
theorem isCandid_after (setup : Setup) {outside : Outside} (faithful : outside.FailsAsWrite)
    {steps : List Step} (faithfulLater : FailAsWrites steps) :
    (after setup outside steps).IsCandid setup := by
  have start : (initial setup outside).IsCandid setup := by
    constructor
    · rwa [Outside.FailsAsWrite, writeOutcomes_initial]
    · have nothing : (initial setup outside).ledger = [] :=
        congrArg Traffic.ledger (traffic_initial setup outside)
      rw [nothing]
      exact .of_unrefused (List.forall_mem_nil _)
  exact start.run faithfulLater

end Gateway

end BrowserRelay
