import BrowserRelay.Proofs.PassingOn
import BrowserRelay.Proofs.Tables
import Mathlib.Algebra.Group.Nat.Defs

/-!
# Draining the queue

Draining passes waiting messages on, one after the other, for as long as the service is ready.
Each message that is written leaves the queue for good, and the first that cannot be written ends
the readiness, so the loop stops after as many rounds as messages waited, at the latest.  What it
leaves depends on the place of the first failing write, on how often that message has failed, and
on whether another process can be started.
-/

namespace BrowserRelay

namespace Exchange

variable {setup : Setup} {exchange : Exchange}

/-! ## The loop -/

/-- Waiting messages are passed on one after the other, until the service is not ready or nobody
waits. -/
inductive Drains (setup : Setup) : Exchange → List DispatchOutcome → Exchange → Prop
  /-- The service is not ready, or nobody waits. -/
  | done {exchange : Exchange} (halted : exchange.isReady = false ∨ exchange.queue = []) :
      Drains setup exchange [] exchange
  /-- The message that has waited longest is passed on, and then the others. -/
  | next {exchange later last : Exchange} {entry : QueuedRequest} {rest : List QueuedRequest}
      {outcome : DispatchOutcome} {outcomes : List DispatchOutcome}
      (ready : exchange.isReady = true) (waiting : exchange.queue = entry :: rest)
      (passed : dispatch setup { exchange with queue := rest } entry = (outcome, later))
      (further : Drains setup later outcomes last) :
      Drains setup exchange (outcome :: outcomes) last

theorem isReady_iff : exchange.isReady = true ↔ exchange.state = .ready := by
  simp [Host.isReady]

theorem isReady_eq_false_iff : exchange.isReady = false ↔ exchange.state ≠ .ready := by
  simp [Host.isReady]

/-- The loop has one course. -/
theorem Drains.unique {last other : Exchange} {outcomes others : List DispatchOutcome}
    (drains : Drains setup exchange outcomes last) (also : Drains setup exchange others other) :
    others = outcomes ∧ other = last := by
  induction drains generalizing others other with
  | done halted =>
      cases also with
      | done => exact ⟨rfl, rfl⟩
      | next ready waiting => simp [ready, waiting] at halted
  | next ready waiting passed further ih =>
      cases also with
      | done halted => simp [ready, waiting] at halted
      | next ready' waiting' passed' further' =>
          obtain ⟨rfl, rfl⟩ := List.cons.inj (waiting.symm.trans waiting')
          obtain ⟨rfl, rfl⟩ := Prod.mk.inj (passed.symm.trans passed')
          obtain ⟨rfl, rfl⟩ := ih further'
          exact ⟨rfl, rfl⟩

/-- A message that is passed on to a service that stays ready has left the queue. -/
theorem queue_dispatch (setup : Setup) (entry : QueuedRequest) (ready : exchange.state = .ready)
    (stays : (exchange.dispatch setup entry).2.state = .ready) :
    (exchange.dispatch setup entry).2.queue = exchange.queue := by
  cases outcome : exchange.outside.writeOutcomes.next with
  | none =>
      obtain ⟨later, dispatched, same, -⟩ := dispatch_written setup entry ready outcome
      rw [dispatched]
      exact congrArg Traffic.queue same
  | some failure =>
      rcases exchange.dispatch_stops setup entry ready with ⟨later, sent⟩ | stopped
      · obtain ⟨refused, dispatched, -⟩ := dispatch_refused setup entry ready outcome
        rw [dispatched] at sent
        rcases refused.afterFailedWrite_cases setup entry failure with
          ⟨other, result, -⟩ | ⟨-, ⟨other, result, -⟩ | ⟨respawn, other, result, -⟩⟩
        all_goals simp [result] at sent
      · exact absurd stays stopped

/-- Every round takes a message out of the queue, or is the last. -/
theorem drains_drainUpTo (setup : Setup) (count : Nat) (exchange : Exchange)
    (enough : exchange.queue.length ≤ count) :
    Drains setup exchange (exchange.drainUpTo setup count).1 (exchange.drainUpTo setup count).2 ∧
      (exchange.drainUpTo setup count).1.length ≤ exchange.queue.length := by
  induction count generalizing exchange with
  | zero =>
      have nobody : exchange.queue = [] := List.eq_nil_of_length_eq_zero (Nat.le_zero.mp enough)
      exact ⟨.done (.inr nobody), Nat.zero_le _⟩
  | succ count ih =>
      by_cases unready : exchange.state ≠ .ready
      · rw [drainUpTo_unready setup _ unready]
        exact ⟨.done (.inl (isReady_eq_false_iff.mpr unready)), Nat.zero_le _⟩
      have ready : exchange.state = .ready := not_not.mp unready
      cases waiting : exchange.queue with
      | nil => simpa [drainUpTo, waiting] using Drains.done (.inr waiting)
      | cons entry rest =>
          rw [drainUpTo_cons setup _ ready waiting]
          cases dispatched : dispatch setup { exchange with queue := rest } entry with
          | mk outcome later =>
            rw [waiting, List.length_cons] at enough
            have left : later.state = .ready → later.queue = rest := by
              have stillReady : ({ exchange with queue := rest } : Exchange).state = .ready := ready
              have kept := queue_dispatch setup entry stillReady
              rwa [dispatched] at kept
            have further : Drains setup later (later.drainUpTo setup count).1
                  (later.drainUpTo setup count).2 ∧
                (later.drainUpTo setup count).1.length ≤ rest.length := by
              by_cases halted : later.state ≠ .ready
              · rw [drainUpTo_unready setup _ halted]
                exact ⟨.done (.inl (isReady_eq_false_iff.mpr halted)), Nat.zero_le _⟩
              · have remaining := left (not_not.mp halted)
                have result := ih later (by rw [remaining]; omega)
                rwa [remaining] at result
            exact ⟨.next (isReady_iff.mpr ready) waiting dispatched further.1,
              Nat.succ_le_succ further.2⟩

/-- The loop always comes to its end, after at most as many rounds as messages waited. -/
theorem drains_drain (setup : Setup) (exchange : Exchange) :
    Drains setup exchange (exchange.drain setup).1 (exchange.drain setup).2 ∧
      (exchange.drain setup).1.length ≤ exchange.queue.length :=
  drains_drainUpTo setup exchange.queue.length exchange (Nat.le_refl _)

/-! ## Messages that are written -/

/-- The calls that are made by writing messages to the process of a generation. -/
def callsOf (generation : Nat) (entries : List QueuedRequest) : List PendingCall :=
  entries.filterMap fun entry => entry.id.map fun id => ⟨id, entry.plan, generation⟩

/-- The exchange after messages from the head of its queue were written, one after the other. -/
def sendOff (exchange : Exchange) (sent behind : List QueuedRequest) : Exchange :=
  { exchange with
    pending := exchange.pending ++ callsOf exchange.generation sent
    queue := behind
    ledger := exchange.ledger ++ sent.map (.written exchange.generation)
    outside :=
      { exchange.outside with
        written := exchange.outside.written ++ sent.map fun entry =>
          ⟨exchange.generation, entry.line⟩
        writeOutcomes := exchange.outside.writeOutcomes.drop sent.length } }

theorem sendOff_nil (exchange : Exchange) : exchange.sendOff [] exchange.queue = exchange := by
  simp [sendOff, callsOf]

theorem sendOff_cons (exchange : Exchange) (entry : QueuedRequest)
    (sent behind : List QueuedRequest) :
    (exchange.sendOff [entry] (sent ++ behind)).sendOff sent behind =
      exchange.sendOff (entry :: sent) behind := by
  simp [sendOff, callsOf, List.filterMap_cons]
  cases entry.id <;> simp

/-- None of the requests among messages is pending, and no two have one identifier. -/
structure AreUnsent (exchange : Exchange) (entries : List QueuedRequest) : Prop where
  distinct : (entries.filterMap QueuedRequest.id).Nodup
  unsent : ∀ id ∈ entries.filterMap QueuedRequest.id, exchange.isPending id = false

theorem isPending_eq_false_iff {id : RequestId} :
    exchange.isPending id = false ↔ id ∉ exchange.pending.map PendingCall.id := by
  rw [isPending, Option.isSome_eq_false_iff, Option.isNone_iff_eq_none,
    CallTable.find?_eq_none_iff]

theorem AreUnsent.tail {entry : QueuedRequest} {rest : List QueuedRequest}
    (unsent : exchange.AreUnsent (entry :: rest)) :
    (exchange.sendOff [entry] rest).AreUnsent rest := by
  obtain ⟨distinct, unsent⟩ := unsent
  cases request : entry.id with
  | none =>
      simp only [List.filterMap_cons, request] at distinct unsent
      refine ⟨distinct, fun id listed => ?_⟩
      have before := isPending_eq_false_iff.mp (unsent id listed)
      exact isPending_eq_false_iff.mpr (by simpa [sendOff, callsOf, request] using before)
  | some own =>
      simp only [List.filterMap_cons, request] at distinct unsent
      obtain ⟨apart, distinct⟩ := List.nodup_cons.mp distinct
      refine ⟨distinct, fun id listed => ?_⟩
      have before := isPending_eq_false_iff.mp (unsent id (List.mem_cons_of_mem _ listed))
      have other : id ≠ own := fun same => apart (same ▸ listed)
      exact isPending_eq_false_iff.mpr (by simpa [sendOff, callsOf, request, other] using before)

theorem dispatch_sendOff (setup : Setup) {entry : QueuedRequest} {rest : List QueuedRequest}
    (ready : exchange.state = .ready) (success : exchange.outside.writeOutcomes.next = none)
    (unsent : exchange.AreUnsent (entry :: rest)) :
    dispatch setup { exchange with queue := rest } entry =
      (.sent, exchange.sendOff [entry] rest) := by
  have present : exchange.toHost.hasProcess = true := Host.hasProcess_iff.mpr (by simp [ready])
  have written : exchange.toHost.writeLine entry.line = (.ok (), { exchange.toHost with
      outside :=
        { exchange.outside with
          writeOutcomes := exchange.outside.writeOutcomes.later
          written := exchange.outside.written ++ [⟨exchange.generation, entry.line⟩] } }) := by
    simp only [Host.writeLine, present, if_true, Outside.writeLine, success]
  have added : ∀ id, entry.id = some id →
      CallTable.remove exchange.pending id = exchange.pending := by
    intro id request
    refine List.filter_eq_self.mpr fun call listed => ?_
    have fresh := isPending_eq_false_iff.mp (unsent.unsent id (by simp [request]))
    have other : call.id ≠ id := by
      rintro rfl
      exact fresh (List.mem_map_of_mem listed)
    simp [other]
  simp only [dispatch, isReady_iff.mpr ready, if_true, written]
  cases request : entry.id with
  | none => simp [addPending, request, sendOff, callsOf, enter, withHost, Outcomes.later]
  | some id =>
      simp [addPending, request, sendOff, callsOf, enter, withHost, Outcomes.later,
        CallTable.insert, added id request]

/-- The coming writes succeed, as many as given. -/
def WritesSucceed (exchange : Exchange) (count : Nat) : Prop :=
  ∀ index < count, Outcomes.next (exchange.outside.writeOutcomes.drop index) = none

theorem WritesSucceed.tail {entry : QueuedRequest} {rest : List QueuedRequest} {count : Nat}
    (succeed : exchange.WritesSucceed (count + 1)) :
    (exchange.sendOff [entry] rest).WritesSucceed count := by
  intro index less
  have later := succeed (index + 1) (by omega)
  simpa [sendOff, Nat.add_comm] using later

/-- Messages whose writes succeed leave the queue one after the other. -/
theorem Drains.sendOff {sent behind : List QueuedRequest} {outcomes : List DispatchOutcome}
    {last : Exchange} (ready : exchange.state = .ready) (waiting : exchange.queue = sent ++ behind)
    (succeed : exchange.WritesSucceed sent.length) (unsent : exchange.AreUnsent exchange.queue)
    (drains : Drains setup (exchange.sendOff sent behind) outcomes last) :
    Drains setup exchange (List.replicate sent.length .sent ++ outcomes) last := by
  induction sent generalizing exchange with
  | nil =>
      obtain rfl : exchange.queue = behind := waiting
      rwa [sendOff_nil] at drains
  | cons entry sent ih =>
      rw [waiting] at unsent
      rw [← sendOff_cons] at drains
      have passed := dispatch_sendOff setup ready (succeed 0 (Nat.zero_lt_succ _)) unsent
      exact .next (isReady_iff.mpr ready) waiting passed
        (ih ready rfl succeed.tail unsent.tail drains)

/-! ## A message that cannot be written -/

/-- The process is gone: it was killed, nothing more was written to it, and its calls are out of
the tables. -/
structure LosesProcess (exchange later : Exchange) : Prop where
  unready : later.state ≠ .ready
  pending : later.pending =
    exchange.pending.filter fun call => call.generation ≠ exchange.generation
  expired : later.expired =
    exchange.expired.filter fun call => call.generation ≠ exchange.generation
  killed : later.outside.killed = exchange.outside.killed ++ [exchange.generation]
  written : later.outside.written = exchange.outside.written

/-- What becomes of a message that could not be written, and of those behind it. -/
inductive Setback (setup : Setup) (exchange : Exchange) (entry : QueuedRequest)
    (behind : List QueuedRequest) (failure : Failure) (orphaned : List PendingCall) :
    DispatchOutcome → Exchange → Prop
  /-- It has failed too often and is given up. -/
  | abandoned {later : Exchange}
      (tooOften : setup.settings.service.maxWriteRetries ≤ entry.attempts)
      (gone : later.state = .noProcess) (generation : later.generation = exchange.generation)
      (queue : later.queue = behind) :
      Setback setup exchange entry behind failure orphaned
        (.abandoned { entry with attempts := entry.attempts + 1 } failure orphaned) later
  /-- It waits at the head of the queue for another process. -/
  | retrying {later : Exchange}
      (again : entry.attempts < setup.settings.service.maxWriteRetries)
      (launches : exchange.outside.launchOutcomes.next = none)
      (starting : later.state = .starting)
      (generation : later.generation = exchange.generation + 1)
      (queue : later.queue = { entry with attempts := entry.attempts + 1 } :: behind) :
      Setback setup exchange entry behind failure orphaned (.retrying orphaned) later
  /-- It waits at the head of the queue, but no other process can be started. -/
  | respawnFailed {later : Exchange} {respawn : Failure}
      (again : entry.attempts < setup.settings.service.maxWriteRetries)
      (fails : exchange.outside.launchOutcomes.next = some respawn)
      (gone : later.state = .noProcess)
      (generation : later.generation = exchange.generation + 1)
      (queue : later.queue = { entry with attempts := entry.attempts + 1 } :: behind) :
      Setback setup exchange entry behind failure orphaned (.respawnFailed respawn orphaned) later

theorem losesProcess_giveUp (running : exchange.state ≠ .noProcess) :
    exchange.LosesProcess exchange.giveUp.2 := by
  have lost := exchange.traffic_giveUp
  have gone : exchange.giveUp.2.state = .noProcess := congrArg Traffic.state lost
  refine ⟨by simp [gone], congrArg Traffic.pending lost, congrArg Traffic.expired lost, ?_,
    congrArg Traffic.written lost⟩
  have present : exchange.toHost.hasProcess = true := Host.hasProcess_iff.mpr running
  simp only [giveUp, takeGeneration, withHost, Host.teardown, present, if_true]
  unfold Outside.kill
  split <;> rfl

theorem launchOutcomes_giveUp (exchange : Exchange) :
    exchange.giveUp.2.outside.launchOutcomes = exchange.outside.launchOutcomes := by
  simp only [giveUp, takeGeneration, withHost, Host.teardown]
  split
  · unfold Outside.kill
    split <;> rfl
  · rfl

theorem killed_start (setup : Setup) (host : Host) :
    (host.start setup).2.outside.killed = host.outside.killed := by
  cases state : host.state with
  | starting => simp only [Host.start, state]
  | ready => simp only [Host.start, state]
  | noProcess =>
      cases outcome : host.outside.launchOutcomes.next with
      | none =>
          simp only [Host.start, state, Outside.launch, Host.cancel, outcome]
          rfl
      | some failure =>
          simp only [Host.start, state, Outside.launch, Host.cancel, outcome]
          rfl

/-- Whether another process is started or not, the lost one stays lost. -/
theorem LosesProcess.start {bare : Exchange} (loses : exchange.LosesProcess bare)
    (idle : bare.state = .noProcess) :
    exchange.LosesProcess (bare.withHost (bare.toHost.start setup).2) := by
  have killed : (bare.toHost.start setup).2.outside.killed = bare.outside.killed :=
    killed_start setup bare.toHost
  rcases start_cases setup idle with ⟨host, started, same⟩ | ⟨failure, host, started, same⟩
  all_goals
    rw [started] at killed ⊢
    refine ⟨fun ready => ?_, (congrArg Traffic.pending same).trans loses.pending,
      (congrArg Traffic.expired same).trans loses.expired, killed.trans loses.killed,
      (congrArg Traffic.written same).trans loses.written⟩
  · have starting : (bare.withHost host).state = .starting := congrArg Traffic.state same
    simp [starting] at ready
  · have gone : (bare.withHost host).state = bare.state := congrArg Traffic.state same
    simp [gone, idle] at ready

/-- The process is given up, and the message with it unless it may be tried again. -/
theorem setback_afterFailedWrite (setup : Setup) (entry : QueuedRequest) (failure : Failure)
    (running : exchange.state ≠ .noProcess) :
    ∃ outcome later, exchange.afterFailedWrite setup entry failure = (outcome, later) ∧
      Setback setup exchange entry exchange.queue failure
        (CallTable.ofGeneration exchange.pending exchange.generation) outcome later ∧
      exchange.LosesProcess later := by
  let failed := { entry with attempts := entry.attempts + 1 }
  have loses := losesProcess_giveUp running
  have launches := exchange.launchOutcomes_giveUp
  have lost := exchange.traffic_giveUp
  obtain ⟨orphaned, bare, givenUp, orphans⟩ : ∃ orphaned bare,
      exchange.giveUp = (orphaned, bare) ∧
        orphaned = CallTable.ofGeneration exchange.pending exchange.generation :=
    ⟨_, _, rfl, exchange.giveUp_orphaned⟩
  rw [givenUp] at loses launches lost
  rw [← orphans]
  by_cases tooOften : setup.settings.service.maxWriteRetries < entry.attempts + 1
  · refine ⟨.abandoned failed failure orphaned, bare, ?_, ?_, loses⟩
    · simp [afterFailedWrite, givenUp, tooOften, failed]
    · exact .abandoned (Nat.lt_succ_iff.mp tooOften) (congrArg Traffic.state lost)
        (congrArg Traffic.generation lost) (congrArg Traffic.queue lost)
  · have again : entry.attempts < setup.settings.service.maxWriteRetries := by omega
    let requeued := { bare with queue := RequestQueue.requeueFront bare.queue failed }
    have idle : requeued.state = .noProcess := congrArg Traffic.state lost
    have place : requeued.traffic = exchange.traffic.release.forget.requeue failed :=
      congrArg (Traffic.requeue · failed) lost
    have requeuedLoses : exchange.LosesProcess requeued :=
      ⟨loses.unready, loses.pending, loses.expired, loses.killed, loses.written⟩
    have started : exchange.LosesProcess (requeued.withHost (requeued.toHost.start setup).2) :=
      requeuedLoses.start idle
    cases outcome : exchange.outside.launchOutcomes.next with
    | none =>
        obtain ⟨host, spawned, same⟩ := start_launched setup idle
          ((congrArg Outcomes.next launches).trans outcome)
        have spawned : bare.toHost.start setup = _ := spawned
        rw [place] at same
        refine ⟨.retrying orphaned, requeued.withHost host, ?_, ?_, ?_⟩
        · simp only [afterFailedWrite, givenUp, tooOften, if_false, spawned]
          rfl
        · exact .retrying again outcome (congrArg Traffic.state same)
            (congrArg Traffic.generation same) (congrArg Traffic.queue same)
        · rwa [spawned] at started
    | some respawn =>
        obtain ⟨host, unspawned, same⟩ := start_failed setup idle
          ((congrArg Outcomes.next launches).trans outcome)
        have unspawned : bare.toHost.start setup = _ := unspawned
        rw [place] at same
        refine ⟨.respawnFailed respawn orphaned, requeued.withHost host, ?_, ?_, ?_⟩
        · simp only [afterFailedWrite, givenUp, tooOften, if_false, unspawned]
          rfl
        · exact .respawnFailed again outcome (congrArg Traffic.state same)
            (congrArg Traffic.generation same) (congrArg Traffic.queue same)
        · rwa [unspawned] at started

/-- A message that cannot be written ends the loop. -/
theorem setback_drains (setup : Setup) {entry : QueuedRequest} {behind : List QueuedRequest}
    {failure : Failure} (ready : exchange.state = .ready)
    (waiting : exchange.queue = entry :: behind)
    (failing : exchange.outside.writeOutcomes.next = some failure) :
    ∃ outcome later, Drains setup exchange [outcome] later ∧
      Setback setup exchange entry behind failure
        (CallTable.ofGeneration exchange.pending exchange.generation) outcome later ∧
      exchange.LosesProcess later := by
  have present : exchange.toHost.hasProcess = true := Host.hasProcess_iff.mpr (by simp [ready])
  let refused : Exchange :=
    { exchange with
      queue := behind
      ledger := exchange.ledger ++ [.refused exchange.generation entry]
      outside :=
        { exchange.outside with writeOutcomes := exchange.outside.writeOutcomes.later } }
  have dispatched : dispatch setup { exchange with queue := behind } entry =
      refused.afterFailedWrite setup entry failure := by
    simp only [dispatch, isReady_iff.mpr ready, if_true, Host.writeLine, present,
      Outside.writeLine, failing]
    rfl
  have running : refused.state ≠ .noProcess := by simp [refused, ready]
  obtain ⟨outcome, later, result, setback, loses⟩ :=
    setback_afterFailedWrite setup entry failure running
  refine ⟨outcome, later, ?_, ?_, ?_⟩
  · exact .next (isReady_iff.mpr ready) waiting (dispatched.trans result)
      (.done (.inl (isReady_eq_false_iff.mpr loses.unready)))
  · cases setback with
    | abandoned tooOften gone generation queue =>
        exact .abandoned tooOften gone generation queue
    | retrying again launches starting generation queue =>
        exact .retrying again launches starting generation queue
    | respawnFailed again fails gone generation queue =>
        exact .respawnFailed again fails gone generation queue
  · exact ⟨loses.unready, loses.pending, loses.expired, loses.killed, loses.written⟩

theorem ofGeneration_sendOff (exchange : Exchange) (sent behind : List QueuedRequest) :
    CallTable.ofGeneration (exchange.sendOff sent behind).pending exchange.generation =
      CallTable.ofGeneration exchange.pending exchange.generation ++
        callsOf exchange.generation sent := by
  have all : CallTable.ofGeneration (callsOf exchange.generation sent) exchange.generation =
      callsOf exchange.generation sent := by
    refine List.filter_eq_self.mpr fun call listed => ?_
    obtain ⟨entry, -, made⟩ := List.mem_filterMap.mp listed
    obtain ⟨id, -, rfl⟩ := Option.map_eq_some_iff.mp made
    simp
  rw [sendOff, CallTable.ofGeneration, List.filter_append]
  exact congrArg (_ ++ ·) all

/-- Draining comes to its end, in one way, after at most as many rounds as messages waited.  It
changes nothing if the service is not ready.  Otherwise, if all writes succeed, all messages are
written in their order, their calls are pending, and nobody waits any more.  If the write of a
message fails after those before it have succeeded, it is the last that is tried: all calls of the
process are orphaned, also those just made, the process is killed, and those behind the message
wait on untouched, behind the message itself unless it is given up.  No count of attempts grows
past what 32 bits hold. -/
theorem waiting_messages_are_drained (setup : Setup) (exchange : Exchange)
    (unsent : exchange.AreUnsent exchange.queue)
    (few : ∀ entry ∈ exchange.queue, entry.attempts ≤ setup.settings.service.maxWriteRetries)
    (limited : setup.settings.service.maxWriteRetries < 2 ^ 32 - 1) :
    ∃ outcomes last,
      (∀ others other, Drains setup exchange others other ↔ others = outcomes ∧ other = last) ∧
      exchange.drain setup = (outcomes, last) ∧
      outcomes.length ≤ exchange.queue.length ∧
      (exchange.state ≠ .ready → outcomes = [] ∧ last = exchange) ∧
      (exchange.state = .ready → ∀ sent behind, exchange.queue = sent ++ behind →
        exchange.WritesSucceed sent.length →
          (behind = [] →
            outcomes = List.replicate sent.length .sent ∧ last = exchange.sendOff sent []) ∧
          ∀ entry rest failure, behind = entry :: rest →
            Outcomes.next (exchange.outside.writeOutcomes.drop sent.length) = some failure →
              entry.attempts + 1 < 2 ^ 32 ∧
              ∃ outcome, outcomes = List.replicate sent.length .sent ++ [outcome] ∧
                Setback setup (exchange.sendOff sent behind) entry rest failure
                  (CallTable.ofGeneration exchange.pending exchange.generation ++
                    callsOf exchange.generation sent) outcome last ∧
                (exchange.sendOff sent behind).LosesProcess last) := by
  obtain ⟨drains, short⟩ := exchange.drains_drain setup
  obtain ⟨outcomes, last, drained⟩ : ∃ outcomes last, exchange.drain setup = (outcomes, last) :=
    ⟨_, _, rfl⟩
  rw [drained] at drains short
  have course {others : List DispatchOutcome} {other : Exchange}
      (also : Drains setup exchange others other) : outcomes = others ∧ last = other :=
    also.unique drains
  refine ⟨outcomes, last, ?_, drained, short, ?_, ?_⟩
  · intro others other
    constructor
    · intro also
      exact drains.unique also
    · rintro ⟨rfl, rfl⟩
      exact drains
  · intro unready
    exact course (.done (.inl (isReady_eq_false_iff.mpr unready)))
  · intro ready sent behind waiting succeed
    constructor
    · rintro rfl
      have done : Drains setup (exchange.sendOff sent []) [] (exchange.sendOff sent []) :=
        .done (.inr rfl)
      simpa using course (done.sendOff ready waiting succeed unsent)
    · rintro entry rest failure rfl failing
      have bounded := few entry (by simp [waiting])
      let reached := exchange.sendOff sent (entry :: rest)
      have stillReady : reached.state = .ready := ready
      obtain ⟨outcome, later, stops, setback, loses⟩ := setback_drains setup stillReady rfl failing
      obtain ⟨same, rfl⟩ := course (stops.sendOff ready waiting succeed unsent)
      refine ⟨by omega, outcome, same, ?_, loses⟩
      rw [← ofGeneration_sendOff exchange sent (entry :: rest)]
      exact setback

/-- Three messages wait, and the connection breaks at the second write. -/
def breakingOff : Exchange where
  state := .ready
  generation := 4
  pending := [⟨.number 7, .relay, 4⟩]
  queue :=
    [⟨some (.number 1), "first", .relay, 0⟩, ⟨some (.number 2), "second", .relay, 1⟩,
      ⟨none, "third", .relay, 0⟩]
  outside := { writeOutcomes := [none, some (.serviceWrite "broken pipe")] }

/-- The first message is written, and its call lost with the process; the second is tried again. -/
theorem second_message_waits_again :
    let setup : Setup := { launch := ⟨"npx", [], none⟩ }
    (breakingOff.queue.filterMap QueuedRequest.id).Nodup ∧
      (breakingOff.drain setup).1 =
        [.sent, .retrying [⟨.number 7, .relay, 4⟩, ⟨.number 1, .relay, 4⟩]] ∧
      (breakingOff.drain setup).2.queue =
        [⟨some (.number 2), "second", .relay, 2⟩, ⟨none, "third", .relay, 0⟩] ∧
      (breakingOff.drain setup).2.generation = 5 ∧
      (breakingOff.drain setup).2.outside.killed = [4] := by
  intro setup
  have distinct : (breakingOff.queue.filterMap QueuedRequest.id).Nodup := by decide
  have unsent : breakingOff.AreUnsent breakingOff.queue := ⟨distinct, by decide⟩
  obtain ⟨outcomes, last, -, drained, -, -, passes⟩ :=
    waiting_messages_are_drained setup breakingOff unsent (by decide) (by decide)
  obtain ⟨-, breaks⟩ := passes rfl [⟨some (.number 1), "first", .relay, 0⟩]
    [⟨some (.number 2), "second", .relay, 1⟩, ⟨none, "third", .relay, 0⟩] rfl
    (fun index less => by obtain rfl := Nat.lt_one_iff.mp less; rfl)
  obtain ⟨-, outcome, outcomesEq, setback, loses⟩ := breaks _ _ _ rfl rfl
  rw [drained]
  cases setback with
  | abandoned tooOften => exact absurd tooOften (by decide)
  | respawnFailed again fails => exact absurd fails (by simp [sendOff, breakingOff, Outcomes.next])
  | retrying again launches starting generation queue =>
      exact ⟨distinct, outcomesEq, queue, generation, loses.killed⟩

end Exchange

end BrowserRelay
