import BrowserRelay.Proofs.Passage
import BrowserRelay.Proofs.Readiness
import BrowserRelay.Proofs.Recording

/-!
# Nothing depends on the journal

The relay writes its journal and never reads it.  Two gateways that differ in nothing else differ
in nothing else after any turn.
-/

namespace BrowserRelay

/-- The edges with another journal. -/
def Outside.withJournal (outside : Outside) (journal : List LogEvent) : Outside :=
  { outside with journal := journal }

/-- The host with another journal. -/
def Host.withJournal (host : Host) (journal : List LogEvent) : Host :=
  { host with outside := host.outside.withJournal journal }

/-- The exchange with another journal. -/
def Exchange.withJournal (exchange : Exchange) (journal : List LogEvent) : Exchange :=
  exchange.withHost (exchange.toHost.withJournal journal)

/-- The gateway with another journal. -/
def Gateway.withJournal (gateway : Gateway) (journal : List LogEvent) : Gateway :=
  gateway.withHost (gateway.toHost.withJournal journal)

/-! ## The edges -/

namespace Outside

variable (outside : Outside) (journal : List LogEvent)

theorem launch_withJournal (generation : Nat) :
    (outside.withJournal journal).launch generation =
      ((outside.launch generation).1, (outside.launch generation).2.withJournal journal) := by
  unfold launch
  cases next : outside.launchOutcomes.next <;> simp [withJournal, next]

theorem writeLine_withJournal (generation : Nat) (line : String) :
    (outside.withJournal journal).writeLine generation line =
      ((outside.writeLine generation line).1,
        (outside.writeLine generation line).2.withJournal journal) := by
  unfold writeLine
  cases next : outside.writeOutcomes.next <;> simp [withJournal, next]

theorem kill_withJournal (generation : Nat) :
    (outside.withJournal journal).kill generation =
      ((outside.kill generation).1, (outside.kill generation).2.withJournal journal) := by
  unfold kill
  cases next : outside.killOutcomes.next <;> simp [withJournal, next]

theorem reply_withJournal (line : String) :
    ∃ later,
      (outside.withJournal journal).reply line = (outside.reply line).withJournal later := by
  unfold reply
  cases next : outside.replyOutcomes.next with
  | none => exact ⟨journal, by simp [withJournal, next]⟩
  | some failure => exact ⟨_, by simp only [withJournal, next, note]; rfl⟩

end Outside

/-! ## The process -/

namespace Host

variable (setup : Setup) (host : Host) (journal : List LogEvent)

@[simp]
theorem state_withJournal : (host.withJournal journal).state = host.state :=
  rfl

@[simp]
theorem generation_withJournal : (host.withJournal journal).generation = host.generation :=
  rfl

@[simp]
theorem outside_withJournal :
    (host.withJournal journal).outside = host.outside.withJournal journal :=
  rfl

@[simp]
theorem hasProcess_withJournal : (host.withJournal journal).hasProcess = host.hasProcess :=
  rfl

@[simp]
theorem isReady_withJournal : (host.withJournal journal).isReady = host.isReady :=
  rfl

@[simp]
theorem isCurrent_withJournal (generation : Nat) :
    (host.withJournal journal).isCurrent generation = host.isCurrent generation :=
  rfl

theorem start_withJournal :
    ∃ later, (host.withJournal journal).start setup =
      ((host.start setup).1, (host.start setup).2.withJournal later) := by
  have launched := host.outside.launch_withJournal journal (host.generation + 1)
  unfold start
  simp only [state_withJournal]
  split
  case h_1 => exact ⟨journal, rfl⟩
  case h_2 => exact ⟨journal, rfl⟩
  case h_3 =>
    simp only [cancel, outside_withJournal, generation_withJournal, launched]
    cases host.outside.launch (host.generation + 1) with
    | mk result outside => cases result <;> exact ⟨_, rfl⟩

theorem writeLine_withJournal (line : String) :
    (host.withJournal journal).writeLine line =
      ((host.writeLine line).1, (host.writeLine line).2.withJournal journal) := by
  simp only [writeLine, hasProcess_withJournal, outside_withJournal, generation_withJournal,
    Outside.writeLine_withJournal]
  split <;> rfl

theorem markNotReady_withJournal :
    (host.withJournal journal).markNotReady = host.markNotReady.withJournal journal := by
  unfold markNotReady
  simp only [state_withJournal]
  split <;> rfl

theorem markReady_withJournal :
    (host.withJournal journal).markReady = host.markReady.withJournal journal := by
  unfold markReady
  simp only [state_withJournal]
  split <;> rfl

theorem onExit_withJournal (generation : Nat) (code : Option Int) :
    ∃ later, (host.withJournal journal).onExit setup generation code =
      ((host.onExit setup generation code).1,
        (host.onExit setup generation code).2.withJournal later) := by
  simp only [onExit, isCurrent_withJournal]
  split
  · split <;> exact ⟨_, rfl⟩
  · exact ⟨journal, rfl⟩

theorem onFailed_withJournal (generation : Nat) (detail : String) :
    ∃ later, (host.withJournal journal).onFailed generation detail =
      ((host.onFailed generation detail).1,
        (host.onFailed generation detail).2.withJournal later) := by
  cases current : host.isCurrent generation with
  | true =>
      simp only [onFailed, isCurrent_withJournal, current, if_true]
      exact ⟨_, rfl⟩
  | false =>
      simp only [onFailed, isCurrent_withJournal, current, Bool.false_eq_true, if_false]
      exact ⟨journal, rfl⟩

theorem teardown_withJournal :
    ∃ later, (host.withJournal journal).teardown = host.teardown.withJournal later := by
  simp only [teardown, hasProcess_withJournal, outside_withJournal, generation_withJournal,
    Outside.kill_withJournal]
  split <;> exact ⟨_, rfl⟩

theorem terminate_withJournal :
    ∃ later, (host.withJournal journal).terminate = host.terminate.withJournal later := by
  simp only [terminate, hasProcess_withJournal, outside_withJournal, generation_withJournal,
    Outside.kill_withJournal]
  split
  · cases host.outside.kill host.generation with
    | mk result outside => cases result <;> exact ⟨_, rfl⟩
  · exact ⟨journal, rfl⟩

end Host

/-! ## Probes and calls -/

namespace Exchange

variable (setup : Setup) (exchange : Exchange) (journal : List LogEvent)

@[simp]
theorem toHost_withJournal :
    (exchange.withJournal journal).toHost = exchange.toHost.withJournal journal :=
  rfl

@[simp]
theorem health_withJournal : (exchange.withJournal journal).health = exchange.health :=
  rfl

@[simp]
theorem pending_withJournal : (exchange.withJournal journal).pending = exchange.pending :=
  rfl

@[simp]
theorem expired_withJournal : (exchange.withJournal journal).expired = exchange.expired :=
  rfl

@[simp]
theorem queue_withJournal : (exchange.withJournal journal).queue = exchange.queue :=
  rfl

theorem countMissed_withJournal :
    ∃ later, (exchange.withJournal journal).countMissed setup =
      ((exchange.countMissed setup).1, (exchange.countMissed setup).2.withJournal later) := by
  simp only [countMissed, health_withJournal, toHost_withJournal, Host.isReady_withJournal,
    Host.markNotReady_withJournal]
  split
  · split <;> exact ⟨_, rfl⟩
  · exact ⟨journal, rfl⟩

theorem sendProbe_withJournal (demoted : Bool) :
    ∃ later, (exchange.withJournal journal).sendProbe setup demoted =
      ((exchange.sendProbe setup demoted).1,
        (exchange.sendProbe setup demoted).2.withJournal later) := by
  have sameStamp : (exchange.withJournal journal).nextStamp = exchange.nextStamp := rfl
  simp only [sendProbe, takeProbeId, sameStamp, toHost_withJournal, Host.writeLine_withJournal]
  cases exchange.toHost.writeLine (Envelope.requestLine (probeId setup exchange.nextStamp)
    setup.settings.health.method none) with
  | mk result host =>
    cases result with
    | ok _ => exact ⟨_, rfl⟩
    | error failure =>
        have marked := (host.cancel .probeInterval).markNotReady_withJournal journal
        have same : ((host.withJournal journal).cancel .probeInterval).markNotReady =
            (host.cancel .probeInterval).markNotReady.withJournal journal := marked
        exact ⟨_, by
          simp only [same]
          rfl⟩

theorem probe_withJournal :
    ∃ later, (exchange.withJournal journal).probe setup =
      ((exchange.probe setup).1, (exchange.probe setup).2.withJournal later) := by
  cases present : exchange.hasProcess with
  | true =>
      obtain ⟨counting, counted⟩ := exchange.countMissed_withJournal setup journal
      simp only [probe, toHost_withJournal, Host.hasProcess_withJournal, present, if_true, counted]
      exact sendProbe_withJournal setup _ counting _
  | false =>
      obtain ⟨starting, started⟩ := exchange.toHost.start_withJournal setup journal
      simp only [probe, toHost_withJournal, Host.hasProcess_withJournal, present,
        Bool.false_eq_true, if_false, started]
      cases exchange.toHost.start setup with
      | mk result host => cases result <;> exact ⟨_, rfl⟩

theorem onProbeResponse_withJournal :
    ∃ later, (exchange.withJournal journal).onProbeResponse setup =
      ((exchange.onProbeResponse setup).1,
        (exchange.onProbeResponse setup).2.withJournal later) := by
  have marked := exchange.resetHealth.toHost.markReady_withJournal journal
  have same : (exchange.withJournal journal).resetHealth.toHost.markReady =
      exchange.resetHealth.toHost.markReady.withJournal journal := marked
  simp only [onProbeResponse, toHost_withJournal, Host.state_withJournal]
  cases exchange.state with
  | starting => exact ⟨_, by simp only [same]; rfl⟩
  | ready => exact ⟨journal, rfl⟩
  | noProcess => exact ⟨journal, rfl⟩

theorem giveUp_withJournal :
    ∃ later, (exchange.withJournal journal).giveUp =
      (exchange.giveUp.1, exchange.giveUp.2.withJournal later) := by
  obtain ⟨later, torn⟩ := exchange.toHost.teardown_withJournal journal
  exact ⟨later, by simp only [giveUp, toHost_withJournal, torn]; rfl⟩

theorem afterFailedWrite_withJournal (entry : QueuedRequest) (failure : Failure) :
    ∃ later, (exchange.withJournal journal).afterFailedWrite setup entry failure =
      ((exchange.afterFailedWrite setup entry failure).1,
        (exchange.afterFailedWrite setup entry failure).2.withJournal later) := by
  obtain ⟨leaving, gone⟩ := exchange.giveUp_withJournal journal
  simp only [afterFailedWrite, gone, toHost_withJournal, queue_withJournal]
  cases exchange.giveUp with
  | mk orphaned bare =>
    split
    · exact ⟨leaving, rfl⟩
    · obtain ⟨starting, started⟩ := bare.toHost.start_withJournal setup leaving
      simp only [started]
      cases bare.toHost.start setup with
      | mk result host => cases result <;> exact ⟨starting, rfl⟩

theorem addPending_withJournal (entry : QueuedRequest) :
    (exchange.withJournal journal).addPending entry =
      (exchange.addPending entry).withJournal journal := by
  unfold addPending
  split <;> rfl

theorem dispatch_withJournal (entry : QueuedRequest) :
    ∃ later, (exchange.withJournal journal).dispatch setup entry =
      ((exchange.dispatch setup entry).1,
        (exchange.dispatch setup entry).2.withJournal later) := by
  cases ready : exchange.isReady with
  | false =>
      exact ⟨journal, by
        simp only [dispatch, toHost_withJournal, Host.isReady_withJournal, ready]
        rfl⟩
  | true =>
      simp only [dispatch, toHost_withJournal, Host.isReady_withJournal, ready, if_true,
        Host.writeLine_withJournal]
      cases exchange.toHost.writeLine entry.line with
      | mk result host =>
        cases result with
        | ok _ =>
            let written := (exchange.withHost host).enter (.written exchange.generation entry)
            exact ⟨journal, Prod.ext rfl (written.addPending_withJournal journal entry)⟩
        | error failure =>
            let refused := (exchange.withHost host).enter (.refused exchange.generation entry)
            exact refused.afterFailedWrite_withJournal setup journal entry failure

theorem classify_withJournal (line : String) :
    (exchange.withJournal journal).classify setup line =
      ((exchange.classify setup line).1, (exchange.classify setup line).2.withJournal journal) := by
  unfold classify
  cases ServiceMessage.parse line with
  | error failure => rfl
  | ok message =>
      rcases message with ⟨_ | id, _ | method, value⟩
      case some.none =>
        cases isProbe : isProbeId setup id with
        | true => simp only [isProbe, if_true]
        | false =>
            simp only [isProbe, Bool.false_eq_true, if_false, pending_withJournal]
            cases CallTable.find? exchange.pending id with
            | some call => rfl
            | none =>
                dsimp only
                split
                case isTrue timedOut =>
                  rw [if_pos (show (exchange.expired.any fun call => call.id = id) = true from
                    timedOut)]
                  rfl
                case isFalse unknown =>
                  rw [if_neg (show ¬(exchange.expired.any fun call => call.id = id) = true from
                    unknown)]
      all_goals rfl

theorem expire_withJournal (id : RequestId) :
    (exchange.withJournal journal).expire id =
      ((exchange.expire id).1, (exchange.expire id).2.withJournal journal) := by
  simp only [expire, pending_withJournal, expired_withJournal]
  split <;> rfl

end Exchange

end BrowserRelay
