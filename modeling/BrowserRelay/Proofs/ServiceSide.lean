import BrowserRelay.Proofs.PassingOn

/-!
# What dealing with the process leaves alone

In dealing with its process the relay starts, writes to and kills processes and takes notes.  All
else at its edges stays as it is: the clock, the files, what was emitted and what the client was
sent.
-/

namespace BrowserRelay

/-- Only processes were dealt with and notes taken.  The writes that are still to come turn out as
they would have. -/
structure Outside.Serves (before after : Outside) : Prop where
  edges : after = { before with
    launchOutcomes := after.launchOutcomes
    writeOutcomes := after.writeOutcomes
    killOutcomes := after.killOutcomes
    launched := after.launched
    written := after.written
    killed := after.killed
    journal := after.journal }
  outcomes : after.writeOutcomes <:+ before.writeOutcomes

namespace Outside

theorem Serves.refl (outside : Outside) : outside.Serves outside := ⟨rfl, List.suffix_refl _⟩

theorem Serves.trans {before middle after : Outside} (first : before.Serves middle)
    (second : middle.Serves after) : before.Serves after where
  edges := by
    rw [second.edges, first.edges]
  outcomes := second.outcomes.trans first.outcomes

theorem serves_note (outside : Outside) (level : LogLevel) (type : String)
    (payload : List (String × Json)) : outside.Serves (outside.note level type payload) :=
  ⟨rfl, List.suffix_refl _⟩

theorem serves_launch (outside : Outside) (generation : Nat) :
    outside.Serves (outside.launch generation).2 := by
  unfold launch
  split <;> exact ⟨rfl, List.suffix_refl _⟩

theorem serves_writeLine (outside : Outside) (generation : Nat) (line : String) :
    outside.Serves (outside.writeLine generation line).2 := by
  unfold writeLine
  split <;> exact ⟨rfl, List.tail_suffix _⟩

theorem serves_kill (outside : Outside) (generation : Nat) :
    outside.Serves (outside.kill generation).2 := by
  unfold kill
  split <;> exact ⟨rfl, List.suffix_refl _⟩

end Outside

/-! ## The process -/

namespace Host

variable (host : Host)

theorem serves_start (setup : Setup) : host.outside.Serves (host.start setup).2.outside := by
  have launched := host.outside.serves_launch (host.generation + 1)
  have calm : (host.cancel .restart).outside = host.outside := rfl
  unfold start
  split
  · exact .refl _
  · exact .refl _
  · dsimp only
    rw [calm]
    split
    case h_1 failure outside failed =>
      rw [failed] at launched
      exact launched.trans (outside.serves_note _ _ _)
    case h_2 outside started =>
      rw [started] at launched
      exact launched.trans (outside.serves_note _ _ _)

theorem serves_writeLine (line : String) :
    host.outside.Serves (host.writeLine line).2.outside := by
  unfold writeLine
  split
  · exact host.outside.serves_writeLine host.generation line
  · exact .refl _

theorem serves_teardown : host.outside.Serves host.teardown.outside := by
  unfold teardown
  split
  · exact (host.outside.serves_kill host.generation).trans (Outside.serves_note _ _ _ _)
  · exact host.outside.serves_note _ _ _

theorem serves_markReady : host.outside.Serves host.markReady.outside := by
  unfold markReady
  split <;> exact .refl _

theorem serves_markNotReady : host.outside.Serves host.markNotReady.outside := by
  unfold markNotReady
  split <;> exact .refl _

theorem serves_onExit (setup : Setup) (generation : Nat) (code : Option Int) :
    host.outside.Serves (host.onExit setup generation code).2.outside := by
  unfold onExit
  split
  · split <;> exact host.outside.serves_note _ _ _
  · exact .refl _

theorem serves_onFailed (generation : Nat) (detail : String) :
    host.outside.Serves (host.onFailed generation detail).2.outside := by
  unfold onFailed
  split
  · exact host.outside.serves_note _ _ _
  · exact .refl _

end Host

/-! ## Probes and requests -/

namespace Exchange

variable (setup : Setup) (exchange : Exchange)

theorem serves_countMissed : exchange.outside.Serves (exchange.countMissed setup).2.outside := by
  unfold countMissed
  split
  · dsimp only
    split
    · exact exchange.toHost.serves_markNotReady.trans (Outside.serves_note _ _ _ _)
    · exact .refl _
  · exact .refl _

theorem serves_sendProbe (demoted : Bool) :
    exchange.outside.Serves (exchange.sendProbe setup demoted).2.outside := by
  have written := (exchange.takeProbeId setup).2.toHost.serves_writeLine
    (Envelope.requestLine (exchange.takeProbeId setup).1 setup.settings.health.method none)
  unfold sendProbe
  dsimp only
  split
  case h_1 failure host failed =>
    rw [failed] at written
    have demoted := (host.cancel .probeInterval).serves_markNotReady
    exact (written.trans demoted).trans (Outside.serves_note _ _ _ _)
  case h_2 host done =>
    rw [done] at written
    exact written.trans (Outside.serves_note _ _ _ _)

theorem serves_probe : exchange.outside.Serves (exchange.probe setup).2.outside := by
  have started := exchange.toHost.serves_start setup
  unfold probe
  split
  · exact (exchange.serves_countMissed setup).trans (serves_sendProbe setup _ _)
  · split
    all_goals
      rename_i result
      rwa [result] at started

theorem serves_onProbeResponse :
    exchange.outside.Serves (exchange.onProbeResponse setup).2.outside := by
  unfold onProbeResponse
  dsimp only
  split
  · exact exchange.resetHealth.toHost.serves_markReady.trans (Outside.serves_note _ _ _ _)
  · exact .refl _

theorem serves_afterFailedWrite (entry : QueuedRequest) (failure : Failure) :
    exchange.outside.Serves (exchange.afterFailedWrite setup entry failure).2.outside := by
  have lost : exchange.outside.Serves exchange.giveUp.2.outside := exchange.toHost.serves_teardown
  have started := exchange.giveUp.2.toHost.serves_start setup
  unfold afterFailedWrite
  dsimp only
  split
  · exact lost
  · split
    all_goals
      rename_i result
      rw [result] at started
      exact lost.trans started

theorem serves_dispatch (entry : QueuedRequest) :
    exchange.outside.Serves (exchange.dispatch setup entry).2.outside := by
  have written := exchange.toHost.serves_writeLine entry.line
  unfold dispatch
  split
  · split
    case h_1 host result =>
      rw [result] at written
      dsimp only
      rwa [outside_addPending]
    case h_2 failure host result =>
      rw [result] at written
      let refused := (exchange.withHost host).enter (.refused exchange.generation entry)
      exact written.trans (refused.serves_afterFailedWrite setup entry failure)
  · exact .refl _

theorem serves_drainUpTo (count : Nat) :
    exchange.outside.Serves (exchange.drainUpTo setup count).2.outside := by
  induction count generalizing exchange with
  | zero => exact .refl _
  | succ count ih =>
      unfold drainUpTo
      split
      · split
        · exact .refl _
        · rename_i entry rest _
          let rested : Exchange := { exchange with queue := rest }
          exact (rested.serves_dispatch setup entry).trans (ih _)
      · exact .refl _

/-! ## Deeds

Counting a probe that was missed, taking note of an answer and giving up a process are no
deeds. -/

theorem ledger_countMissed : (exchange.countMissed setup).2.ledger = exchange.ledger := by
  unfold countMissed
  split
  · dsimp only
    split <;> rfl
  · rfl

theorem ledger_onProbeResponse : (exchange.onProbeResponse setup).2.ledger = exchange.ledger := by
  unfold onProbeResponse
  dsimp only
  split <;> rfl

theorem ledger_afterFailedWrite (entry : QueuedRequest) (failure : Failure) :
    (exchange.afterFailedWrite setup entry failure).2.ledger = exchange.ledger := by
  unfold afterFailedWrite
  dsimp only
  split
  · rfl
  · split <;> rfl

end Exchange

/-! ## Gateways -/

namespace Gateway

variable {gateway : Gateway}

theorem onServiceExited_current (setup : Setup) (code : Option Int) {generation : Nat}
    (current : gateway.isCurrent generation = true) :
    gateway.onServiceExited setup generation code =
      (gateway.withHost (gateway.toHost.onExit setup generation code).2).failGeneration generation
        (exitDetail code) := by
  unfold onServiceExited Host.onExit
  rw [if_pos current]
  by_cases clean : code = some 0
  · rw [if_pos clean]
  · rw [if_neg clean]

theorem onServiceExited_stale (setup : Setup) (code : Option Int) {generation : Nat}
    (stale : gateway.isCurrent generation = false) :
    gateway.onServiceExited setup generation code = gateway := by
  simp only [onServiceExited, Host.onExit, stale, Bool.false_eq_true, if_false]

theorem onServiceFailed_current (detail : String) {generation : Nat}
    (current : gateway.isCurrent generation = true) :
    gateway.onServiceFailed generation detail =
      (gateway.withHost (gateway.toHost.onFailed generation detail).2).failGeneration generation
        detail := by
  unfold onServiceFailed Host.onFailed
  rw [if_pos current]

theorem onServiceFailed_stale (detail : String) {generation : Nat}
    (stale : gateway.isCurrent generation = false) :
    gateway.onServiceFailed generation detail = gateway := by
  simp only [onServiceFailed, Host.onFailed, stale, Bool.false_eq_true, if_false]

/-- A request whose time is over is taken out of the tables or the queue. -/
theorem takeExpired_eq {taken : Gateway} {id : RequestId}
    (takes : gateway.takeExpired id = some taken) :
    taken = { gateway with
      pending := taken.pending
      expired := taken.expired
      queue := taken.queue } := by
  unfold takeExpired Exchange.expire at takes
  split at takes
  case h_1 call exchange found =>
    split at found
    · simp at found
    · rw [← Option.some.inj takes, ← (Prod.mk.inj found).2]
      rfl
  case h_2 =>
    split at takes
    · rw [← Option.some.inj takes]
    · simp at takes

/-- Visiting a page changes the page and the journal. -/
theorem exists_visit (gateway : Gateway) (plan : ResponsePlan) (message : ServiceMessage) :
    ∃ page journal, gateway.visit plan message =
      { gateway with
        pageUrl := page
        outside := { gateway.outside with journal := journal } } := by
  cases plan with
  | relay => exact ⟨_, _, rfl⟩
  | mergeTools => exact ⟨_, _, rfl⟩
  | navigate url =>
      unfold visit
      dsimp only
      split <;> exact ⟨_, _, rfl⟩

end Gateway

end BrowserRelay
