import BrowserRelay.Proofs.Agreement

/-!
# Processes that were replaced

Every start opens a new generation, and a process that is gone does not come back.  So what
arrives of a generation that has stopped being current is stale for good, and leaves its mark in
the journal only.
-/

namespace BrowserRelay

/-! ## Generations only advance -/

/-- From one traffic to another the generation has not gone back, and where it is still the same
no process has come up. -/
structure Advances (before after : Traffic) : Prop where
  generation : before.generation ≤ after.generation
  idle : after.generation = before.generation → before.state = .noProcess →
    after.state = .noProcess

namespace Advances

variable {before middle after : Traffic}

theorem trans (advances : Advances before middle) (further : Advances middle after) :
    Advances before after := by
  have first := advances.generation
  have second := further.generation
  refine ⟨Nat.le_trans first second, fun same idle => ?_⟩
  have sameFirst : middle.generation = before.generation := by omega
  exact further.idle (by omega) (advances.idle sameFirst idle)

/-- The state is left as it is, or there was a process before, or there is none after. -/
theorem keep (generation : after.generation = before.generation)
    (state : after.state = before.state ∨ before.state ≠ .noProcess ∨ after.state = .noProcess) :
    Advances before after := by
  refine ⟨Nat.le_of_eq generation.symm, fun _ idle => ?_⟩
  rcases state with same | running | gone
  · exact same.trans idle
  · exact absurd idle running
  · exact gone

theorem refl (traffic : Traffic) : Advances traffic traffic :=
  .keep rfl (.inl rfl)

theorem next (generation : after.generation = before.generation + 1) : Advances before after := by
  constructor
  · omega
  · intro same
    omega

end Advances

theorem Move.advances {setup : Setup} {before after : Traffic} (move : Move setup before after) :
    Advances before after := by
  cases move with
  | launched => exact .next rfl
  | launchFailed => exact .next rfl
  | probed => exact .keep rfl (.inl rfl)
  | probeRefused running => exact .keep rfl (.inr (.inl running))
  | demoted ready => exact .keep rfl (.inr (.inl (by simp [ready])))
  | wrote => exact .keep rfl (.inl rfl)
  | abandoned => exact .keep rfl (.inr (.inr rfl))
  | retried => exact .keep rfl (.inr (.inr rfl))
  | ended => exact .keep rfl (.inr (.inr rfl))
  | queueFailed => exact .keep rfl (.inl rfl)
  | expired => exact .keep rfl (.inl rfl)
  | withdrawn => exact .keep rfl (.inl rfl)
  | startedLate => exact .keep rfl (.inl rfl)
  | told => exact .keep rfl (.inl rfl)
  | elapsed => exact .keep rfl (.inl rfl)

theorem Moves.advances {setup : Setup} {before after : Traffic}
    (moves : Moves setup before after) : Advances before after := by
  induction moves with
  | refl => exact .refl before
  | tail _ move ih => exact ih.trans move.advances

theorem Passage.advances {setup : Setup} {before after : Traffic} {arrival : Option Arrival}
    (passage : Passage setup before arrival after) : Advances before after := by
  cases passage with
  | quiet moves => exact moves.advances
  | woken starting moves =>
      have woken : Advances before (before.wake setup) :=
        .keep rfl (.inr (.inl (by simp [starting])))
      exact woken.trans moves.advances
  | turnedAway message failure free moves =>
      have turned : Advances before (before.turnAway message.answerId failure) :=
        .keep rfl (.inl rfl)
      exact turned.trans moves.advances
  | @takenIn middle _ message first kept free moves =>
      have taken : Advances middle (middle.takeIn setup message.entry) := .keep rfl (.inl rfl)
      exact (first.advances.trans taken).trans moves.advances
  | responded response found => exact .keep rfl (.inl rfl)
  | recalled response missing timedOut => exact .keep rfl (.inl rfl)
  | unmatched response missing unknown => exact .keep rfl (.inl rfl)

/-! ## Stale events -/

/-- The generation of the process that an event comes from, if it comes from one. -/
def Event.generation? : Event → Option Nat
  | serviceOutput generation _ => some generation
  | serviceError generation _ => some generation
  | serviceExited generation _ => some generation
  | serviceFailed generation _ => some generation
  | _ => none

/-- The second turns are the first with further events of a generation anywhere in between. -/
inductive Inserts (generation : Nat) : List Turn → List Turn → Prop
  | nil : Inserts generation [] []
  | keep {turns extended : List Turn} (turn : Turn) (rest : Inserts generation turns extended) :
      Inserts generation (turn :: turns) (turn :: extended)
  | insert {turns extended : List Turn} {event : Event}
      (own : event.generation? = some generation) (rest : Inserts generation turns extended) :
      Inserts generation turns (.step (.event event) :: extended)

namespace Gateway

/-- The gateway after further turns. -/
def runTurns (setup : Setup) (gateway : Gateway) (turns : List Turn) : Gateway :=
  turns.foldl (turn setup) gateway

theorem afterTurns_append (setup : Setup) (outside : Outside) (first second : List Turn) :
    afterTurns setup outside (first ++ second) =
      (afterTurns setup outside first).runTurns setup second :=
  List.foldl_append

/-- An event of a generation that is not current is at most noted. -/
theorem handleEvent_stale (setup : Setup) (gateway : Gateway) {event : Event} {generation : Nat}
    (own : event.generation? = some generation)
    (stale : gateway.isCurrent generation = false) :
    (gateway.handleEvent setup event).Agrees gateway := by
  cases event with
  | clientLine line => simp [Event.generation?] at own
  | clientClosed => simp [Event.generation?] at own
  | timer timer => simp [Event.generation?] at own
  | shutdown => simp [Event.generation?] at own
  | serviceOutput origin line =>
      obtain rfl : origin = generation := Option.some.inj own
      simp only [handleEvent, onServiceOutput, stale]
      exact .noted gateway _ _ _
  | serviceError origin line => exact .noted gateway _ _ _
  | serviceExited origin code =>
      obtain rfl : origin = generation := Option.some.inj own
      simp only [handleEvent, onServiceExited_stale setup code stale]
      exact .refl gateway
  | serviceFailed origin detail =>
      obtain rfl : origin = generation := Option.some.inj own
      simp only [handleEvent, onServiceFailed_stale detail stale]
      exact .refl gateway

theorem advances_turn (setup : Setup) (gateway : Gateway) (turn : Turn)
    (settled : gateway.traffic.IsSettled) :
    Advances gateway.traffic (gateway.turn setup turn).traffic ∧
      (gateway.turn setup turn).traffic.IsSettled := by
  cases turn with
  | step step =>
      obtain ⟨passage, after⟩ := passage_step setup gateway step settled
      exact ⟨passage.advances, after⟩
  | terminate =>
      have gone : (gateway.turn setup .terminate).traffic.state = .noProcess :=
        gateway.state_terminate
      refine ⟨.keep gateway.generation_terminate (.inr (.inr gone)), fun ready => ?_⟩
      exact absurd (gone.symm.trans ready) (by simp)

theorem advances_runTurns (setup : Setup) (gateway : Gateway) (turns : List Turn)
    (settled : gateway.traffic.IsSettled) :
    Advances gateway.traffic (gateway.runTurns setup turns).traffic := by
  induction turns generalizing gateway with
  | nil => exact .refl gateway.traffic
  | cons turn turns ih =>
      obtain ⟨first, stillSettled⟩ := gateway.advances_turn setup turn settled
      exact first.trans (ih (gateway.turn setup turn) stillSettled)

/-- What is not current, though its generation has come, never becomes so. -/
theorem isCurrent_of_advances {before after : Gateway} {generation : Nat}
    (advances : Advances before.traffic after.traffic) (come : generation ≤ before.generation)
    (stale : before.isCurrent generation = false) : after.isCurrent generation = false := by
  rw [← Bool.not_eq_true, Host.isCurrent_iff] at stale ⊢
  rintro ⟨running, own⟩
  have further : before.generation ≤ after.generation := advances.generation
  have same : after.generation = before.generation := by omega
  refine running (advances.idle same ?_)
  by_contra present
  exact stale ⟨present, by omega⟩

theorem Agrees.runTurns {setup : Setup} {first second : Gateway} (agrees : first.Agrees second)
    (turns : List Turn) : (first.runTurns setup turns).Agrees (second.runTurns setup turns) := by
  induction turns generalizing first second with
  | nil => exact agrees
  | cons turn turns ih => exact ih (agrees.turn turn)

theorem Agrees.trans {first second third : Gateway} (agrees : first.Agrees second)
    (further : second.Agrees third) : first.Agrees third := by
  obtain ⟨journal, rfl⟩ := agrees
  obtain ⟨other, rfl⟩ := further
  exact ⟨journal, rfl⟩

/-- Further events of a generation that is stale for good change the journal at most. -/
theorem agrees_of_inserts (setup : Setup) {gateway : Gateway} {generation : Nat}
    {turns extended : List Turn} (inserts : Inserts generation turns extended)
    (settled : gateway.traffic.IsSettled) (come : generation ≤ gateway.generation)
    (stale : gateway.isCurrent generation = false) :
    (gateway.runTurns setup extended).Agrees (gateway.runTurns setup turns) := by
  induction inserts generalizing gateway with
  | nil => exact .refl gateway
  | keep turn _ ih =>
      obtain ⟨advances, stillSettled⟩ := gateway.advances_turn setup turn settled
      have further : gateway.generation ≤ (gateway.turn setup turn).generation :=
        advances.generation
      exact ih stillSettled (Nat.le_trans come further)
        (isCurrent_of_advances advances come stale)
  | @insert turns extended event own _ ih =>
      have unchanged := gateway.handleEvent_stale setup own stale
      exact (unchanged.runTurns extended).trans (ih settled come stale)

/-- Once the process of a generation is no longer the present one, it never is again, and any
further events of that generation, anywhere in the rest of the run, change nothing but the
journal: the state, the armed timers, the replies, what is written to processes, and which
processes are started and killed are those of the run without them. -/
theorem replaced_processes_cannot_interfere (setup : Setup) (outside : Outside)
    (earlier between later extended : List Turn) (generation : Nat)
    (current : (afterTurns setup outside earlier).isCurrent generation = true)
    (replaced : (afterTurns setup outside (earlier ++ between)).isCurrent generation = false)
    (inserts : Inserts generation later extended) :
    let kept := afterTurns setup outside (earlier ++ between ++ later)
    kept.isCurrent generation = false ∧
      ∃ journal, afterTurns setup outside (earlier ++ between ++ extended) =
        { kept with outside := { kept.outside with journal := journal } } := by
  intro kept
  have settled := settled_afterTurns setup outside (earlier ++ between)
  have come : generation ≤ (afterTurns setup outside (earlier ++ between)).generation := by
    have advances := advances_runTurns setup _ between (settled_afterTurns setup outside earlier)
    rw [afterTurns_append, (Host.isCurrent_iff.mp current).2]
    exact advances.generation
  have since : kept = (afterTurns setup outside (earlier ++ between)).runTurns setup later :=
    afterTurns_append setup outside (earlier ++ between) later
  rw [since]
  refine ⟨?_, ?_⟩
  · exact isCurrent_of_advances (advances_runTurns setup _ later settled) come replaced
  · rw [afterTurns_append]
    exact agrees_of_inserts setup inserts settled come replaced

/-- A process exits, another one is started, and then the first one still answers a probe and is
reported to have exited. -/
theorem replaced_process_does_not_interfere :
    let setup : Setup := { launch := ⟨"npx", [], none⟩ }
    let earlier := [Turn.step .start]
    let between := [Turn.step (.event (.serviceExited 1 (some 1)))]
    let later := [Turn.step .start]
    let extended :=
      [.step (.event (.serviceOutput 1 "\x7b\"id\":\"health_check_1\"\x7d")),
        Turn.step .start, .step (.event (.serviceExited 1 none))]
    let kept := afterTurns setup {} (earlier ++ between ++ later)
    kept.isCurrent 1 = false ∧
      ∃ journal, afterTurns setup {} (earlier ++ between ++ extended) =
        { kept with outside := { kept.outside with journal := journal } } :=
  replaced_processes_cannot_interfere { launch := ⟨"npx", [], none⟩ } {} [.step .start]
    [.step (.event (.serviceExited 1 (some 1)))] [.step .start] _ 1 (by decide) (by decide)
    (.insert rfl (.keep _ (.insert rfl .nil)))

end Gateway

end BrowserRelay
