import BrowserRelay.Proofs.Passage

/-!
# Readiness does not come by itself

Whatever the relay does on its own, and whatever arrives but the first answer to a probe, does not
make the service ready.  As long as it is ready its process stays the same, and only then are
lines of the client written to it.
-/

namespace BrowserRelay

/-- Deeds are done in the course of which the service does not become ready: it is ready after
them only if it was before, its process is the same and no write to it failed; and lines of the
client are written to that process only before the first write that fails. -/
structure Steady (before : Traffic) (deeds : List Deed) (after : Traffic) : Prop where
  ledger : after.ledger = before.ledger ++ deeds
  ready : after.state = .ready → before.state = .ready ∧ after.generation = before.generation ∧
    ∀ generation entry, .refused generation entry ∉ deeds
  written : ∀ early generation entry rest, deeds = early ++ .written generation entry :: rest →
    before.state = .ready ∧ generation = before.generation ∧
      ∀ other refused, .refused other refused ∉ early

theorem append_eq_append_cons {α : Type} {first second early rest : List α} {found : α}
    (same : first ++ second = early ++ found :: rest) :
    (∃ behind, first = early ++ found :: behind) ∨
      ∃ front, early = first ++ front ∧ second = front ++ found :: rest := by
  rcases List.append_eq_append_iff.mp same with ⟨front, split, later⟩ | ⟨behind, split, later⟩
  · exact .inr ⟨front, split, later⟩
  · cases behind with
    | nil => exact .inr ⟨[], by simpa using split.symm, by simpa using later.symm⟩
    | cons head behind =>
        obtain ⟨rfl, -⟩ := List.cons.inj later
        exact .inl ⟨behind, split⟩

namespace Steady

variable {before middle after : Traffic} {deeds first second : List Deed}

/-- Where a line is written in the second part, the service was ready in between, so no write
failed in the first. -/
theorem trans (steady : Steady before first middle) (further : Steady middle second after) :
    Steady before (first ++ second) after := by
  refine ⟨?_, fun ready => ?_, fun early generation entry rest split => ?_⟩
  · rw [further.ledger, steady.ledger, List.append_assoc]
  · obtain ⟨readyThen, sameProcess, unrefused⟩ := further.ready ready
    obtain ⟨readyFirst, same, none⟩ := steady.ready readyThen
    refine ⟨readyFirst, sameProcess.trans same, fun generation entry refused => ?_⟩
    rcases List.mem_append.mp refused with earlier | later
    · exact none generation entry earlier
    · exact unrefused generation entry later
  · rcases append_eq_append_cons split with ⟨behind, earlier⟩ | ⟨front, rfl, later⟩
    · exact steady.written early generation entry behind earlier
    · obtain ⟨readyThen, own, unrefused⟩ := further.written front generation entry rest later
      obtain ⟨readyFirst, same, none⟩ := steady.ready readyThen
      refine ⟨readyFirst, own.trans same, fun other refused done => ?_⟩
      rcases List.mem_append.mp done with earlier | between
      · exact none other refused earlier
      · exact unrefused other refused between

theorem unwritten (ledger : after.ledger = before.ledger ++ deeds)
    (none : ∀ generation entry, .written generation entry ∉ deeds)
    (ready : after.state = .ready → before.state = .ready ∧
      after.generation = before.generation ∧
        ∀ generation entry, .refused generation entry ∉ deeds) :
    Steady before deeds after := by
  refine ⟨ledger, ready, fun early generation entry rest split => ?_⟩
  exact absurd (split ▸ by simp) (none generation entry)

theorem idle (ledger : after.ledger = before.ledger) (unready : after.state ≠ .ready) :
    Steady before [] after :=
  .unwritten (by simp [ledger]) (by simp) fun ready => absurd ready unready

/-- The process stays as it is, and nothing is written to it. -/
theorem keep (ledger : after.ledger = before.ledger ++ deeds)
    (unwritten : ∀ generation entry, .written generation entry ∉ deeds)
    (unrefused : ∀ generation entry, .refused generation entry ∉ deeds)
    (state : after.state = before.state) (generation : after.generation = before.generation) :
    Steady before deeds after :=
  .unwritten ledger unwritten fun ready => ⟨state ▸ ready, generation, unrefused⟩

theorem write {entry : QueuedRequest} {rest : List QueuedRequest} (ready : before.state = .ready) :
    Steady before [.written before.generation entry]
      ({ before with queue := rest }.write entry) := by
  refine ⟨rfl, fun _ => ⟨ready, rfl, by simp⟩, fun early generation other behind split => ?_⟩
  cases early with
  | nil =>
      obtain ⟨own, -⟩ := Deed.written.inj (List.cons.inj split).1
      exact ⟨ready, own.symm, by simp⟩
  | cons head early => simp at split

end Steady

theorem Move.steady {setup : Setup} {before after : Traffic} (move : Move setup before after) :
    ∃ deeds, Steady before deeds after := by
  cases move with
  | launched => exact ⟨[], .idle rfl (by simp [Traffic.launch])⟩
  | launchFailed idle => exact ⟨[], .idle rfl (by simp [Traffic.failLaunch, Traffic.disarm, idle])⟩
  | probed => exact ⟨_, .keep rfl (by simp) (by simp) rfl rfl⟩
  | probeRefused => exact ⟨[], .idle rfl (by simp [Traffic.demote, Traffic.disarm])⟩
  | demoted => exact ⟨[], .idle rfl (by simp [Traffic.demote])⟩
  | wrote ready waiting => exact ⟨_, .write ready⟩
  | abandoned =>
      refine ⟨_, .unwritten ((List.append_assoc _ _ _).trans (List.append_assoc _ _ _))
        (by simp) ?_⟩
      exact fun ready => by simp [Traffic.failAll, Traffic.failPresent, Traffic.forget,
        Traffic.release, Traffic.disarm] at ready
  | retried =>
      refine ⟨_, .unwritten (List.append_assoc _ _ _) (by simp) ?_⟩
      exact fun ready => by simp [Traffic.requeue, Traffic.failAll, Traffic.failPresent,
        Traffic.forget, Traffic.release, Traffic.disarm] at ready
  | ended =>
      refine ⟨_, .unwritten rfl (by simp) ?_⟩
      exact fun ready => by simp [Traffic.failAll, Traffic.failPresent, Traffic.forget,
        Traffic.release, Traffic.disarm, Traffic.armRestart] at ready
  | queueFailed => exact ⟨_, .keep rfl (by simp) (by simp) rfl rfl⟩
  | expired => exact ⟨_, .keep rfl (by simp) (by simp) rfl rfl⟩
  | withdrawn => exact ⟨_, .keep rfl (by simp) (by simp) rfl rfl⟩
  | startedLate => exact ⟨_, .keep rfl (by simp) (by simp) rfl rfl⟩
  | told => exact ⟨_, .keep rfl (by simp) (by simp) rfl rfl⟩
  | elapsed => exact ⟨[], .keep (List.append_nil _).symm (by simp) (by simp) rfl rfl⟩

theorem Moves.steady {setup : Setup} {before after : Traffic}
    (moves : Moves setup before after) : ∃ deeds, Steady before deeds after := by
  induction moves with
  | refl => exact ⟨[], .keep (List.append_nil _).symm (by simp) (by simp) rfl rfl⟩
  | tail _ move ih =>
      obtain ⟨first, steady⟩ := ih
      obtain ⟨second, further⟩ := move.steady
      exact ⟨first ++ second, steady.trans further⟩

/-- The service does not become ready where a message of the client or a response arrives. -/
theorem Passage.steady {setup : Setup} {before after : Traffic} {arrival : Arrival}
    (passage : Passage setup before (some arrival) after) : ∃ deeds, Steady before deeds after := by
  cases passage with
  | turnedAway message failure free moves =>
      obtain ⟨deeds, steady⟩ := moves.steady
      have turned : Steady before _ (before.turnAway message.answerId failure) :=
        .keep (List.append_assoc _ _ _) (by simp) (by simp) rfl rfl
      exact ⟨_, turned.trans steady⟩
  | @takenIn middle _ message first kept free moves =>
      obtain ⟨earlier, start⟩ := first.steady
      obtain ⟨later, steady⟩ := moves.steady
      have taken : Steady middle _ (middle.takeIn setup message.entry) :=
        .keep (List.append_assoc _ _ _) (by simp) (by simp) rfl rfl
      exact ⟨_, (start.trans taken).trans steady⟩
  | responded response found => exact ⟨_, .keep rfl (by simp) (by simp) rfl rfl⟩
  | recalled response missing timedOut =>
      exact ⟨[], .keep (List.append_nil _).symm (by simp) (by simp) rfl rfl⟩
  | unmatched response missing unknown => exact ⟨_, .keep rfl (by simp) (by simp) rfl rfl⟩

end BrowserRelay
