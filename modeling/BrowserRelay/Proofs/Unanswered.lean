import BrowserRelay.Proofs.Pending
import BrowserRelay.Proofs.Steady

/-!
# Requests are answered once

What is written to a process with an identifier is the last request with it that was taken in, and
nothing has answered that request.  So nothing is written after its answer, also when its
identifier is used again, and what is owed counts one answer for each request.
-/

namespace BrowserRelay

/-- Whatever was written had been taken in, and nothing had answered it since. -/
def WritesTaken (ledger : List Deed) : Prop :=
  ∀ before generation entry after, ledger = before ++ .written generation entry :: after →
    WasTakenIn before entry

namespace WritesTaken

variable {ledger deeds : List Deed} {waiting : QueuedRequest}

theorem append (writes : WritesTaken ledger)
    (unwritten : ∀ generation entry, .written generation entry ∉ deeds) :
    WritesTaken (ledger ++ deeds) := by
  intro before generation entry after split
  rcases append_eq_append_cons split with ⟨behind, earlier⟩ | ⟨front, -, later⟩
  · exact writes before generation entry behind earlier
  · exact absurd (by simp [later]) (unwritten generation entry)

theorem concat (writes : WritesTaken ledger) (taken : WasTakenIn ledger waiting)
    (generation : Nat) : WritesTaken (ledger ++ [.written generation waiting]) := by
  intro before other entry after split
  rcases append_eq_append_cons split with ⟨behind, earlier⟩ | ⟨front, rfl, later⟩
  · exact writes before other entry behind earlier
  · cases front with
    | nil =>
        obtain ⟨same, -⟩ := List.cons.inj later
        obtain ⟨-, rfl⟩ := Deed.written.inj same
        rwa [List.append_nil]
    | cons first others => simp at later

end WritesTaken

theorem Settles.writesTaken {before after : Traffic} {deeds : List Deed}
    (settles : Settles before deeds after) (writes : WritesTaken before.ledger) :
    WritesTaken after.ledger := by
  rw [settles.ledger]
  exact writes.append settles.unwritten

/-- The message that is written waited at the head of the queue. -/
theorem CallMove.writesTaken {before after : Traffic} (move : CallMove before after)
    (backed : before.IsBacked) (writes : WritesTaken before.ledger) :
    WritesTaken after.ledger := by
  cases move with
  | stays settles _ => exact settles.writesTaken writes
  | renews settles _ => exact settles.writesTaken writes
  | @wrote entry rest ready waiting unsent =>
      have taken : WasTakenIn before.ledger entry := backed.queue entry (by simp [waiting])
      exact writes.concat taken before.generation

theorem Moves.writesTaken {setup : Setup} {before after : Traffic}
    (moves : Moves setup before after) (present : before.IsPresent)
    (accountable : before.IsAccountable) (backed : before.IsBacked)
    (writes : WritesTaken before.ledger) : WritesTaken after.ledger := by
  induction moves with
  | refl => exact writes
  | tail earlier move ih =>
      have stillPresent := Moves.isPresent earlier present
      have stillAccountable := Moves.isAccountable earlier present accountable
      have stillBacked := Moves.isBacked earlier present accountable backed
      exact (move.callMove stillPresent stillAccountable).writesTaken stillBacked ih

theorem Passage.writesTaken {setup : Setup} {before after : Traffic} {arrival : Option Arrival}
    (passage : Passage setup before arrival after) (present : before.IsPresent)
    (accountable : before.IsAccountable) (backed : before.IsBacked)
    (writes : WritesTaken before.ledger) : WritesTaken after.ledger := by
  cases passage with
  | quiet moves => exact moves.writesTaken present accountable backed writes
  | woken starting moves =>
      exact moves.writesTaken (present.wake setup) accountable (backed.wake setup) writes
  | turnedAway message failure free moves =>
      have refused := (Traffic.callMove_turnAway failure free).writesTaken backed writes
      exact moves.writesTaken (present.turnAway message.answerId failure)
        (accountable.turnAway failure free) (backed.turnAway failure free) refused
  | @takenIn middle _ message first kept free moves =>
      have middleAccountable := first.isAccountable present accountable
      have middleBacked := first.isBacked present accountable backed
      have earlier := first.writesTaken present accountable backed writes
      have taken := (middle.callMove_takeIn setup message.entry).writesTaken middleBacked earlier
      exact moves.writesTaken ((first.isPresent present).takeIn setup message.entry)
        (middleAccountable.takeIn setup message.entry free)
        (middleBacked.takeIn setup message.entry free) taken
  | responded response found =>
      exact (before.settles_respond response.id _).writesTaken writes
  | recalled response missing timedOut => exact writes
  | unmatched response missing unknown => exact Settles.writesTaken (.aside rfl rfl rfl) writes

namespace Gateway

/-- In every run, whatever is written was taken in and is unanswered. -/
theorem writesTaken_after (setup : Setup) (outside : Outside) (steps : List Step) :
    WritesTaken (after setup outside steps).ledger := by
  let Holds (traffic : Traffic) : Prop :=
    traffic.IsPresent ∧ traffic.IsAccountable ∧ traffic.IsBacked ∧ WritesTaken traffic.ledger
  have start : Holds (initial setup outside).traffic := by
    rw [traffic_initial]
    refine ⟨.of_empty rfl rfl, .nothing, ⟨by simp, by simp⟩, ?_⟩
    intro before generation entry after split
    simp at split
  have keeps (before : Traffic) (arrival : Option Arrival) (after : Traffic)
      (_ : before.IsSettled) (passage : Passage setup before arrival after)
      (holds : Holds before) : Holds after := by
    obtain ⟨present, accountable, backed, writes⟩ := holds
    exact ⟨passage.isPresent present, passage.isAccountable present accountable,
      passage.isBacked present accountable backed,
      passage.writesTaken present accountable backed writes⟩
  exact (traffic_induction keeps (settled_initial setup outside) start steps).1.2.2.2

/-- Every accepted request is answered exactly once: of the requests with an identifier that
were accepted in a run, all were answered but the one that is pending or waits in the queue, if
there is one.  It is never in both places and never twice in the queue, and a request is not
written to a process after its answer: none with its identifier is until one is accepted anew, and
whatever is written then is the request that was taken in last.  Answers are what the client is
sent: in every further step it gets the lines that come with the deeds of the step. -/
theorem accepted_requests_are_answered_once (setup : Setup) (outside : Outside)
    (steps : List Step) (id : RequestId) :
    let gateway := after setup outside steps
    (acceptedIds setup (initial setup outside) steps).count id =
        gateway.ledger.countP (Deed.isAnswerTo id) + (if gateway.isInFlight id then 1 else 0) ∧
      ¬(gateway.isPending id = true ∧ RequestQueue.contains gateway.queue id = true) ∧
      gateway.queue.countP (RequestQueue.hasId id) ≤ 1 ∧
      (∀ before answer after,
        gateway.ledger = before ++ .answered id answer :: after → .accepted id ∉ after →
          ∀ generation entry, .written generation entry ∈ after → entry.id ≠ some id) ∧
      WritesTaken gateway.ledger ∧
      ∀ step, ∃ deeds, (gateway.step setup step).ledger = gateway.ledger ++ deeds ∧
        (gateway.step setup step).outside.replies =
          (gateway.outside.replyAll (deeds.filterMap Deed.reply?)).replies := by
  intro gateway
  obtain ⟨-, accountable⟩ := isAccountable_after setup outside steps
  obtain ⟨deeds, grows, accepted, -⟩ := run_grows setup (settled_initial setup outside) steps
  have ledger : gateway.ledger = deeds := by
    have all := grows.ledger
    rwa [traffic_initial] at all
  have once : gateway.traffic.inFlight.Nodup := accountable.nodup
  have counted := accountable.count_accepted id
  rw [accountable.nodup.count] at counted
  refine ⟨?_, ?_, ?_, ?_, writesTaken_after setup outside steps, ?_⟩
  · rw [← accepted, ← ledger]
    have same := gateway.mem_inFlight_iff id
    by_cases present : gateway.isInFlight id = true
    · rw [if_pos present]
      rwa [if_pos (same.mpr present)] at counted
    · rw [if_neg present]
      rwa [if_neg (mt same.mp present)] at counted
  · rintro ⟨pending, waiting⟩
    rw [isPending_iff] at pending
    rw [RequestQueue.contains_iff] at waiting
    exact (List.nodup_append.mp once).2.2 id pending id waiting rfl
  · rw [RequestQueue.countP_hasId]
    exact List.nodup_iff_count.mp (List.nodup_append.mp once).2.1 id
  · intro before answer after split closed
    exact (accountable.not_written_after_answer split closed).2
  · intro step
    obtain ⟨done, growsFurther, -⟩ :=
      (passage_step setup gateway step (settled_after setup outside steps)).1.grows
    exact ⟨done, growsFurther.ledger, replies_step growsFurther.ledger⟩

end Gateway

end BrowserRelay
