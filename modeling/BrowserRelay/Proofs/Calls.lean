import BrowserRelay.Proofs.Answers

/-!
# The places of calls in the ledger

A call is known by the place in the ledger at which its request was written.  It is open as long
as no later deed answers a request with its identifier.  What the relay does writes a request,
or keeps the tables of the process, or takes a process away; in each case the calls that are
open stay pending.
-/

namespace BrowserRelay

/-- At a place of a ledger, a request was written to the process of a generation. -/
structure IsCall (ledger : List Deed) (place generation : Nat) (entry : QueuedRequest)
    (id : RequestId) : Prop where
  written : ledger[place]? = some (.written generation entry)
  request : entry.id = some id

/-- Since a place of a ledger, no request with an identifier was answered. -/
def IsOpen (ledger : List Deed) (place : Nat) (id : RequestId) : Prop :=
  ∀ deed ∈ ledger.drop (place + 1), deed.isAnswerTo id = false

section Ledger

variable {ledger deeds : List Deed} {place generation : Nat} {entry : QueuedRequest}
  {id : RequestId}

namespace IsCall

theorem place_lt (call : IsCall ledger place generation entry id) : place < ledger.length :=
  (List.getElem?_eq_some_iff.mp call.written).1

theorem unique {otherGeneration : Nat} {otherEntry : QueuedRequest} {otherId : RequestId}
    (call : IsCall ledger place generation entry id)
    (other : IsCall ledger place otherGeneration otherEntry otherId) :
    generation = otherGeneration ∧ entry = otherEntry ∧ id = otherId := by
  obtain ⟨rfl, rfl⟩ :=
    Deed.written.inj (Option.some.inj (call.written.symm.trans other.written))
  exact ⟨rfl, rfl, Option.some.inj (call.request.symm.trans other.request)⟩

theorem append (call : IsCall ledger place generation entry id) (deeds : List Deed) :
    IsCall (ledger ++ deeds) place generation entry id :=
  ⟨(List.getElem?_append_left call.place_lt).trans call.written, call.request⟩

theorem append_iff (unwritten : ∀ generation entry, .written generation entry ∉ deeds) :
    IsCall (ledger ++ deeds) place generation entry id ↔
      IsCall ledger place generation entry id := by
  constructor
  · intro call
    by_cases listed : place < ledger.length
    · exact ⟨(List.getElem?_append_left listed).symm.trans call.written, call.request⟩
    · have later := call.written
      rw [List.getElem?_append_right (Nat.le_of_not_lt listed)] at later
      exact absurd (List.mem_of_getElem? later) (unwritten generation entry)
  · exact fun call => call.append deeds

theorem concat_written_iff {present : Nat} {head : QueuedRequest} :
    IsCall (ledger ++ [.written present head]) place generation entry id ↔
      IsCall ledger place generation entry id ∨
        place = ledger.length ∧ present = generation ∧ head = entry ∧ head.id = some id := by
  constructor
  · intro call
    have there := call.written
    rcases Nat.lt_trichotomy place ledger.length with listed | last | beyond
    · exact .inl ⟨(List.getElem?_append_left listed).symm.trans there, call.request⟩
    · rw [last, List.getElem?_concat_length] at there
      obtain ⟨rfl, rfl⟩ := Deed.written.inj (Option.some.inj there)
      exact .inr ⟨last, rfl, rfl, call.request⟩
    · exact absurd call.place_lt (by simpa using Nat.succ_le_of_lt beyond)
  · rintro (call | ⟨rfl, rfl, rfl, request⟩)
    · exact call.append _
    · exact ⟨List.getElem?_concat_length, request⟩

end IsCall

namespace IsOpen

theorem append_iff (listed : place < ledger.length) :
    IsOpen (ledger ++ deeds) place id ↔
      IsOpen ledger place id ∧ ∀ deed ∈ deeds, deed.isAnswerTo id = false := by
  rw [IsOpen, IsOpen, List.drop_append_of_le_length listed, List.forall_mem_append]

theorem last (deed : Deed) : IsOpen (ledger ++ [deed]) ledger.length id := by
  simp [IsOpen]

end IsOpen

end Ledger

/-! ## What the relay does to calls -/

/-- Deeds are done that write no request, and the calls that were answered are no longer
pending. -/
structure Settles (before : Traffic) (deeds : List Deed) (after : Traffic) : Prop where
  ledger : after.ledger = before.ledger ++ deeds
  unwritten : ∀ generation entry, .written generation entry ∉ deeds
  pending : ∀ call, call ∈ after.pending ↔
    call ∈ before.pending ∧ ∀ deed ∈ deeds, deed.isAnswerTo call.id = false

namespace Settles

theorem same {before after : Traffic} (ledger : after.ledger = before.ledger)
    (pending : after.pending = before.pending) : Settles before [] after :=
  ⟨by simp [ledger], by simp, by simp [pending]⟩

theorem aside {before after : Traffic} {deed : Deed}
    (ledger : after.ledger = before.ledger ++ [deed]) (pending : after.pending = before.pending)
    (aside : deed.isAside = true) : Settles before [deed] after := by
  refine ⟨ledger, fun generation entry => ?_, fun call => ?_⟩
  · cases deed <;> simp [Deed.isAside] at aside ⊢
  · cases deed <;> simp [Deed.isAside, Deed.isAnswerTo, pending] at aside ⊢

theorem accept (traffic : Traffic) (id : Option RequestId) :
    Settles traffic (id.toList.map .accepted) (traffic.accept id) := by
  refine ⟨rfl, by simp, fun call => ?_⟩
  have same : (traffic.accept id).pending = traffic.pending := rfl
  simp [same, Deed.isAnswerTo]

theorem answer {before after : Traffic} {id : RequestId} {answer : Answer}
    (ledger : after.ledger = before.ledger ++ [.answered id answer])
    (pending : ∀ call, call ∈ after.pending ↔ call ∈ before.pending ∧ call.id ≠ id) :
    Settles before [.answered id answer] after := by
  refine ⟨ledger, by simp, fun call => (pending call).trans (and_congr_right' ?_)⟩
  rw [List.forall_mem_singleton, Deed.isAnswerTo, decide_eq_false_iff_not, ne_comm]

theorem failures {before after : Traffic} {ids : List RequestId} {failure : Failure}
    (ledger : after.ledger = before.ledger ++ ids.map fun id => .answered id (.failed failure))
    (pending : ∀ call, call ∈ after.pending ↔ call ∈ before.pending ∧ call.id ∉ ids) :
    Settles before (ids.map fun id => .answered id (.failed failure)) after := by
  refine ⟨ledger, by simp, fun call => (pending call).trans (and_congr_right' ?_)⟩
  simp only [List.mem_map, forall_exists_index, and_imp, forall_apply_eq_imp_iff₂,
    Deed.isAnswerTo, decide_eq_false_iff_not]
  exact ⟨fun other id listed same => other (same ▸ listed), fun none listed => none _ listed rfl⟩

theorem trans {before middle after : Traffic} {first second : List Deed}
    (settles : Settles before first middle) (further : Settles middle second after) :
    Settles before (first ++ second) after where
  ledger := by rw [further.ledger, settles.ledger, List.append_assoc]
  unwritten generation entry written :=
    (List.mem_append.mp written).elim (settles.unwritten generation entry)
      (further.unwritten generation entry)
  pending call := by
    rw [further.pending, settles.pending, List.forall_mem_append, and_assoc]

end Settles

/-- A request with an identifier stands in one of the tables of the process. -/
def Traffic.IsNoted (traffic : Traffic) (id : RequestId) : Prop :=
  id ∈ traffic.pending.map PendingCall.id ∨ id ∈ traffic.expired.map ExpiredCall.id

/-- The process and what is noted of it stay. -/
structure Stays (before after : Traffic) : Prop where
  generation : after.generation = before.generation
  idle : after.state = .noProcess ↔ before.state = .noProcess
  noted : ∀ id, before.IsNoted id → after.IsNoted id

/-- The process is gone, or it is a new one, and no call is pending. -/
structure Renews (before after : Traffic) : Prop where
  pending : after.pending = []
  generation : before.generation ≤ after.generation
  fresh : after.state = .noProcess ∨ before.generation < after.generation

/-- What a move is for the calls. -/
inductive CallMove (before : Traffic) : Traffic → Prop
  /-- The process stays, and nothing is written to it. -/
  | stays {after : Traffic} {deeds : List Deed} (settles : Settles before deeds after)
      (stays : Stays before after) : CallMove before after
  /-- The process does not stay. -/
  | renews {after : Traffic} {deeds : List Deed} (settles : Settles before deeds after)
      (renews : Renews before after) : CallMove before after
  /-- A message is written that is not pending. -/
  | wrote {entry : QueuedRequest} {rest : List QueuedRequest} (ready : before.state = .ready)
      (waiting : before.queue = entry :: rest)
      (unsent : ∀ id, entry.id = some id → id ∉ before.pending.map PendingCall.id) :
      CallMove before ({ before with queue := rest }.write entry)

namespace CallMove

theorem kept {before after : Traffic} {deeds : List Deed} (settles : Settles before deeds after)
    (generation : after.generation = before.generation)
    (idle : after.state = .noProcess ↔ before.state = .noProcess)
    (pending : after.pending = before.pending) (expired : after.expired = before.expired) :
    CallMove before after :=
  .stays settles ⟨generation, idle, fun id noted => by
    rwa [Traffic.IsNoted, pending, expired]⟩

end CallMove

namespace Traffic

theorem mem_remove_iff {calls : List PendingCall} {id : RequestId} {call : PendingCall} :
    call ∈ CallTable.remove calls id ↔ call ∈ calls ∧ call.id ≠ id := by
  simp [CallTable.remove]

/-- All calls of the present process are answered when it is given up. -/
theorem settles_failPresent {traffic : Traffic} (failure : Failure)
    (present : ∀ call ∈ traffic.pending, call.generation = traffic.generation) :
    Settles traffic (traffic.presentIds.map fun id => .answered id (.failed failure))
      (traffic.failPresent failure) := by
  refine .failures rfl fun call => ?_
  have none : (traffic.failPresent failure).pending = [] := pending_forget present
  rw [none, presentIds_eq present]
  exact ⟨by simp, fun kept => absurd (List.mem_map_of_mem kept.1) kept.2⟩

end Traffic

theorem Traffic.settles_respond (traffic : Traffic) (id : RequestId) (line : String) :
    Settles traffic [.answered id (.response line)] (traffic.respond id line) :=
  .answer rfl fun _ => mem_remove_iff

theorem Traffic.IsAccountable.unsent {traffic : Traffic} (accountable : traffic.IsAccountable)
    {id : RequestId} (waiting : id ∈ traffic.queue.filterMap QueuedRequest.id) :
    id ∉ traffic.pending.map PendingCall.id :=
  fun pending => (List.nodup_append.mp accountable.nodup).2.2 id pending id waiting rfl

theorem Move.callMove {setup : Setup} {before after : Traffic} (move : Move setup before after)
    (present : before.IsPresent) (accountable : before.IsAccountable) :
    CallMove before after := by
  have noCalls {id : RequestId} (unsent : id ∉ before.pending.map PendingCall.id)
      (call : PendingCall) : call ∈ before.pending ↔ call ∈ before.pending ∧ call.id ≠ id :=
    ⟨fun listed => ⟨listed, fun same => unsent (same ▸ List.mem_map_of_mem listed)⟩, And.left⟩
  cases move with
  | launched idle =>
      exact .renews (.same rfl rfl)
        ⟨(present.idle idle).1, Nat.le_succ _, .inr (Nat.lt_succ_self _)⟩
  | launchFailed idle =>
      exact .renews (.same rfl rfl)
        ⟨(present.idle idle).1, Nat.le_succ _, .inr (Nat.lt_succ_self _)⟩
  | probed => exact .kept (.aside rfl rfl rfl) rfl Iff.rfl rfl rfl
  | probeRefused running =>
      exact .kept (.same rfl rfl) rfl (by simp [Traffic.demote, Traffic.disarm, running]) rfl rfl
  | demoted ready => exact .kept (.same rfl rfl) rfl (by simp [Traffic.demote, ready]) rfl rfl
  | wrote ready waiting =>
      refine .wrote ready waiting fun id request => accountable.unsent ?_
      rw [waiting]
      simp [request]
  | @abandoned entry rest failure ready waiting =>
      let lost := ({ before with queue := rest }.refuse entry).release
      have refused : Settles before [.refused before.generation entry] lost := .aside rfl rfl rfl
      have others := lost.settles_failPresent failure present.pending
      have none : (lost.failPresent failure).pending = [] := Traffic.pending_forget present.pending
      have itself : Settles (lost.failPresent failure) _
          ((lost.failPresent failure).failAll entry.id.toList failure) :=
        .failures rfl fun call => by
          rw [Traffic.failAll, none]
          simp
      exact .renews ((refused.trans others).trans itself) ⟨none, Nat.le_refl _, .inl rfl⟩
  | @retried entry rest failure ready waiting =>
      let lost := ({ before with queue := rest }.refuse entry).release
      have refused : Settles before [.refused before.generation entry] lost := .aside rfl rfl rfl
      have others := lost.settles_failPresent failure present.pending
      have requeued : Settles (lost.failPresent failure) []
          ((lost.failPresent failure).requeue { entry with attempts := entry.attempts + 1 }) :=
        .same rfl rfl
      exact .renews ((refused.trans others).trans requeued)
        ⟨Traffic.pending_forget present.pending, Nat.le_refl _, .inl rfl⟩
  | @ended failure backoff running =>
      let lost := before.release.armRestart backoff
      have released : Settles before [] lost := .same rfl rfl
      exact .renews (released.trans (lost.settles_failPresent failure present.pending))
        ⟨Traffic.pending_forget present.pending, Nat.le_refl _, .inl rfl⟩
  | queueFailed failure idle =>
      have none : before.pending = [] := (present.idle idle).1
      exact .kept (.failures rfl fun call => by simp [Traffic.failQueue, Traffic.failAll, none])
        rfl Iff.rfl rfl rfl
  | @expired id call failure found =>
      obtain ⟨listed, rfl⟩ := CallTable.mem_of_find? found
      refine .stays (.answer rfl fun other => Traffic.mem_remove_iff) ⟨rfl, Iff.rfl, ?_⟩
      intro id noted
      by_cases same : id = call.id
      · exact .inr (List.mem_map.mpr ⟨⟨call.id, call.generation⟩, by simp [Traffic.answer,
          Traffic.expire, Traffic.enter], same.symm⟩)
      · rcases noted with pending | expired
        · obtain ⟨other, kept, rfl⟩ := List.mem_map.mp pending
          exact .inl (List.mem_map_of_mem (Traffic.mem_remove_iff.mpr ⟨kept, same⟩))
        · obtain ⟨other, kept, rfl⟩ := List.mem_map.mp expired
          refine .inr (List.mem_map_of_mem (List.mem_append_left _ ?_))
          exact List.mem_filter.mpr ⟨kept, by simpa using same⟩
  | withdrawn failure unsent waiting =>
      exact .kept (.answer rfl (noCalls (CallTable.find?_eq_none_iff.mp unsent))) rfl Iff.rfl rfl
        rfl
  | startedLate failure starting waiting =>
      have unsent := accountable.unsent (RequestQueue.contains_iff.mp waiting)
      exact .kept (.answer rfl (noCalls unsent)) rfl Iff.rfl rfl rfl
  | told => exact .kept (.aside rfl rfl rfl) rfl Iff.rfl rfl rfl
  | elapsed => exact .kept (.same rfl rfl) rfl Iff.rfl rfl rfl

/-! ## Open calls are pending -/

/-- Every call that is open is pending, with the plan for its response. -/
def Traffic.IsTracked (traffic : Traffic) : Prop :=
  ∀ place generation entry id, IsCall traffic.ledger place generation entry id →
    IsOpen traffic.ledger place id → ⟨id, entry.plan, generation⟩ ∈ traffic.pending

theorem Settles.isTracked {before after : Traffic} {deeds : List Deed}
    (settles : Settles before deeds after) (tracked : before.IsTracked) : after.IsTracked := by
  intro place generation entry id call isOpen
  rw [settles.ledger] at call isOpen
  have earlier := (IsCall.append_iff settles.unwritten).mp call
  obtain ⟨wasOpen, unanswered⟩ := (IsOpen.append_iff earlier.place_lt).mp isOpen
  exact (settles.pending _).mpr ⟨tracked place generation entry id earlier wasOpen, unanswered⟩

namespace Traffic

theorem mem_pending_write_iff {traffic : Traffic} {entry : QueuedRequest}
    (rest : List QueuedRequest)
    (unsent : ∀ id, entry.id = some id → id ∉ traffic.pending.map PendingCall.id)
    (call : PendingCall) :
    call ∈ ({ traffic with queue := rest }.write entry).pending ↔
      call ∈ traffic.pending ∨
        entry.id = some call.id ∧ call = ⟨call.id, entry.plan, traffic.generation⟩ := by
  cases request : entry.id with
  | none => simp [write, addPending, request, enter]
  | some id =>
      have kept : CallTable.remove traffic.pending id = traffic.pending := by
        refine List.filter_eq_self.mpr fun other listed => ?_
        have different : other.id ≠ id := by
          rintro rfl
          exact unsent other.id request (List.mem_map_of_mem listed)
        simp [different]
      simp only [write, addPending, request, enter, CallTable.insert, kept, List.mem_append,
        List.mem_singleton, Option.some.injEq]
      refine or_congr_right ⟨?_, ?_⟩
      · rintro rfl
        exact ⟨rfl, rfl⟩
      · rintro ⟨rfl, same⟩
        exact same

theorem IsTracked.write {traffic : Traffic} {entry : QueuedRequest} {rest : List QueuedRequest}
    (tracked : traffic.IsTracked)
    (unsent : ∀ id, entry.id = some id → id ∉ traffic.pending.map PendingCall.id) :
    ({ traffic with queue := rest }.write entry).IsTracked := by
  intro place generation other id call isOpen
  refine (mem_pending_write_iff rest unsent _).mpr ?_
  rcases IsCall.concat_written_iff.mp call with earlier | ⟨-, rfl, rfl, request⟩
  · exact .inl (tracked place generation other id earlier
      ((IsOpen.append_iff earlier.place_lt).mp isOpen).1)
  · exact .inr ⟨request, rfl⟩

end Traffic

theorem CallMove.isTracked {before after : Traffic} (move : CallMove before after)
    (tracked : before.IsTracked) : after.IsTracked := by
  cases move with
  | stays settles _ => exact settles.isTracked tracked
  | renews settles _ => exact settles.isTracked tracked
  | wrote ready waiting unsent => exact tracked.write unsent

theorem Moves.isTracked {setup : Setup} {before after : Traffic}
    (moves : Moves setup before after) (present : before.IsPresent)
    (accountable : before.IsAccountable) (tracked : before.IsTracked) : after.IsTracked := by
  induction moves with
  | refl => exact tracked
  | tail earlier move ih =>
      exact (move.callMove (Moves.isPresent earlier present)
        (Moves.isAccountable earlier present accountable)).isTracked ih

/-! ## What arrives -/

namespace Traffic

variable {traffic : Traffic}

theorem callMove_wake (setup : Setup) (starting : traffic.state = .starting) :
    CallMove traffic (traffic.wake setup) :=
  .kept (.same rfl rfl) rfl (by simp [wake, disarm, arm, starting]) rfl rfl

theorem callMove_turnAway {id : Option RequestId} (failure : Failure)
    (free : ∀ own, id = some own → traffic.IsFree own) :
    CallMove traffic (traffic.turnAway id failure) := by
  have answered : Settles (traffic.accept id) _ (traffic.turnAway id failure) :=
    .failures rfl fun call => by
      refine (and_iff_left_of_imp fun listed => ?_).symm
      intro own
      have unused := CallTable.find?_eq_none_iff.mp (free call.id (Option.mem_toList.mp own)).1
      exact unused (List.mem_map_of_mem listed)
  exact .kept ((Settles.accept traffic id).trans answered) rfl Iff.rfl rfl rfl

theorem callMove_takeIn (setup : Setup) (entry : QueuedRequest) :
    CallMove traffic (traffic.takeIn setup entry) := by
  have taken : Settles (traffic.accept entry.id) [.forwarded entry] (traffic.takeIn setup entry) :=
    .aside rfl rfl rfl
  exact .kept ((Settles.accept traffic entry.id).trans taken) rfl Iff.rfl rfl rfl

end Traffic

theorem Passage.isTracked {setup : Setup} {before after : Traffic} {arrival : Option Arrival}
    (passage : Passage setup before arrival after) (present : before.IsPresent)
    (accountable : before.IsAccountable) (tracked : before.IsTracked) : after.IsTracked := by
  cases passage with
  | quiet moves => exact moves.isTracked present accountable tracked
  | woken starting moves =>
      exact moves.isTracked (present.wake setup) accountable
        ((Traffic.callMove_wake setup starting).isTracked tracked)
  | turnedAway message failure free moves =>
      exact moves.isTracked (present.turnAway message.answerId failure)
        (accountable.turnAway failure free)
        ((Traffic.callMove_turnAway failure free).isTracked tracked)
  | @takenIn middle _ message first kept free moves =>
      have middleAccountable := first.isAccountable present accountable
      exact moves.isTracked ((first.isPresent present).takeIn setup message.entry)
        (middleAccountable.takeIn setup message.entry free)
        ((middle.callMove_takeIn setup message.entry).isTracked
          (first.isTracked present accountable tracked))
  | responded response found =>
      exact (before.settles_respond response.id _).isTracked tracked
  | recalled response missing timedOut => exact Settles.isTracked (.same rfl rfl) tracked
  | unmatched response missing unknown => exact Settles.isTracked (.aside rfl rfl rfl) tracked

end BrowserRelay
