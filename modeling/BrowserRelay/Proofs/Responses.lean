import BrowserRelay.Proofs.Calls

/-!
# Calls that the process may still respond to

A process that responds to requests with the same identifier in the order in which they were
written may still respond to the calls behind those that it has responded to.  As long as no
request takes over the identifier of a call that has timed out, there is at most one such call
with an identifier, and one of the tables notes it.
-/

namespace BrowserRelay

namespace Traffic

/-- No call that has timed out shares its identifier with a request in flight. -/
def IsApart (traffic : Traffic) : Prop :=
  ∀ call ∈ traffic.expired, call.id ∉ traffic.inFlight

theorem IsApart.shrink {before after : Traffic} (apart : before.IsApart)
    (expired : after.expired ⊆ before.expired) (inFlight : after.inFlight ⊆ before.inFlight) :
    after.IsApart :=
  fun call listed => mt (@inFlight call.id) (apart call (expired listed))

theorem IsApart.of_empty {traffic : Traffic} (none : traffic.expired = []) : traffic.IsApart := by
  simp [IsApart, none]

theorem IsApart.takeIn {traffic : Traffic} (setup : Setup) (entry : QueuedRequest)
    (apart : traffic.IsApart)
    (fresh : ∀ id, entry.id = some id → id ∉ traffic.expired.map ExpiredCall.id) :
    (traffic.takeIn setup entry).IsApart := by
  intro call listed
  rw [inFlight_takeIn, List.mem_append, not_or]
  refine ⟨apart call listed, fun own => ?_⟩
  exact fresh call.id (Option.mem_toList.mp own) (List.mem_map_of_mem listed)

end Traffic

theorem Move.isApart {setup : Setup} {before after : Traffic} (move : Move setup before after)
    (present : before.IsPresent) (accountable : before.IsAccountable) (apart : before.IsApart) :
    after.IsApart := by
  have same : before.expired ⊆ before.expired := List.Subset.refl _
  cases move with
  | launched => exact apart
  | launchFailed => exact apart
  | probed => exact apart
  | probeRefused => exact apart
  | demoted => exact apart
  | @wrote entry rest ready waiting =>
      refine apart.shrink same (List.Perm.subset (.of_eq ?_))
      have unsent (id : RequestId) (request : entry.id = some id) :
          id ∉ before.pending.map PendingCall.id :=
        accountable.unsent (by simp [waiting, request])
      rw [Traffic.inFlight_of_waiting waiting]
      exact Traffic.inFlight_addPending unsent
  | abandoned => exact .of_empty (Traffic.expired_forget present.expired)
  | retried => exact .of_empty (Traffic.expired_forget present.expired)
  | ended => exact .of_empty (Traffic.expired_forget present.expired)
  | queueFailed => exact apart.shrink same (by simp [Traffic.inFlight, Traffic.failQueue,
      Traffic.failAll])
  | @expired id call failure found =>
      obtain rfl := (CallTable.mem_of_find? found).2
      have others := Traffic.perm_inFlight_resolve accountable found
      have once := others.nodup accountable.nodup
      intro other listed
      rcases List.mem_append.mp listed with old | new
      · exact fun waiting =>
          apart other (List.filter_sublist.subset old)
            (others.mem_iff.mpr (List.mem_cons_of_mem _ waiting))
      · rw [List.mem_singleton.mp new]
        exact (List.nodup_cons.mp once).1
  | withdrawn failure unsent waiting =>
      exact apart.shrink same fun id left =>
        (Traffic.perm_inFlight_withdraw waiting).mem_iff.mpr (List.mem_cons_of_mem _ left)
  | startedLate failure starting waiting =>
      exact apart.shrink same fun id left =>
        (Traffic.perm_inFlight_withdraw waiting).mem_iff.mpr (List.mem_cons_of_mem _ left)
  | told => exact apart
  | elapsed => exact apart

/-! ## What the process may still respond to -/

namespace Traffic

/-- The present process may still respond to the call at a place, since it has responded only
to earlier ones with the same identifier. -/
structure MayRespond (traffic : Traffic) (given : List Nat) (place : Nat) (id : RequestId) :
    Prop where
  running : traffic.state ≠ .noProcess
  call : ∃ entry, IsCall traffic.ledger place traffic.generation entry id
  ordered : ∀ earlier ∈ given, ∀ entry,
    IsCall traffic.ledger earlier traffic.generation entry id → earlier < place

/-- Of the calls with an identifier, the present process may respond to at most one; one of the
tables notes it, and it is open if it is pending. -/
structure IsUnambiguous (traffic : Traffic) (given : List Nat) : Prop where
  past : ∀ place generation entry id, IsCall traffic.ledger place generation entry id →
    generation ≤ traffic.generation
  known : ∀ place ∈ given, place < traffic.ledger.length
  noted : ∀ place id, traffic.MayRespond given place id → traffic.IsNoted id
  single : ∀ place other id, traffic.MayRespond given place id →
    traffic.MayRespond given other id → place = other
  awaited : ∀ call ∈ traffic.pending, ∃ place,
    traffic.MayRespond given place call.id ∧ IsOpen traffic.ledger place call.id

end Traffic

section Steps

variable {before after : Traffic} {deeds : List Deed} {given : List Nat}

theorem Settles.isCall_iff (settles : Settles before deeds after) {place generation : Nat}
    {entry : QueuedRequest} {id : RequestId} :
    IsCall after.ledger place generation entry id ↔
      IsCall before.ledger place generation entry id := by
  rw [settles.ledger]
  exact IsCall.append_iff settles.unwritten

theorem Settles.length_le (settles : Settles before deeds after) :
    before.ledger.length ≤ after.ledger.length := by
  rw [settles.ledger, List.length_append]
  exact Nat.le_add_right _ _

theorem Stays.mayRespond_iff (stays : Stays before after) (settles : Settles before deeds after)
    (place : Nat) (id : RequestId) :
    after.MayRespond given place id ↔ before.MayRespond given place id := by
  constructor
  · rintro ⟨running, ⟨entry, call⟩, ordered⟩
    rw [stays.generation] at call ordered
    exact ⟨mt stays.idle.mpr running, ⟨entry, settles.isCall_iff.mp call⟩,
      fun earlier listed other found =>
        ordered earlier listed other (settles.isCall_iff.mpr found)⟩
  · rintro ⟨running, ⟨entry, call⟩, ordered⟩
    rw [← stays.generation] at call ordered
    exact ⟨mt stays.idle.mp running, ⟨entry, settles.isCall_iff.mpr call⟩,
      fun earlier listed other found =>
        ordered earlier listed other (settles.isCall_iff.mp found)⟩

theorem Stays.isUnambiguous (stays : Stays before after) (settles : Settles before deeds after)
    (unambiguous : before.IsUnambiguous given) : after.IsUnambiguous given where
  past place generation entry id call := by
    rw [stays.generation]
    exact unambiguous.past place generation entry id (settles.isCall_iff.mp call)
  known place listed := Nat.lt_of_lt_of_le (unambiguous.known place listed) settles.length_le
  noted place id may :=
    stays.noted id (unambiguous.noted place id ((stays.mayRespond_iff settles place id).mp may))
  single place other id may mayOther :=
    unambiguous.single place other id ((stays.mayRespond_iff settles place id).mp may)
      ((stays.mayRespond_iff settles other id).mp mayOther)
  awaited call listed := by
    obtain ⟨earlier, unanswered⟩ := (settles.pending call).mp listed
    obtain ⟨place, may, isOpen⟩ := unambiguous.awaited call earlier
    obtain ⟨entry, found⟩ := may.call
    refine ⟨place, (stays.mayRespond_iff settles place call.id).mpr may, ?_⟩
    rw [settles.ledger]
    exact (IsOpen.append_iff found.place_lt).mpr ⟨isOpen, unanswered⟩

/-- Nothing was written to a new process yet. -/
theorem Renews.not_mayRespond (renews : Renews before after)
    (settles : Settles before deeds after) (unambiguous : before.IsUnambiguous given)
    (place : Nat) (id : RequestId) : ¬after.MayRespond given place id := by
  rintro ⟨running, ⟨entry, call⟩, -⟩
  have past := unambiguous.past place _ entry id (settles.isCall_iff.mp call)
  rcases renews.fresh with gone | newer
  · exact running gone
  · exact Nat.lt_irrefl _ (Nat.lt_of_lt_of_le newer past)

theorem Renews.isUnambiguous (renews : Renews before after) (settles : Settles before deeds after)
    (unambiguous : before.IsUnambiguous given) : after.IsUnambiguous given where
  past place generation entry id call :=
    Nat.le_trans (unambiguous.past place generation entry id (settles.isCall_iff.mp call))
      renews.generation
  known place listed := Nat.lt_of_lt_of_le (unambiguous.known place listed) settles.length_le
  noted place id may := absurd may (renews.not_mayRespond settles unambiguous place id)
  single place other id may _ := absurd may (renews.not_mayRespond settles unambiguous place id)
  awaited call listed := by
    rw [renews.pending] at listed
    simp at listed

theorem mayRespond_write_iff {traffic : Traffic} (entry : QueuedRequest)
    (rest : List QueuedRequest) (ready : traffic.state = .ready)
    (known : ∀ place ∈ given, place < traffic.ledger.length) (place : Nat) (id : RequestId) :
    ({ traffic with queue := rest }.write entry).MayRespond given place id ↔
      traffic.MayRespond given place id ∨
        place = traffic.ledger.length ∧ entry.id = some id := by
  have running : traffic.state ≠ .noProcess := by simp [ready]
  constructor
  · rintro ⟨-, ⟨other, call⟩, ordered⟩
    rcases IsCall.concat_written_iff.mp call with earlier | ⟨rfl, -, rfl, request⟩
    · exact .inl ⟨running, ⟨other, earlier⟩, fun place listed found foundCall =>
        ordered place listed found (IsCall.concat_written_iff.mpr (.inl foundCall))⟩
    · exact .inr ⟨rfl, request⟩
  · rintro (⟨-, ⟨other, call⟩, ordered⟩ | ⟨rfl, request⟩)
    · refine ⟨running, ⟨other, IsCall.concat_written_iff.mpr (.inl call)⟩, ?_⟩
      intro earlier listed found foundCall
      rcases IsCall.concat_written_iff.mp foundCall with old | ⟨rfl, -⟩
      · exact ordered earlier listed found old
      · exact absurd (known _ listed) (Nat.lt_irrefl _)
    · exact ⟨running, ⟨entry, IsCall.concat_written_iff.mpr (.inr ⟨rfl, rfl, rfl, request⟩)⟩,
        fun earlier listed _ _ => known earlier listed⟩

/-- A request that is written stands in no table, so it is the only one with its identifier. -/
theorem Traffic.IsUnambiguous.write {traffic : Traffic} {entry : QueuedRequest}
    {rest : List QueuedRequest} (unambiguous : traffic.IsUnambiguous given)
    (ready : traffic.state = .ready)
    (unsent : ∀ id, entry.id = some id → id ∉ traffic.pending.map PendingCall.id)
    (unexpired : ∀ id, entry.id = some id → id ∉ traffic.expired.map ExpiredCall.id) :
    ({ traffic with queue := rest }.write entry).IsUnambiguous given := by
  have mayRespond (place : Nat) (id : RequestId) :=
    mayRespond_write_iff entry rest ready unambiguous.known place id
  have pending := Traffic.mem_pending_write_iff rest unsent
  have unnoted (place : Nat) (id : RequestId) (request : entry.id = some id) :
      ¬traffic.MayRespond given place id := fun may =>
    (unambiguous.noted place id may).elim (unsent id request) (unexpired id request)
  have longer : traffic.ledger.length <
      ({ traffic with queue := rest }.write entry).ledger.length := by
    simp [Traffic.write, Traffic.addPending, Traffic.enter]
  constructor
  case past =>
    intro place generation other id call
    rcases IsCall.concat_written_iff.mp call with old | ⟨-, rfl, -⟩
    · exact unambiguous.past place generation other id old
    · exact Nat.le_refl _
  case known =>
    intro place listed
    exact Nat.lt_trans (unambiguous.known place listed) longer
  case noted =>
    intro place id may
    rcases (mayRespond place id).mp may with old | ⟨-, request⟩
    · rcases unambiguous.noted place id old with listed | listed
      · obtain ⟨call, kept, rfl⟩ := List.mem_map.mp listed
        exact .inl (List.mem_map_of_mem ((pending call).mpr (.inl kept)))
      · exact .inr listed
    · exact .inl (List.mem_map.mpr ⟨⟨id, entry.plan, traffic.generation⟩,
        (pending _).mpr (.inr ⟨request, rfl⟩), rfl⟩)
  case single =>
    intro place other id may mayOther
    rcases (mayRespond place id).mp may with old | ⟨rfl, request⟩
    · rcases (mayRespond other id).mp mayOther with oldOther | ⟨-, request⟩
      · exact unambiguous.single place other id old oldOther
      · exact absurd old (unnoted place id request)
    · rcases (mayRespond other id).mp mayOther with oldOther | ⟨rfl, -⟩
      · exact absurd oldOther (unnoted other id request)
      · rfl
  case awaited =>
    intro call listed
    rcases (pending call).mp listed with old | ⟨request, -⟩
    · obtain ⟨place, may, isOpen⟩ := unambiguous.awaited call old
      obtain ⟨other, found⟩ := may.call
      refine ⟨place, (mayRespond place call.id).mpr (.inl may), ?_⟩
      exact (IsOpen.append_iff found.place_lt).mpr ⟨isOpen, by simp [Deed.isAnswerTo]⟩
    · exact ⟨traffic.ledger.length, (mayRespond _ call.id).mpr (.inr ⟨rfl, request⟩),
        IsOpen.last _⟩

theorem CallMove.isUnambiguous (move : CallMove before after) (apart : before.IsApart)
    (unambiguous : before.IsUnambiguous given) : after.IsUnambiguous given := by
  cases move with
  | stays settles stays => exact stays.isUnambiguous settles unambiguous
  | renews settles renews => exact renews.isUnambiguous settles unambiguous
  | @wrote entry rest ready waiting unsent =>
      refine unambiguous.write ready unsent fun id request expired => ?_
      obtain ⟨call, listed, rfl⟩ := List.mem_map.mp expired
      exact apart call listed (by simp [Traffic.inFlight, waiting, request])

/-! ## Responses -/

/-- When the process responds to a call, it will not respond to another with the same
identifier. -/
theorem Traffic.IsUnambiguous.respond {place : Nat} {id : RequestId}
    (unambiguous : before.IsUnambiguous given) (settles : Settles before deeds after)
    (generation : after.generation = before.generation) (state : after.state = before.state)
    (may : before.MayRespond given place id)
    (resolved : id ∉ after.pending.map PendingCall.id)
    (kept : ∀ other, other ≠ id → before.IsNoted other → after.IsNoted other) :
    after.IsUnambiguous (given ++ [place]) := by
  obtain ⟨entry, found⟩ := may.call
  have mayRespond (other : Nat) (otherId : RequestId) :
      after.MayRespond (given ++ [place]) other otherId ↔
        before.MayRespond given other otherId ∧ otherId ≠ id := by
    constructor
    · rintro ⟨running, ⟨otherEntry, call⟩, ordered⟩
      rw [generation] at call ordered
      have earlier : before.MayRespond given other otherId :=
        ⟨state ▸ running, ⟨otherEntry, settles.isCall_iff.mp call⟩,
          fun place listed entry isCall =>
            ordered place (List.mem_append_left _ listed) entry (settles.isCall_iff.mpr isCall)⟩
      refine ⟨earlier, ?_⟩
      -- Were it for the same identifier, it would be the call that was just responded to.
      rintro rfl
      have behind := ordered place (by simp) entry (settles.isCall_iff.mpr found)
      rw [unambiguous.single place other otherId may earlier] at behind
      exact Nat.lt_irrefl _ behind
    · rintro ⟨⟨running, ⟨otherEntry, call⟩, ordered⟩, different⟩
      rw [← generation] at call ordered
      refine ⟨state ▸ running, ⟨otherEntry, settles.isCall_iff.mpr call⟩, ?_⟩
      intro earlier listed earlierEntry isCall
      have isCallBefore := settles.isCall_iff.mp isCall
      rcases List.mem_append.mp listed with old | new
      · exact ordered earlier old earlierEntry isCallBefore
      · rw [List.mem_singleton.mp new] at isCallBefore
        exact absurd (isCallBefore.unique found).2.2 different
  constructor
  case past =>
    intro other otherGeneration otherEntry otherId call
    rw [generation]
    exact unambiguous.past other otherGeneration otherEntry otherId (settles.isCall_iff.mp call)
  case known =>
    intro other listed
    refine Nat.lt_of_lt_of_le ?_ settles.length_le
    rcases List.mem_append.mp listed with old | new
    · exact unambiguous.known other old
    · rw [List.mem_singleton.mp new]
      exact found.place_lt
  case noted =>
    intro other otherId mayOther
    obtain ⟨earlier, different⟩ := (mayRespond other otherId).mp mayOther
    exact kept otherId different (unambiguous.noted other otherId earlier)
  case single =>
    intro first second otherId mayFirst maySecond
    exact unambiguous.single first second otherId ((mayRespond first otherId).mp mayFirst).1
      ((mayRespond second otherId).mp maySecond).1
  case awaited =>
    intro call listed
    have different : call.id ≠ id := fun same => resolved (same ▸ List.mem_map_of_mem listed)
    obtain ⟨earlier, unanswered⟩ := (settles.pending call).mp listed
    obtain ⟨other, mayOther, isOpen⟩ := unambiguous.awaited call earlier
    obtain ⟨otherEntry, otherFound⟩ := mayOther.call
    refine ⟨other, (mayRespond other call.id).mpr ⟨mayOther, different⟩, ?_⟩
    rw [settles.ledger]
    exact (IsOpen.append_iff otherFound.place_lt).mpr ⟨isOpen, unanswered⟩

theorem Traffic.IsUnambiguous.ignore {traffic : Traffic} {place generation : Nat}
    {entry : QueuedRequest} {id : RequestId} (unambiguous : traffic.IsUnambiguous given)
    (call : IsCall traffic.ledger place generation entry id)
    (stale : traffic.state = .noProcess ∨ generation ≠ traffic.generation) :
    traffic.IsUnambiguous (given ++ [place]) := by
  have mayRespond (other : Nat) (otherId : RequestId) :
      traffic.MayRespond (given ++ [place]) other otherId ↔
        traffic.MayRespond given other otherId := by
    refine ⟨fun may => ⟨may.running, may.call, fun earlier listed =>
      may.ordered earlier (List.mem_append_left _ listed)⟩, fun may => ⟨may.running, may.call, ?_⟩⟩
    intro earlier listed otherEntry isCall
    rcases List.mem_append.mp listed with old | new
    · exact may.ordered earlier old otherEntry isCall
    · rw [List.mem_singleton.mp new] at isCall
      rcases stale with gone | other
      · exact absurd gone may.running
      · exact absurd (call.unique isCall).1 other
  constructor
  case past => exact unambiguous.past
  case known =>
    intro other listed
    rcases List.mem_append.mp listed with old | new
    · exact unambiguous.known other old
    · rw [List.mem_singleton.mp new]
      exact call.place_lt
  case noted =>
    intro other otherId may
    exact unambiguous.noted other otherId ((mayRespond other otherId).mp may)
  case single =>
    intro first second otherId mayFirst maySecond
    exact unambiguous.single first second otherId ((mayRespond first otherId).mp mayFirst)
      ((mayRespond second otherId).mp maySecond)
  case awaited =>
    intro pending listed
    obtain ⟨other, may, isOpen⟩ := unambiguous.awaited pending listed
    exact ⟨other, (mayRespond other pending.id).mpr may, isOpen⟩

end Steps

/-! ## Steps without reuse of identifiers -/

/-- What holds of the traffic after the processes have responded to the calls at some places, if
no request took over the identifier of a call that has timed out. -/
structure Traffic.IsOrderly (traffic : Traffic) (given : List Nat) : Prop where
  present : traffic.IsPresent
  accountable : traffic.IsAccountable
  tracked : traffic.IsTracked
  apart : traffic.IsApart
  unambiguous : traffic.IsUnambiguous given

theorem Move.isOrderly {setup : Setup} {before after : Traffic} {given : List Nat}
    (move : Move setup before after) (orderly : before.IsOrderly given) :
    after.IsOrderly given := by
  obtain ⟨present, accountable, tracked, apart, unambiguous⟩ := orderly
  have callMove := move.callMove present accountable
  exact ⟨move.isPresent present, move.isAccountable present accountable,
    callMove.isTracked tracked, move.isApart present accountable apart,
    callMove.isUnambiguous apart unambiguous⟩

theorem Moves.isOrderly {setup : Setup} {before after : Traffic} {given : List Nat}
    (moves : Moves setup before after) (orderly : before.IsOrderly given) :
    after.IsOrderly given := by
  induction moves with
  | refl => exact orderly
  | tail _ move ih => exact move.isOrderly ih

namespace Traffic.IsOrderly

variable {traffic : Traffic} {given : List Nat}

theorem wake (setup : Setup) (orderly : traffic.IsOrderly given)
    (starting : traffic.state = .starting) : (traffic.wake setup).IsOrderly given :=
  have callMove := callMove_wake setup starting
  ⟨orderly.present.wake setup, orderly.accountable, callMove.isTracked orderly.tracked,
    orderly.apart, callMove.isUnambiguous orderly.apart orderly.unambiguous⟩

theorem turnAway {id : Option RequestId} (failure : Failure) (orderly : traffic.IsOrderly given)
    (free : ∀ own, id = some own → traffic.IsFree own) :
    (traffic.turnAway id failure).IsOrderly given :=
  have callMove := callMove_turnAway failure free
  ⟨orderly.present.turnAway id failure, orderly.accountable.turnAway failure free,
    callMove.isTracked orderly.tracked, orderly.apart,
    callMove.isUnambiguous orderly.apart orderly.unambiguous⟩

theorem takeIn (setup : Setup) (entry : QueuedRequest) (orderly : traffic.IsOrderly given)
    (free : ∀ own, entry.id = some own → traffic.IsFree own)
    (fresh : ∀ own, entry.id = some own → own ∉ traffic.expired.map ExpiredCall.id) :
    (traffic.takeIn setup entry).IsOrderly given :=
  have callMove := traffic.callMove_takeIn setup entry
  ⟨orderly.present.takeIn setup entry, orderly.accountable.takeIn setup entry free,
    callMove.isTracked orderly.tracked, orderly.apart.takeIn setup entry fresh,
    callMove.isUnambiguous orderly.apart orderly.unambiguous⟩

end Traffic.IsOrderly

/-- A step in which no process responds, and no request takes over the identifier of a call that
has timed out. -/
theorem Passage.isOrderly {setup : Setup} {before after : Traffic} {arrival : Option Arrival}
    {given : List Nat} (passage : Passage setup before arrival after)
    (silent : arrival.bind Arrival.response? = none)
    (fresh : ∀ id, arrival.bind Arrival.acceptedId? = some id →
      id ∉ before.expired.map ExpiredCall.id)
    (orderly : before.IsOrderly given) : after.IsOrderly given := by
  cases passage with
  | quiet moves => exact moves.isOrderly orderly
  | woken starting moves => exact moves.isOrderly (orderly.wake setup starting)
  | turnedAway message failure free moves => exact moves.isOrderly (orderly.turnAway failure free)
  | takenIn message first kept free moves =>
      refine moves.isOrderly ((first.isOrderly orderly).takeIn setup message.entry free ?_)
      rw [kept]
      exact fresh
  | responded => simp [Arrival.response?] at silent
  | recalled => simp [Arrival.response?] at silent
  | unmatched => simp [Arrival.response?] at silent

theorem Passage.response_cases {setup : Setup} {before after : Traffic} {response : Response}
    (passage : Passage setup before (some (.response response)) after) :
    (∃ call, CallTable.find? before.pending response.id = some call ∧
        after = before.respond response.id
          (Gateway.responseText setup call.plan response.message response.raw)) ∨
      CallTable.find? before.pending response.id = none ∧
        ((response.id ∈ before.expired.map ExpiredCall.id ∧
            after = before.forgetExpired response.id) ∨
          response.id ∉ before.expired.map ExpiredCall.id ∧
            after = before.enter (.told response.raw)) := by
  have listed : (before.expired.any fun call => call.id = response.id) = true ↔
      response.id ∈ before.expired.map ExpiredCall.id := by
    simp
  cases passage with
  | responded _ found => exact .inl ⟨_, found, rfl⟩
  | recalled _ missing timedOut => exact .inr ⟨missing, .inl ⟨listed.mp timedOut, rfl⟩⟩
  | unmatched _ missing unknown =>
      refine .inr ⟨missing, .inr ⟨fun known => ?_, rfl⟩⟩
      exact absurd (unknown.symm.trans (listed.mpr known)) (by simp)

/-- A response to a call that the process may still respond to. -/
theorem Passage.isOrderly_response {setup : Setup} {before after : Traffic} {response : Response}
    {given : List Nat} {place : Nat}
    (passage : Passage setup before (some (.response response)) after)
    (may : before.MayRespond given place response.id) (orderly : before.IsOrderly given) :
    after.IsOrderly (given ++ [place]) := by
  obtain ⟨present, accountable, tracked, apart, unambiguous⟩ := orderly
  have same : before.expired ⊆ before.expired := List.Subset.refl _
  have kept : after.IsApart ∧ after.IsUnambiguous (given ++ [place]) := by
    rcases passage.response_cases with
      ⟨call, found, rfl⟩ | ⟨missing, ⟨noted, rfl⟩ | ⟨unknown, rfl⟩⟩
    · constructor
      · exact apart.shrink same fun id left =>
          (Traffic.perm_inFlight_resolve accountable found).mem_iff.mpr
            (List.mem_cons_of_mem _ left)
      · refine unambiguous.respond (before.settles_respond response.id _) rfl rfl may ?_ ?_
        · rintro listed
          obtain ⟨other, kept, same⟩ := List.mem_map.mp listed
          exact (Traffic.mem_remove_iff.mp kept).2 same
        · rintro id different (listed | listed)
          · obtain ⟨other, kept, rfl⟩ := List.mem_map.mp listed
            exact .inl (List.mem_map_of_mem (Traffic.mem_remove_iff.mpr ⟨kept, different⟩))
          · exact .inr listed
    · constructor
      · exact apart.shrink List.filter_sublist.subset (List.Subset.refl _)
      · refine unambiguous.respond (.same rfl rfl) rfl rfl may
          (CallTable.find?_eq_none_iff.mp missing) ?_
        rintro id different (listed | listed)
        · exact .inl listed
        · obtain ⟨other, kept, rfl⟩ := List.mem_map.mp listed
          exact .inr (List.mem_map_of_mem
            (List.mem_filter.mpr ⟨kept, by simpa using different⟩))
    · exact absurd (unambiguous.noted place response.id may)
        (not_or.mpr ⟨CallTable.find?_eq_none_iff.mp missing, unknown⟩)
  exact ⟨passage.isPresent present, passage.isAccountable present accountable,
    passage.isTracked present accountable tracked, kept.1, kept.2⟩

end BrowserRelay
