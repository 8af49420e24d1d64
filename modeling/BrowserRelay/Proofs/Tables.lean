import BrowserRelay.Proofs.Passage

/-!
# The tables are about the present process

Every pending call and every call that has timed out was written to the present process.  Once
that is gone, both tables are empty.
-/

namespace BrowserRelay

namespace CallTable

theorem mem_of_find? {calls : List PendingCall} {id : RequestId} {call : PendingCall}
    (found : find? calls id = some call) : call ∈ calls ∧ call.id = id :=
  ⟨List.mem_of_find?_eq_some found, by simpa using List.find?_some found⟩

theorem find?_eq_none_iff {calls : List PendingCall} {id : RequestId} :
    find? calls id = none ↔ id ∉ calls.map PendingCall.id := by
  simp [find?]

theorem remove_subset (calls : List PendingCall) (id : RequestId) : remove calls id ⊆ calls :=
  List.filter_sublist.subset

end CallTable

namespace Traffic

/-- The tables are about the present process. -/
structure IsPresent (traffic : Traffic) : Prop where
  pending : ∀ call ∈ traffic.pending, call.generation = traffic.generation
  expired : ∀ call ∈ traffic.expired, call.generation = traffic.generation
  idle : traffic.state = .noProcess → traffic.pending = [] ∧ traffic.expired = []

theorem IsPresent.of_empty {traffic : Traffic} (pending : traffic.pending = [])
    (expired : traffic.expired = []) : traffic.IsPresent :=
  ⟨by simp [pending], by simp [expired], fun _ => ⟨pending, expired⟩⟩

/-- Calls may leave the tables at any time, and a process may be taken for ready or not. -/
theorem IsPresent.leave {before after : Traffic} (present : before.IsPresent)
    (generation : after.generation = before.generation)
    (running : after.state = .noProcess → before.state = .noProcess)
    (pending : after.pending ⊆ before.pending) (expired : after.expired ⊆ before.expired) :
    after.IsPresent where
  pending call listed := (present.pending call (pending listed)).trans generation.symm
  expired call listed := (present.expired call (expired listed)).trans generation.symm
  idle gone := by
    obtain ⟨noCalls, noneExpired⟩ := present.idle (running gone)
    rw [noCalls] at pending
    rw [noneExpired] at expired
    exact ⟨List.subset_nil.mp pending, List.subset_nil.mp expired⟩

theorem pending_forget {traffic : Traffic}
    (present : ∀ call ∈ traffic.pending, call.generation = traffic.generation) :
    traffic.forget.pending = [] :=
  List.filter_eq_nil_iff.mpr fun call listed => by simp [present call listed]

theorem expired_forget {traffic : Traffic}
    (present : ∀ call ∈ traffic.expired, call.generation = traffic.generation) :
    traffic.forget.expired = [] :=
  List.filter_eq_nil_iff.mpr fun call listed => by simp [present call listed]

theorem presentIds_eq {traffic : Traffic}
    (present : ∀ call ∈ traffic.pending, call.generation = traffic.generation) :
    traffic.presentIds = traffic.pending.map PendingCall.id := by
  have all : CallTable.ofGeneration traffic.pending traffic.generation = traffic.pending :=
    List.filter_eq_self.mpr fun call listed => by simp [present call listed]
  rw [presentIds, all]

end Traffic

theorem Move.isPresent {setup : Setup} {before after : Traffic} (move : Move setup before after)
    (present : before.IsPresent) : after.IsPresent := by
  have same : before.pending ⊆ before.pending := List.Subset.refl _
  have sameExpired : before.expired ⊆ before.expired := List.Subset.refl _
  cases move with
  | launched idle => exact .of_empty (present.idle idle).1 (present.idle idle).2
  | launchFailed idle => exact .of_empty (present.idle idle).1 (present.idle idle).2
  | probed => exact present.leave rfl id same sameExpired
  | probeRefused =>
      exact present.leave rfl (by simp [Traffic.disarm, Traffic.demote]) same sameExpired
  | demoted => exact present.leave rfl (by simp [Traffic.demote]) same sameExpired
  | @wrote entry rest ready waiting =>
      refine ⟨fun call listed => ?_, present.expired, fun idle =>
        absurd (ready.symm.trans idle) (by simp)⟩
      cases request : entry.id with
      | none =>
          rw [Traffic.write, Traffic.addPending, request] at listed
          exact present.pending call listed
      | some id =>
          rw [Traffic.write, Traffic.addPending, request] at listed
          rcases List.mem_append.mp listed with old | new
          · exact present.pending call (CallTable.remove_subset _ _ old)
          · rw [List.mem_singleton.mp new]
            rfl
  | abandoned =>
      exact .of_empty (Traffic.pending_forget present.pending)
        (Traffic.expired_forget present.expired)
  | retried =>
      exact .of_empty (Traffic.pending_forget present.pending)
        (Traffic.expired_forget present.expired)
  | ended =>
      exact .of_empty (Traffic.pending_forget present.pending)
        (Traffic.expired_forget present.expired)
  | queueFailed => exact present.leave rfl id same sameExpired
  | @expired id call failure found =>
      have listed := (CallTable.mem_of_find? found).1
      refine ⟨fun other kept => ?_, fun other kept => ?_, fun idle => ?_⟩
      · exact present.pending other (CallTable.remove_subset _ _ kept)
      · rcases List.mem_append.mp kept with old | new
        · exact present.expired other (List.filter_sublist.subset old)
        · rw [List.mem_singleton.mp new]
          exact present.pending call listed
      · rw [(present.idle idle).1] at listed
        simp at listed
  | withdrawn => exact present.leave rfl id same sameExpired
  | startedLate => exact present.leave rfl id same sameExpired
  | told => exact present.leave rfl id same sameExpired
  | elapsed => exact present.leave rfl id same sameExpired

theorem Moves.isPresent {setup : Setup} {before after : Traffic}
    (moves : Moves setup before after) (present : before.IsPresent) : after.IsPresent := by
  induction moves with
  | refl => exact present
  | tail _ move ih => exact move.isPresent ih

namespace Traffic.IsPresent

variable {traffic : Traffic}

theorem wake (setup : Setup) (present : traffic.IsPresent) : (traffic.wake setup).IsPresent :=
  present.leave rfl (by simp [Traffic.wake, disarm, arm]) (List.Subset.refl _)
    (List.Subset.refl _)

theorem turnAway (id : Option RequestId) (failure : Failure) (present : traffic.IsPresent) :
    (traffic.turnAway id failure).IsPresent :=
  present.leave rfl (fun idle => idle) (List.Subset.refl _) (List.Subset.refl _)

theorem takeIn (setup : Setup) (entry : QueuedRequest) (present : traffic.IsPresent) :
    (traffic.takeIn setup entry).IsPresent :=
  present.leave rfl (fun idle => idle) (List.Subset.refl _) (List.Subset.refl _)

end Traffic.IsPresent

theorem Passage.isPresent {setup : Setup} {before after : Traffic}
    {arrival : Option Arrival} (passage : Passage setup before arrival after)
    (present : before.IsPresent) : after.IsPresent := by
  cases passage with
  | quiet moves => exact moves.isPresent present
  | woken starting moves => exact moves.isPresent (present.wake setup)
  | turnedAway message failure free moves =>
      exact moves.isPresent (present.turnAway message.answerId failure)
  | takenIn message first kept free moves =>
      exact moves.isPresent ((first.isPresent present).takeIn setup message.entry)
  | responded response found =>
      exact present.leave rfl (fun idle => idle) (CallTable.remove_subset _ _) (List.Subset.refl _)
  | recalled response missing timedOut =>
      exact present.leave rfl (fun idle => idle) (List.Subset.refl _) List.filter_sublist.subset
  | unmatched response missing unknown =>
      exact present.leave rfl (fun idle => idle) (List.Subset.refl _) (List.Subset.refl _)

namespace Gateway

variable {gateway : Gateway}

theorem isCurrent_of_pending {call : PendingCall} (present : gateway.traffic.IsPresent)
    (listed : call ∈ gateway.pending) : gateway.isCurrent call.generation = true := by
  refine Host.isCurrent_iff.mpr ⟨fun idle => ?_, present.pending call listed⟩
  have nobody : gateway.pending = [] := (present.idle idle).1
  simp [nobody] at listed

theorem isCurrent_of_expired {call : ExpiredCall} (present : gateway.traffic.IsPresent)
    (listed : call ∈ gateway.expired) : gateway.isCurrent call.generation = true := by
  refine Host.isCurrent_iff.mpr ⟨fun idle => ?_, present.expired call listed⟩
  have nobody : gateway.expired = [] := (present.idle idle).2
  simp [nobody] at listed

end Gateway

end BrowserRelay
