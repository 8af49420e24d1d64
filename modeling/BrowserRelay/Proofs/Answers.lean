import BrowserRelay.Proofs.Order
import BrowserRelay.Proofs.Replies
import BrowserRelay.Proofs.Tables

/-!
# Answers that are owed

The ledger keeps account of the requests to which an answer is owed: a request is accepted
only if none with its identifier is owed one, it is written only while it is owed one, and an
answer settles it.  The requests that are owed an answer are those that are pending or wait in
the queue.
-/

namespace BrowserRelay

/-- Whether a deed is neither about accepting requests nor about writing or answering them. -/
def Deed.isAside : Deed → Bool
  | accepted _ => false
  | written _ _ => false
  | answered _ _ => false
  | _ => true

/-! ## Requests that are owed an answer -/

/-- After the deeds of a ledger, answers are owed to these requests. -/
inductive Owes : List Deed → List RequestId → Prop
  /-- At the start no answer is owed. -/
  | nothing : Owes [] []
  /-- An answer is owed to a request that is accepted, and none was owed before. -/
  | accepted {ledger : List Deed} {owed : List RequestId} {id : RequestId}
      (owes : Owes ledger owed) (free : id ∉ owed) :
      Owes (ledger ++ [.accepted id]) (id :: owed)
  /-- An answer that was owed is given. -/
  | answered {ledger : List Deed} {owed : List RequestId} {id : RequestId} (answer : Answer)
      (owes : Owes ledger (id :: owed)) : Owes (ledger ++ [.answered id answer]) owed
  /-- A request is written while an answer is owed to it. -/
  | written {ledger : List Deed} {owed : List RequestId} {entry : QueuedRequest}
      (generation : Nat) (owes : Owes ledger owed)
      (open' : ∀ id, entry.id = some id → id ∈ owed) :
      Owes (ledger ++ [.written generation entry]) owed
  /-- Other deeds change nothing. -/
  | other {ledger : List Deed} {owed : List RequestId} {deed : Deed} (owes : Owes ledger owed)
      (aside : deed.isAside = true) : Owes (ledger ++ [deed]) owed
  /-- The order of those who are owed an answer does not matter. -/
  | reordered {ledger : List Deed} {owed others : List RequestId} (owes : Owes ledger owed)
      (same : owed.Perm others) : Owes ledger others

theorem concat_eq_append_cons {α : Type} {init before after : List α} {last found : α} :
    init ++ [last] = before ++ found :: after ↔
      init = before ∧ last = found ∧ after = [] ∨
        ∃ middle, after = middle ++ [last] ∧ init = before ++ found :: middle := by
  rcases List.eq_nil_or_concat after with rfl | ⟨middle, other, rfl⟩
  · simp
  · rw [List.concat_eq_append]
    constructor
    · intro same
      rw [← List.cons_append, ← List.append_assoc] at same
      obtain ⟨earlier, lastSame⟩ := List.append_inj' same rfl
      exact .inr ⟨middle, by rw [lastSame], earlier⟩
    · rintro (⟨-, -, none⟩ | ⟨others, same, rfl⟩)
      · simp at none
      · rw [same, List.append_assoc, List.cons_append]

namespace Owes

variable {ledger : List Deed} {owed : List RequestId}

theorem nodup (owes : Owes ledger owed) : owed.Nodup := by
  induction owes with
  | nothing => exact List.nodup_nil
  | accepted _ free ih => exact List.nodup_cons.mpr ⟨free, ih⟩
  | answered answer _ ih => exact (List.nodup_cons.mp ih).2
  | written _ _ _ ih => exact ih
  | other _ _ ih => exact ih
  | reordered _ same ih => exact same.nodup ih

theorem count_acceptedId?_concat (ledger : List Deed) (deed : Deed) (id : RequestId) :
    ((ledger ++ [deed]).filterMap Deed.acceptedId?).count id =
      (ledger.filterMap Deed.acceptedId?).count id + if deed = .accepted id then 1 else 0 := by
  rw [List.filterMap_append, List.count_append]
  cases deed <;> simp [List.filterMap_cons, Deed.acceptedId?, List.count_singleton]

/-- The requests that were accepted are those that were answered and those that are owed an
answer. -/
theorem count_accepted (owes : Owes ledger owed) (id : RequestId) :
    (ledger.filterMap Deed.acceptedId?).count id =
      ledger.countP (Deed.isAnswerTo id) + owed.count id := by
  induction owes with
  | nothing => rfl
  | accepted _ _ ih =>
      rw [count_acceptedId?_concat, ih]
      simp [Deed.isAnswerTo, List.count_cons, Nat.add_assoc]
  | answered answer _ ih =>
      rw [count_acceptedId?_concat, ih]
      simp [Deed.isAnswerTo, List.count_cons]
      omega
  | written _ _ _ ih =>
      rw [count_acceptedId?_concat, ih]
      simp [Deed.isAnswerTo]
  | @other _ _ deed _ aside ih =>
      rw [count_acceptedId?_concat, ih]
      cases deed <;> simp [Deed.isAnswerTo, Deed.isAside] at aside ⊢
  | reordered _ same ih => rw [ih, same.count_eq]

/-- Once an answer was given, a request is owed none and is not written, until one with its
identifier is accepted again. -/
theorem not_written_after_answer (owes : Owes ledger owed) {before after : List Deed}
    {id : RequestId} {answer : Answer} (done : ledger = before ++ .answered id answer :: after)
    (closed : .accepted id ∉ after) :
    id ∉ owed ∧ ∀ generation entry, .written generation entry ∈ after → entry.id ≠ some id := by
  induction owes generalizing after with
  | nothing => simp at done
  | @accepted _ _ other owes free ih =>
      rcases concat_eq_append_cons.mp done with ⟨-, same, -⟩ | ⟨middle, rfl, earlier⟩
      · simp at same
      · simp only [List.mem_append, List.mem_singleton, Deed.accepted.injEq, not_or] at closed
        obtain ⟨settled, unwritten⟩ := ih earlier closed.1
        refine ⟨by simp [closed.2, settled], fun generation entry listed => ?_⟩
        exact unwritten generation entry (by simpa using listed)
  | @answered _ _ other given owes ih =>
      rcases concat_eq_append_cons.mp done with ⟨-, same, rfl⟩ | ⟨middle, rfl, earlier⟩
      · obtain ⟨rfl, -⟩ := Deed.answered.inj same
        exact ⟨(List.nodup_cons.mp owes.nodup).1, by simp⟩
      · simp only [List.mem_append, List.mem_singleton, reduceCtorEq, or_false] at closed
        obtain ⟨settled, unwritten⟩ := ih earlier closed
        refine ⟨fun isOwed => settled (List.mem_cons_of_mem _ isOwed), ?_⟩
        intro generation entry listed
        exact unwritten generation entry (by simpa using listed)
  | @written _ _ entry _ owes open' ih =>
      rcases concat_eq_append_cons.mp done with ⟨-, same, -⟩ | ⟨middle, rfl, earlier⟩
      · simp at same
      · simp only [List.mem_append, List.mem_singleton, reduceCtorEq, or_false] at closed
        obtain ⟨settled, unwritten⟩ := ih earlier closed
        refine ⟨settled, fun generation other listed => ?_⟩
        rcases List.mem_append.mp listed with before | last
        · exact unwritten generation other before
        · obtain ⟨-, rfl⟩ := Deed.written.inj (List.mem_singleton.mp last)
          exact fun request => settled (open' id request)
  | @other _ _ deed owes aside ih =>
      rcases concat_eq_append_cons.mp done with ⟨-, rfl, -⟩ | ⟨middle, rfl, earlier⟩
      · simp [Deed.isAside] at aside
      · simp only [List.mem_append, List.mem_singleton, not_or] at closed
        obtain ⟨settled, unwritten⟩ := ih earlier closed.1
        refine ⟨settled, fun generation entry listed => ?_⟩
        rcases List.mem_append.mp listed with before | last
        · exact unwritten generation entry before
        · rw [← List.mem_singleton.mp last] at aside
          simp [Deed.isAside] at aside
  | reordered owes same ih =>
      obtain ⟨settled, unwritten⟩ := ih done closed
      exact ⟨fun isOwed => settled (same.mem_iff.mpr isOwed), unwritten⟩

end Owes

/-! ## The requests in flight -/

namespace RequestQueue

theorem contains_iff {queue : List QueuedRequest} {id : RequestId} :
    contains queue id = true ↔ id ∈ queue.filterMap QueuedRequest.id := by
  simp [contains, hasId]

theorem countP_hasId (queue : List QueuedRequest) (id : RequestId) :
    queue.countP (hasId id) = (queue.filterMap QueuedRequest.id).count id := by
  induction queue with
  | nil => rfl
  | cons entry queue ih =>
      rw [List.countP_cons, ih]
      cases request : entry.id <;> simp [request, hasId, List.count_cons]

end RequestQueue

namespace Traffic

/-- The requests that are pending or wait in the queue. -/
def inFlight (traffic : Traffic) : List RequestId :=
  traffic.pending.map PendingCall.id ++ traffic.queue.filterMap QueuedRequest.id

/-- Answers are owed to the requests in flight. -/
def IsAccountable (traffic : Traffic) : Prop :=
  Owes traffic.ledger traffic.inFlight

theorem IsAccountable.of_owes {traffic : Traffic} {owed : List RequestId}
    (owes : Owes traffic.ledger owed) (same : traffic.inFlight = owed) :
    traffic.IsAccountable := by
  rwa [IsAccountable, same]

theorem IsAccountable.owes {traffic : Traffic} {owed : List RequestId}
    (accountable : traffic.IsAccountable) (same : traffic.inFlight = owed) :
    Owes traffic.ledger owed := by
  rwa [IsAccountable, same] at accountable

theorem not_mem_inFlight {traffic : Traffic} {id : RequestId} (free : traffic.IsFree id) :
    id ∉ traffic.inFlight := by
  obtain ⟨notPending, notQueued⟩ := free
  rw [CallTable.find?_eq_none_iff] at notPending
  rw [inFlight, List.mem_append, ← RequestQueue.contains_iff, notQueued]
  simp [notPending]

end Traffic

theorem Owes.failAll {ledger : List Deed} {owed : List RequestId} (ids : List RequestId)
    (failure : Failure) (owes : Owes ledger (ids ++ owed)) :
    Owes (ledger ++ ids.map fun id => .answered id (.failed failure)) owed := by
  induction ids generalizing ledger with
  | nil => simpa using owes
  | cons id ids ih =>
      have rest := ih (.answered (.failed failure) owes)
      rwa [List.append_assoc] at rest

theorem perm_filterMap_remove {queue : List QueuedRequest} {id : RequestId}
    (waiting : RequestQueue.contains queue id = true) :
    (queue.filterMap QueuedRequest.id).Perm
      (id :: (RequestQueue.remove queue id).filterMap QueuedRequest.id) := by
  obtain ⟨entry, listed, request⟩ := List.any_eq_true.mp waiting
  obtain ⟨found, front, behind, -, same, split, removed⟩ := List.exists_of_eraseP listed request
  have request : found.id = some id := by simpa [RequestQueue.hasId] using same
  rw [RequestQueue.remove, removed, split]
  simp [request]

theorem perm_map_remove {calls : List PendingCall} {id : RequestId} {call : PendingCall}
    (found : CallTable.find? calls id = some call) (once : (calls.map PendingCall.id).Nodup) :
    (calls.map PendingCall.id).Perm
      (id :: (CallTable.remove calls id).map PendingCall.id) := by
  obtain ⟨listed, rfl⟩ := CallTable.mem_of_find? found
  have others : (CallTable.remove calls call.id).map PendingCall.id =
      (calls.map PendingCall.id).erase call.id := by
    rw [once.erase_eq_filter, List.filter_map, CallTable.remove]
    congr 2
    funext other
    by_cases same : other.id = call.id <;> simp [same]
  rw [others]
  exact List.perm_cons_erase (List.mem_map_of_mem listed)

namespace Traffic

theorem inFlight_of_waiting {traffic : Traffic} {entry : QueuedRequest}
    {rest : List QueuedRequest} (waiting : traffic.queue = entry :: rest) :
    traffic.inFlight = traffic.pending.map PendingCall.id ++
      (entry.id.toList ++ rest.filterMap QueuedRequest.id) := by
  rw [inFlight, waiting]
  cases request : entry.id <;> simp [request]

/-- When the calls of the present process fail, they are no longer owed an answer. -/
theorem owes_failPresent (traffic : Traffic) {owed : List RequestId} (failure : Failure)
    (present : ∀ call ∈ traffic.pending, call.generation = traffic.generation)
    (owes : Owes traffic.ledger (traffic.pending.map PendingCall.id ++ owed)) :
    Owes (traffic.failPresent failure).ledger owed := by
  rw [← presentIds_eq present] at owes
  exact owes.failAll traffic.presentIds failure

theorem inFlight_of_pending_nil {traffic : Traffic} (none : traffic.pending = []) :
    traffic.inFlight = traffic.queue.filterMap QueuedRequest.id := by
  rw [inFlight, none]
  rfl

theorem inFlight_addPending {traffic : Traffic} {entry : QueuedRequest}
    (unwritten : ∀ id, entry.id = some id → id ∉ traffic.pending.map PendingCall.id) :
    (traffic.addPending entry).inFlight = traffic.pending.map PendingCall.id ++
      (entry.id.toList ++ traffic.queue.filterMap QueuedRequest.id) := by
  cases request : entry.id with
  | none =>
      simp only [inFlight, addPending, request]
      rfl
  | some id =>
      have kept : CallTable.remove traffic.pending id = traffic.pending := by
        refine List.filter_eq_self.mpr fun call listed => ?_
        have other : call.id ≠ id := by
          rintro rfl
          exact unwritten call.id request (List.mem_map_of_mem listed)
        simp [other]
      simp only [inFlight, addPending, request, CallTable.insert, kept]
      simp

theorem perm_inFlight_resolve {traffic : Traffic} {id : RequestId} {call : PendingCall}
    (accountable : traffic.IsAccountable)
    (found : CallTable.find? traffic.pending id = some call) :
    traffic.inFlight.Perm (id :: (traffic.resolve id).inFlight) :=
  (perm_map_remove found (List.nodup_append.mp accountable.nodup).1).append_right _

theorem perm_inFlight_withdraw {traffic : Traffic} {id : RequestId}
    (waiting : RequestQueue.contains traffic.queue id = true) :
    traffic.inFlight.Perm (id :: (traffic.withdraw id).inFlight) :=
  ((perm_filterMap_remove waiting).append_left _).trans List.perm_middle

end Traffic

theorem Move.isAccountable {setup : Setup} {before after : Traffic}
    (move : Move setup before after) (present : before.IsPresent)
    (accountable : before.IsAccountable) : after.IsAccountable := by
  cases move with
  | launched => exact accountable
  | launchFailed => exact accountable
  | probed => exact .other accountable rfl
  | probeRefused => exact accountable
  | demoted => exact accountable
  | @wrote entry rest ready waiting =>
      have owes := accountable.owes (Traffic.inFlight_of_waiting waiting)
      have unwritten (id : RequestId) (request : entry.id = some id) :
          id ∉ before.pending.map PendingCall.id := by
        have once := owes.nodup
        rw [request] at once
        intro pending
        exact (List.nodup_append.mp once).2.2 id pending id (by simp) rfl
      have written : Owes (before.ledger ++ [.written before.generation entry]) _ :=
        owes.written _ fun id request => by simp [request]
      exact .of_owes written (Traffic.inFlight_addPending unwritten)
  | @abandoned entry rest failure ready waiting =>
      have owes := accountable.owes (Traffic.inFlight_of_waiting waiting)
      let lost := ({ before with queue := rest }.refuse entry).release
      have refused : Owes lost.ledger _ := .other owes rfl
      have others := lost.owes_failPresent failure present.pending refused
      have itself := others.failAll entry.id.toList failure
      have gone : lost.forget.pending = [] := Traffic.pending_forget present.pending
      exact .of_owes itself (Traffic.inFlight_of_pending_nil gone)
  | @retried entry rest failure ready waiting =>
      have owes := accountable.owes (Traffic.inFlight_of_waiting waiting)
      let lost := ({ before with queue := rest }.refuse entry).release
      have refused : Owes lost.ledger _ := .other owes rfl
      have others := lost.owes_failPresent failure present.pending refused
      have gone : lost.forget.pending = [] := Traffic.pending_forget present.pending
      let later := (lost.failPresent failure).requeue { entry with attempts := entry.attempts + 1 }
      have nobody : later.pending = [] := gone
      have place : later.inFlight = entry.id.toList ++ rest.filterMap QueuedRequest.id := by
        rw [Traffic.inFlight_of_waiting rfl, nobody]
        rfl
      exact .of_owes others place
  | @ended failure backoff =>
      have gone : before.forget.pending = [] := Traffic.pending_forget present.pending
      exact .of_owes (before.owes_failPresent failure present.pending accountable)
        (Traffic.inFlight_of_pending_nil gone)
  | queueFailed failure =>
      have swapped := Owes.reordered accountable List.perm_append_comm
      exact .of_owes (swapped.failAll _ failure) (List.append_nil _)
  | @expired id call failure found =>
      obtain rfl := (CallTable.mem_of_find? found).2
      exact .answered _ (accountable.reordered (Traffic.perm_inFlight_resolve accountable found))
  | @withdrawn id failure unsent waiting =>
      exact .answered _ (accountable.reordered (Traffic.perm_inFlight_withdraw waiting))
  | @startedLate id failure starting waiting =>
      exact .answered _ (accountable.reordered (Traffic.perm_inFlight_withdraw waiting))
  | told => exact .other accountable rfl
  | elapsed => exact accountable

theorem Moves.isAccountable {setup : Setup} {before after : Traffic}
    (moves : Moves setup before after) (present : before.IsPresent)
    (accountable : before.IsAccountable) : after.IsAccountable := by
  induction moves with
  | refl => exact accountable
  | tail earlier move ih => exact move.isAccountable (Moves.isPresent earlier present) ih

theorem Traffic.owes_accept {traffic : Traffic} {id : Option RequestId}
    (accountable : traffic.IsAccountable) (free : ∀ own, id = some own → traffic.IsFree own) :
    Owes (traffic.accept id).ledger (id.toList ++ traffic.inFlight) := by
  cases id with
  | none =>
      have same : (traffic.accept none).ledger = traffic.ledger := List.append_nil _
      rwa [same]
  | some own => exact .accepted accountable (not_mem_inFlight (free own rfl))

theorem Traffic.inFlight_takeIn (setup : Setup) (traffic : Traffic) (entry : QueuedRequest) :
    (traffic.takeIn setup entry).inFlight = traffic.inFlight ++ entry.id.toList := by
  have queued : (traffic.takeIn setup entry).inFlight =
      traffic.pending.map PendingCall.id ++
        (traffic.queue ++ [entry]).filterMap QueuedRequest.id := rfl
  rw [queued, Traffic.inFlight, List.filterMap_append, List.append_assoc]
  cases request : entry.id <;> simp [request]

namespace Traffic.IsAccountable

variable {traffic : Traffic}

theorem turnAway {id : Option RequestId} (accountable : traffic.IsAccountable)
    (failure : Failure) (free : ∀ own, id = some own → traffic.IsFree own) :
    (traffic.turnAway id failure).IsAccountable :=
  (owes_accept accountable free).failAll id.toList failure

theorem takeIn (setup : Setup) (entry : QueuedRequest) (accountable : traffic.IsAccountable)
    (free : ∀ own, entry.id = some own → traffic.IsFree own) :
    (traffic.takeIn setup entry).IsAccountable := by
  have taken : Owes ((traffic.accept entry.id).ledger ++ [.forwarded entry]) _ :=
    .other (owes_accept accountable free) rfl
  exact .of_owes (taken.reordered List.perm_append_comm) (inFlight_takeIn setup traffic entry)

end Traffic.IsAccountable

theorem Passage.isAccountable {setup : Setup} {before after : Traffic}
    {arrival : Option Arrival} (passage : Passage setup before arrival after)
    (present : before.IsPresent) (accountable : before.IsAccountable) :
    after.IsAccountable := by
  cases passage with
  | quiet moves => exact moves.isAccountable present accountable
  | woken starting moves =>
      exact moves.isAccountable (present.wake setup) accountable
  | turnedAway message failure free moves =>
      exact moves.isAccountable (present.turnAway message.answerId failure)
        (accountable.turnAway failure free)
  | takenIn message first kept free moves =>
      have taken := (first.isAccountable present accountable).takeIn setup message.entry free
      exact moves.isAccountable ((first.isPresent present).takeIn setup message.entry) taken
  | responded response found =>
      exact .answered _ (accountable.reordered (Traffic.perm_inFlight_resolve accountable found))
  | recalled response missing timedOut => exact accountable
  | unmatched response missing unknown => exact .other accountable rfl

namespace Gateway

/-- In every state that can be reached, the tables are about the present process and answers
are owed to the requests in flight. -/
theorem isAccountable_after (setup : Setup) (outside : Outside) (steps : List Step) :
    (after setup outside steps).traffic.IsPresent ∧
      (after setup outside steps).traffic.IsAccountable := by
  have start : (initial setup outside).traffic.IsPresent ∧
      (initial setup outside).traffic.IsAccountable := by
    rw [traffic_initial]
    exact ⟨.of_empty rfl rfl, .nothing⟩
  have keeps (before : Traffic) (arrival : Option Arrival) (after : Traffic)
      (_ : before.IsSettled) (passage : Passage setup before arrival after)
      (holds : before.IsPresent ∧ before.IsAccountable) :
      after.IsPresent ∧ after.IsAccountable :=
    ⟨passage.isPresent holds.1, passage.isAccountable holds.1 holds.2⟩
  exact (traffic_induction keeps (settled_initial setup outside) start steps).1

/-- Whether a request with an identifier is pending or waits in the queue. -/
def isInFlight (gateway : Gateway) (id : RequestId) : Bool :=
  gateway.isPending id || RequestQueue.contains gateway.queue id

theorem isPending_iff {gateway : Gateway} {id : RequestId} :
    gateway.isPending id = true ↔ id ∈ gateway.pending.map PendingCall.id := by
  rw [Exchange.isPending, Option.isSome_iff_ne_none, ne_eq, CallTable.find?_eq_none_iff, not_not]

theorem mem_inFlight_iff (gateway : Gateway) (id : RequestId) :
    id ∈ gateway.traffic.inFlight ↔ gateway.isInFlight id = true := by
  rw [Traffic.inFlight, List.mem_append, isInFlight, Bool.or_eq_true, isPending_iff,
    RequestQueue.contains_iff]
  rfl

end Gateway

end BrowserRelay
