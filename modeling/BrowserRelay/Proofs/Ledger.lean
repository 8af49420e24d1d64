import BrowserRelay.Proofs.Passage

/-!
# What the ledger tells

The ledger only grows.  The deeds that are added to it tell which requests are accepted, which
lines are taken in and what is written to the processes.  Messages of the client keep their
order: none is passed on before one that was taken in earlier and still waits.
-/

namespace BrowserRelay

namespace Deed

/-- The request that is accepted. -/
def acceptedId? : Deed → Option RequestId
  | accepted id => some id
  | _ => none

/-- The line of the client that is taken in. -/
def takenLine? : Deed → Option String
  | forwarded entry => some entry.line
  | _ => none

/-- The line of the client that is written to a process. -/
def passedLine? : Deed → Option String
  | written _ entry => some entry.line
  | _ => none

/-- What is written to a process. -/
def write? : Deed → Option WrittenLine
  | written generation entry => some ⟨generation, entry.line⟩
  | probed generation _ line => some ⟨generation, line⟩
  | _ => none

/-- Whether a request with an identifier is answered. -/
def isAnswerTo (id : RequestId) : Deed → Bool
  | answered other _ => other = id
  | _ => false

/-- The request that is answered with the response of a process, and the line that is its
answer. -/
def relayed? : Deed → Option (RequestId × String)
  | answered id (.response line) => some (id, line)
  | _ => none

/-- Whether a message of the client is accepted or taken in, or the response of a process is
passed on. -/
def isArrival : Deed → Bool
  | accepted _ => true
  | forwarded _ => true
  | answered _ (.response _) => true
  | _ => false

end Deed

/-! ## Growth -/

/-- The lines that wait in the queue. -/
def Traffic.waitingLines (traffic : Traffic) : List String :=
  traffic.queue.map QueuedRequest.line

/-- From one traffic to another some deeds were done, and messages kept their order: what was
passed on and what still waits is taken from what waited and what was taken in. -/
structure Grows (before : Traffic) (deeds : List Deed) (after : Traffic) : Prop where
  ledger : after.ledger = before.ledger ++ deeds
  written : after.written = before.written ++ deeds.filterMap Deed.write?
  order : (deeds.filterMap Deed.passedLine? ++ after.waitingLines).Sublist
    (before.waitingLines ++ deeds.filterMap Deed.takenLine?)

namespace Grows

theorem trans {before middle after : Traffic} {first second : List Deed}
    (grows : Grows before first middle) (further : Grows middle second after) :
    Grows before (first ++ second) after where
  ledger := by rw [further.ledger, grows.ledger, List.append_assoc]
  written := by rw [further.written, grows.written, List.filterMap_append, List.append_assoc]
  order := by
    have later := further.order.append_left (first.filterMap Deed.passedLine?)
    have earlier := grows.order.append_right (second.filterMap Deed.takenLine?)
    rw [← List.append_assoc] at later
    rw [List.append_assoc] at earlier
    rw [List.filterMap_append, List.filterMap_append, ← List.append_assoc]
    exact later.trans earlier

theorem same {before after : Traffic} (ledger : after.ledger = before.ledger)
    (written : after.written = before.written) (queue : after.queue = before.queue) :
    Grows before [] after :=
  ⟨by simp [ledger], by simp [written], by simp [Traffic.waitingLines, queue]⟩

theorem deed {before after : Traffic} {deed : Deed}
    (ledger : after.ledger = before.ledger ++ [deed])
    (written : after.written = before.written) (silent : deed.write? = none)
    (waiting : after.waitingLines.Sublist before.waitingLines) : Grows before [deed] after where
  ledger := ledger
  written := by simp [written, silent]
  order := by
    have unpassed : deed.passedLine? = none := by
      cases deed with
      | written generation entry => simp [Deed.write?] at silent
      | _ => rfl
    rw [List.filterMap_cons_none unpassed, List.filterMap_nil, List.nil_append]
    exact waiting.trans (List.sublist_append_left _ _)

theorem failures {before after : Traffic} {ids : List RequestId} {failure : Failure}
    (ledger : after.ledger = before.ledger ++ ids.map fun id => .answered id (.failed failure))
    (written : after.written = before.written)
    (waiting : after.waitingLines.Sublist before.waitingLines) :
    Grows before (ids.map fun id => .answered id (.failed failure)) after where
  ledger := ledger
  written := by simp [written, List.filterMap_map, Function.comp_def, Deed.write?]
  order := by
    have unpassed : (ids.map fun id => .answered id (.failed failure)).filterMap
        Deed.passedLine? = [] := by simp [Deed.passedLine?]
    rw [unpassed]
    exact waiting.trans (List.sublist_append_left _ _)

theorem write {traffic : Traffic} {entry : QueuedRequest} {rest : List QueuedRequest}
    (waiting : traffic.queue = entry :: rest) :
    Grows traffic [.written traffic.generation entry]
      ({ traffic with queue := rest }.write entry) :=
  ⟨rfl, rfl, by
    rw [Traffic.waitingLines, Traffic.waitingLines, waiting]
    exact List.sublist_append_left _ _⟩

theorem accept (traffic : Traffic) (id : Option RequestId) :
    Grows traffic (id.toList.map .accepted) (traffic.accept id) := by
  cases id with
  | none => exact .same (List.append_nil _) rfl rfl
  | some id => exact .deed rfl rfl rfl (List.Sublist.refl _)

theorem forward (setup : Setup) (traffic : Traffic) (entry : QueuedRequest) :
    Grows (traffic.accept entry.id) [.forwarded entry] (traffic.takeIn setup entry) :=
  ⟨rfl, (List.append_nil _).symm, by simp [Deed.passedLine?, Deed.takenLine?,
    Traffic.waitingLines, List.filterMap_cons, Traffic.takeIn, Traffic.accept]⟩

end Grows

/-- None of the deeds is an arrival. -/
def NoArrival (deeds : List Deed) : Prop := ∀ deed ∈ deeds, deed.isArrival = false

theorem noArrival_nil : NoArrival [] := by
  simp [NoArrival]

theorem noArrival_singleton {deed : Deed} (other : deed.isArrival = false) : NoArrival [deed] :=
  List.forall_mem_singleton.mpr other

theorem noArrival_failures (ids : List RequestId) (failure : Failure) :
    NoArrival (ids.map fun id => .answered id (.failed failure)) := by
  intro deed answer
  obtain ⟨id, -, rfl⟩ := List.mem_map.mp answer
  rfl

theorem NoArrival.append {first second : List Deed} (none : NoArrival first)
    (nor : NoArrival second) : NoArrival (first ++ second) :=
  List.forall_mem_append.mpr ⟨none, nor⟩

theorem sublist_waitingLines_remove (traffic : Traffic) (id : RequestId) :
    (traffic.withdraw id).waitingLines.Sublist traffic.waitingLines :=
  List.eraseP_sublist.map QueuedRequest.line

/-- What the relay does on its own is no arrival. -/
theorem Move.grows {setup : Setup} {before after : Traffic} (move : Move setup before after) :
    ∃ deeds, Grows before deeds after ∧ NoArrival deeds := by
  have same (traffic : Traffic) : traffic.waitingLines.Sublist traffic.waitingLines :=
    List.Sublist.refl _
  cases move with
  | launched => exact ⟨[], .same rfl rfl rfl, noArrival_nil⟩
  | launchFailed => exact ⟨[], .same rfl rfl rfl, noArrival_nil⟩
  | probed => exact ⟨_, ⟨rfl, rfl, List.sublist_append_left _ _⟩, noArrival_singleton rfl⟩
  | probeRefused => exact ⟨[], .same rfl rfl rfl, noArrival_nil⟩
  | demoted => exact ⟨[], .same rfl rfl rfl, noArrival_nil⟩
  | wrote ready waiting => exact ⟨_, .write waiting, noArrival_singleton rfl⟩
  | @abandoned entry rest failure ready waiting =>
      let lost := ({ before with queue := rest }.refuse entry).release
      have behind : lost.waitingLines.Sublist before.waitingLines := by
        rw [Traffic.waitingLines, Traffic.waitingLines, waiting]
        exact List.sublist_cons_self _ _
      have refused : Grows before [.refused before.generation entry] lost :=
        .deed rfl rfl rfl behind
      have others : Grows lost _ (lost.failPresent failure) := .failures rfl rfl (same _)
      have itself : Grows (lost.failPresent failure) _
        ((lost.failPresent failure).failAll entry.id.toList failure) := .failures rfl rfl (same _)
      exact ⟨_, (refused.trans others).trans itself,
        ((noArrival_singleton rfl).append (noArrival_failures _ _)).append
          (noArrival_failures _ _)⟩
  | @retried entry rest failure ready waiting =>
      let lost := { before.refuse entry with queue := entry :: rest }.release
      have place : lost.waitingLines.Sublist before.waitingLines := by
        rw [Traffic.waitingLines, Traffic.waitingLines, waiting]
        exact List.Sublist.refl _
      have refused : Grows before [.refused before.generation entry] lost :=
        .deed rfl rfl rfl place
      have others : Grows lost _
        (((({ before with queue := rest }.refuse entry).release).failPresent failure).requeue
          { entry with attempts := entry.attempts + 1 }) := .failures rfl rfl (same _)
      exact ⟨_, refused.trans others, (noArrival_singleton rfl).append (noArrival_failures _ _)⟩
  | ended => exact ⟨_, .failures rfl rfl (same _), noArrival_failures _ _⟩
  | queueFailed => exact ⟨_, .failures rfl rfl (List.nil_sublist _), noArrival_failures _ _⟩
  | expired => exact ⟨_, .deed rfl rfl rfl (same _), noArrival_singleton rfl⟩
  | withdrawn =>
      exact ⟨_, .deed rfl rfl rfl (sublist_waitingLines_remove _ _), noArrival_singleton rfl⟩
  | startedLate =>
      exact ⟨_, .deed rfl rfl rfl (sublist_waitingLines_remove _ _), noArrival_singleton rfl⟩
  | told => exact ⟨_, .deed rfl rfl rfl (same _), noArrival_singleton rfl⟩
  | elapsed => exact ⟨[], .same rfl rfl rfl, noArrival_nil⟩

theorem Moves.grows {setup : Setup} {before after : Traffic} (moves : Moves setup before after) :
    ∃ deeds, Grows before deeds after ∧ NoArrival deeds := by
  induction moves with
  | refl => exact ⟨[], .same rfl rfl rfl, noArrival_nil⟩
  | tail _ move ih =>
      obtain ⟨first, grows, none⟩ := ih
      obtain ⟨second, further, nor⟩ := move.grows
      exact ⟨first ++ second, grows.trans further, none.append nor⟩

theorem NoArrival.filterMap_acceptedId? {deeds : List Deed} (none : NoArrival deeds) :
    deeds.filterMap Deed.acceptedId? = [] := by
  rw [List.filterMap_eq_nil_iff]
  intro deed done
  have other := none deed done
  cases deed with
  | accepted id => simp [Deed.isArrival] at other
  | _ => rfl

theorem NoArrival.filterMap_takenLine? {deeds : List Deed} (none : NoArrival deeds) :
    deeds.filterMap Deed.takenLine? = [] := by
  rw [List.filterMap_eq_nil_iff]
  intro deed done
  have other := none deed done
  cases deed with
  | forwarded entry => simp [Deed.isArrival] at other
  | _ => rfl

theorem NoArrival.filterMap_relayed? {deeds : List Deed} (none : NoArrival deeds) :
    deeds.filterMap Deed.relayed? = [] := by
  rw [List.filterMap_eq_nil_iff]
  intro deed done
  have other := none deed done
  cases deed with
  | answered id answer =>
      cases answer with
      | response line => simp [Deed.isArrival] at other
      | failed failure => rfl
  | _ => rfl

namespace Arrival

/-- The request that is accepted. -/
def acceptedId? : Arrival → Option RequestId
  | message arrived _ => arrived.answerId
  | response _ => none

/-- The line of the client that is taken in. -/
def takenLine? : Arrival → Option String
  | message arrived served => if served then some arrived.raw else none
  | response _ => none

/-- The response of the process. -/
def response? : Arrival → Option Response
  | message _ _ => none
  | response arrived => some arrived

end Arrival

/-- What arrives in a step is accepted, and taken in unless it is turned away.  Only where a
response arrives is one passed on. -/
theorem Passage.grows {setup : Setup} {before after : Traffic}
    {arrival : Option Arrival} (passage : Passage setup before arrival after) :
    ∃ deeds, Grows before deeds after ∧
      deeds.filterMap Deed.acceptedId? = (arrival.bind Arrival.acceptedId?).toList ∧
      deeds.filterMap Deed.takenLine? = (arrival.bind Arrival.takenLine?).toList ∧
      (arrival.bind Arrival.response? = none → deeds.filterMap Deed.relayed? = []) := by
  cases passage with
  | quiet moves =>
      obtain ⟨deeds, grows, none⟩ := moves.grows
      exact ⟨deeds, grows, none.filterMap_acceptedId?, none.filterMap_takenLine?,
        fun _ => none.filterMap_relayed?⟩
  | woken starting moves =>
      obtain ⟨deeds, grows, none⟩ := moves.grows
      have woken : Grows before [] (before.wake setup) := .same rfl rfl rfl
      exact ⟨deeds, woken.trans grows, none.filterMap_acceptedId?, none.filterMap_takenLine?,
        fun _ => none.filterMap_relayed?⟩
  | turnedAway message failure free moves =>
      obtain ⟨deeds, grows, none⟩ := moves.grows
      have accepted := Grows.accept before message.answerId
      have refused : Grows (before.accept message.answerId) _
          (before.turnAway message.answerId failure) := .failures rfl rfl (List.Sublist.refl _)
      refine ⟨_, (accepted.trans refused).trans grows, ?_, ?_, ?_⟩
      · cases request : message.answerId <;>
          simp [request, List.filterMap_cons, none.filterMap_acceptedId?, Deed.acceptedId?,
            Arrival.acceptedId?]
      · cases request : message.answerId <;>
          simp [List.filterMap_cons, none.filterMap_takenLine?, Deed.takenLine?,
            Arrival.takenLine?]
      · intro _
        cases request : message.answerId <;>
          simp [List.filterMap_cons, none.filterMap_relayed?, Deed.relayed?]
  | takenIn message first kept free moves =>
      obtain ⟨earlier, start, none⟩ := first.grows
      obtain ⟨later, grows, nor⟩ := moves.grows
      have accepted := start.trans (.accept _ message.answerId)
      have taken := accepted.trans (.forward setup _ message.entry)
      refine ⟨_, taken.trans grows, ?_, ?_, ?_⟩
      · cases request : message.answerId <;>
          simp [request, List.filterMap_cons, none.filterMap_acceptedId?,
            nor.filterMap_acceptedId?, Deed.acceptedId?, Arrival.acceptedId?]
      · cases request : message.answerId <;>
          simp [List.filterMap_cons, none.filterMap_takenLine?, nor.filterMap_takenLine?,
            Deed.takenLine?, Arrival.takenLine?, ClientMessage.entry]
      · intro _
        cases request : message.answerId <;>
          simp [List.filterMap_cons, none.filterMap_relayed?, nor.filterMap_relayed?,
            Deed.relayed?]
  | responded response found =>
      exact ⟨[_], .deed rfl rfl rfl (List.Sublist.refl _), rfl, rfl, by simp [Arrival.response?]⟩
  | recalled response missing timedOut => exact ⟨[], .same rfl rfl rfl, rfl, rfl, fun _ => rfl⟩
  | unmatched response missing unknown =>
      exact ⟨[_], .deed rfl rfl rfl (List.Sublist.refl _), rfl, rfl, fun _ => rfl⟩

end BrowserRelay
