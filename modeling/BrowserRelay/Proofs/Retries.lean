import BrowserRelay.Proofs.History
import BrowserRelay.Proofs.Refusals
import Mathlib.Algebra.Group.Nat.Defs
import Mathlib.Data.List.TakeWhile

/-!
# Attempts to write a message

Every message that is taken in is tried a bounded number of times, over whatever processes there
are: each attempt but the last fails, and the count that waits with the message in the queue is
the number of attempts so far.  Only the message at the head of the queue has been tried; those
behind it have not.
-/

namespace BrowserRelay

/-- An attempt to write a message to the process of a generation. -/
structure Attempt where
  generation : Nat
  entry : QueuedRequest
  success : Bool

/-- The attempt that a deed is. -/
def Deed.attempt? : Deed → Option Attempt
  | written generation entry => some ⟨generation, entry, true⟩
  | refused generation entry => some ⟨generation, entry, false⟩
  | _ => none

/-- A message that was taken in, and the attempts to write it. -/
structure Trial where
  entry : QueuedRequest
  attempts : List Attempt

namespace Trial

variable {limit : Nat} {trial : Trial}

/-- The message with the count of its attempts. -/
def counted (trial : Trial) : QueuedRequest :=
  { trial.entry with attempts := trial.attempts.length }

/-- The message is tried once more. -/
def tryOn (trial : Trial) (generation : Nat) (success : Bool) : Trial :=
  { trial with attempts := trial.attempts ++ [⟨generation, trial.counted, success⟩] }

/-- The message was tried at most once more often than the limit says, with the right count each
time, and no attempt but the last was a success. -/
structure IsBounded (limit : Nat) (trial : Trial) : Prop where
  fresh : trial.entry.attempts = 0
  few : trial.attempts.length ≤ limit + 1
  counts : trial.attempts.map Attempt.entry =
    (List.range trial.attempts.length).map fun count => { trial.entry with attempts := count }
  failures : ∀ attempt ∈ trial.attempts.dropLast, attempt.success = false

/-- The message may be tried again. -/
structure IsOpen (limit : Nat) (trial : Trial) : Prop where
  within : trial.attempts.length ≤ limit
  failures : ∀ attempt ∈ trial.attempts, attempt.success = false

theorem isBounded_new {entry : QueuedRequest} (fresh : entry.attempts = 0) :
    IsBounded limit ⟨entry, []⟩ :=
  ⟨fresh, Nat.zero_le _, rfl, List.forall_mem_nil _⟩

theorem IsBounded.tryOn (bounded : trial.IsBounded limit) (isOpen : trial.IsOpen limit)
    (generation : Nat) (success : Bool) : (trial.tryOn generation success).IsBounded limit where
  fresh := bounded.fresh
  few := by simpa [Trial.tryOn] using isOpen.within
  counts := by simp [Trial.tryOn, List.range_succ, bounded.counts, counted]
  failures := by simpa [Trial.tryOn] using isOpen.failures

theorem IsBounded.attempts_le (bounded : trial.IsBounded limit) {attempt : Attempt}
    (listed : attempt ∈ trial.attempts) : attempt.entry.attempts ≤ limit := by
  have among : attempt.entry ∈ trial.attempts.map Attempt.entry := List.mem_map_of_mem listed
  rw [bounded.counts] at among
  obtain ⟨count, less, same⟩ := List.mem_map.mp among
  have few := bounded.few
  rw [List.mem_range] at less
  rw [← same]
  exact Nat.le_of_lt_succ (Nat.lt_of_lt_of_le less few)

theorem counted_of_untried (bounded : trial.IsBounded limit) (untried : trial.attempts = []) :
    trial.counted = trial.entry := by
  have same := bounded.fresh
  cases trial with
  | mk entry attempts =>
      cases entry
      simp_all [counted]

end Trial

/-! ## Those who wait -/

/-- The first who waits may be tried again; those behind it were taken in later, in their order,
and were not tried yet. -/
def Waits (limit : Nat) (trials : List Trial) : List QueuedRequest → Prop
  | [] => True
  | first :: rest => ∃ past trial future, trials = past ++ trial :: future ∧
      first = trial.counted ∧ trial.IsOpen limit ∧ (∀ later ∈ future, later.attempts = []) ∧
      rest.Sublist (future.map Trial.entry)

namespace Waits

variable {limit : Nat} {trials : List Trial} {queue : List QueuedRequest}

/-- Those who were not tried yet may wait, in their order. -/
theorem of_untried (past : List Trial) {future : List Trial}
    (bounded : ∀ trial ∈ future, trial.IsBounded limit)
    (untried : ∀ trial ∈ future, trial.attempts = [])
    (order : queue.Sublist (future.map Trial.entry)) : Waits limit (past ++ future) queue := by
  cases queue with
  | nil => trivial
  | cons first rest =>
      obtain ⟨before, after, split, isFirst, behind⟩ := List.cons_sublist_iff.mp order
      obtain ⟨front, others, rfl, rfl, rfl⟩ := List.map_eq_append_iff.mp split
      obtain ⟨trial, listed, rfl⟩ := List.mem_map.mp isFirst
      obtain ⟨skipped, between, rfl⟩ := List.append_of_mem listed
      have own : trial ∈ (skipped ++ trial :: between) ++ others := by simp
      refine ⟨past ++ skipped, trial, between ++ others, by simp, ?_, ?_, ?_, ?_⟩
      · exact (Trial.counted_of_untried (bounded trial own) (untried trial own)).symm
      · have none := untried trial own
        exact ⟨by simp [none], by simp [none]⟩
      · intro later among
        refine untried later ?_
        rcases List.mem_append.mp among with early | late
        · simp [early]
        · simp [late]
      · rw [List.map_append]
        exact behind.trans (List.sublist_append_right _ _)

/-- Who is left of those who wait still waits as before. -/
theorem sublist {left : List QueuedRequest} (waits : Waits limit trials queue)
    (bounded : ∀ trial ∈ trials, trial.IsBounded limit) (fewer : left.Sublist queue) :
    Waits limit trials left := by
  cases queue with
  | nil =>
      rw [List.sublist_nil.mp fewer]
      trivial
  | cons first rest =>
      obtain ⟨past, trial, future, rfl, present, isOpen, untried, order⟩ := waits
      cases left with
      | nil => trivial
      | cons head others =>
          rcases List.cons_sublist_cons'.mp fewer with skips | ⟨rfl, same⟩
          · have among : ∀ later ∈ future, later.IsBounded limit :=
              fun later listed => bounded later (by simp [listed])
            have later := of_untried (past ++ [trial]) among untried (skips.trans order)
            rwa [List.append_assoc] at later
          · exact ⟨past, trial, future, rfl, present, isOpen, untried, same.trans order⟩

/-- A message that is taken in waits behind all others. -/
theorem concat {entry : QueuedRequest} (waits : Waits limit trials queue)
    (fresh : entry.attempts = 0) :
    Waits limit (trials ++ [⟨entry, []⟩]) (queue ++ [entry]) := by
  cases queue with
  | nil =>
      refine of_untried trials ?_ ?_ (List.Sublist.refl [entry])
      · exact List.forall_mem_singleton.mpr (Trial.isBounded_new fresh)
      · exact List.forall_mem_singleton.mpr rfl
  | cons first rest =>
      obtain ⟨past, trial, future, rfl, present, isOpen, untried, order⟩ := waits
      refine ⟨past, trial, future ++ [⟨entry, []⟩], by simp, present, isOpen, ?_, ?_⟩
      · exact List.forall_mem_append.mpr ⟨untried, List.forall_mem_singleton.mpr rfl⟩
      · rw [List.map_append]
        exact order.append (List.Sublist.refl _)

/-- Nobody in the queue was tried more often than the limit says. -/
theorem attempts_le (waits : Waits limit trials queue)
    (bounded : ∀ trial ∈ trials, trial.IsBounded limit) :
    ∀ entry ∈ queue, entry.attempts ≤ limit := by
  cases queue with
  | nil => exact List.forall_mem_nil _
  | cons first rest =>
      obtain ⟨past, trial, future, rfl, rfl, isOpen, untried, order⟩ := waits
      refine List.forall_mem_cons.mpr ⟨isOpen.within, fun entry listed => ?_⟩
      obtain ⟨later, among, rfl⟩ := List.mem_map.mp (order.subset listed)
      have fresh := (bounded later (by simp [among])).fresh
      omega

end Waits

/-! ## The attempts in the ledger -/

/-- The attempts in the ledger are those to write the messages that were taken in, one message
after the other. -/
structure Traffic.IsTried (limit : Nat) (traffic : Traffic) (trials : List Trial) : Prop where
  taken : trials.map Trial.entry = traffic.takenEntries
  attempts : trials.flatMap Trial.attempts = traffic.ledger.filterMap Deed.attempt?
  bounded : ∀ trial ∈ trials, trial.IsBounded limit
  waits : Waits limit trials traffic.queue

namespace Traffic.IsTried

variable {limit : Nat} {before after : Traffic} {trials : List Trial} {deeds : List Deed}

/-- Deeds that neither take a message in nor try one leave the account alone. -/
theorem keep (tried : before.IsTried limit trials) (ledger : after.ledger = before.ledger ++ deeds)
    (untaken : deeds.filterMap Deed.takenEntry? = [])
    (untried : deeds.filterMap Deed.attempt? = []) (queue : after.queue.Sublist before.queue) :
    after.IsTried limit trials where
  taken := by
    rw [tried.taken, Traffic.takenEntries, Traffic.takenEntries, ledger, List.filterMap_append,
      untaken, List.append_nil]
  attempts := by
    rw [tried.attempts, ledger, List.filterMap_append, untried, List.append_nil]
  bounded := tried.bounded
  waits := tried.waits.sublist tried.bounded queue

theorem same (tried : before.IsTried limit trials) (ledger : after.ledger = before.ledger)
    (queue : after.queue = before.queue) : after.IsTried limit trials := by
  have nothing : after.ledger = before.ledger ++ [] := by simp [ledger]
  exact tried.keep nothing rfl rfl (by simp [queue])

/-- Answers leave the account alone. -/
theorem failures (tried : before.IsTried limit trials) {ids : List RequestId} {failure : Failure}
    (ledger : after.ledger = before.ledger ++ ids.map fun id => .answered id (.failed failure))
    (queue : after.queue.Sublist before.queue) : after.IsTried limit trials :=
  tried.keep ledger (by simp [Deed.takenEntry?]) (by simp [Deed.attempt?]) queue

/-- One more attempt to write the message at the head of the queue counts for its trial, whoever
waits after it. -/
theorem tryOn {entry : QueuedRequest} {rest : List QueuedRequest} {generation : Nat}
    {success : Bool} {deed : Deed} (tried : before.IsTried limit trials)
    (waiting : before.queue = entry :: rest)
    (attempt : deed.attempt? = some ⟨generation, entry, success⟩)
    (ledger : after.ledger = before.ledger ++ [deed]) :
    ∃ past, ∃ trial : Trial, ∃ future, entry = trial.counted ∧ trial.IsOpen limit ∧
      (∀ later ∈ future, later.IsBounded limit) ∧ (∀ later ∈ future, later.attempts = []) ∧
      rest.Sublist (future.map Trial.entry) ∧
      (Waits limit (past ++ trial.tryOn generation success :: future) after.queue →
        after.IsTried limit (past ++ trial.tryOn generation success :: future)) := by
  have waits := tried.waits
  rw [waiting] at waits
  obtain ⟨past, trial, future, rfl, rfl, isOpen, untried, order⟩ := waits
  have bounded := tried.bounded
  rw [List.forall_mem_append, List.forall_mem_cons] at bounded
  obtain ⟨earlier, own, behind⟩ := bounded
  have untaken : deed.takenEntry? = none := by
    cases deed with
    | forwarded other => simp [Deed.attempt?] at attempt
    | _ => rfl
  refine ⟨past, trial, future, rfl, isOpen, behind, untried, order, fun left => ⟨?_, ?_, ?_, left⟩⟩
  · have taken := tried.taken
    rw [Traffic.takenEntries, ledger, List.filterMap_append, List.filterMap_cons_none untaken,
      List.filterMap_nil, List.append_nil]
    rw [List.map_append, List.map_cons] at taken ⊢
    exact taken
  · have unwritten : future.flatMap Trial.attempts = [] := List.flatMap_eq_nil_iff.mpr untried
    have attempts := tried.attempts
    rw [List.flatMap_append, List.flatMap_cons, unwritten, List.append_nil] at attempts ⊢
    rw [ledger, List.filterMap_append, ← attempts]
    simp [Trial.tryOn, attempt]
  · rw [List.forall_mem_append, List.forall_mem_cons]
    exact ⟨earlier, own.tryOn isOpen generation success, behind⟩

/-- The message at the head of the queue is tried, and does not wait any more. -/
theorem leave {entry : QueuedRequest} {rest : List QueuedRequest} {generation : Nat}
    {success : Bool} {deed : Deed} (tried : before.IsTried limit trials)
    (waiting : before.queue = entry :: rest)
    (attempt : deed.attempt? = some ⟨generation, entry, success⟩)
    (ledger : after.ledger = before.ledger ++ [deed]) (queue : after.queue = rest) :
    ∃ later, after.IsTried limit later := by
  obtain ⟨past, trial, future, -, -, bounded, untried, order, account⟩ :=
    tried.tryOn waiting attempt ledger
  have waits := Waits.of_untried (past ++ [trial.tryOn generation success]) bounded untried order
  rw [List.append_assoc, ← queue] at waits
  exact ⟨_, account waits⟩

/-- The message at the head of the queue is tried in vain, and waits on with another count. -/
theorem retry {entry : QueuedRequest} {rest : List QueuedRequest} {generation : Nat} {deed : Deed}
    (tried : before.IsTried limit trials) (waiting : before.queue = entry :: rest)
    (attempt : deed.attempt? = some ⟨generation, entry, false⟩)
    (ledger : after.ledger = before.ledger ++ [deed]) (again : entry.attempts + 1 ≤ limit)
    (queue : after.queue = { entry with attempts := entry.attempts + 1 } :: rest) :
    ∃ later, after.IsTried limit later := by
  obtain ⟨past, trial, future, rfl, isOpen, -, untried, order, account⟩ :=
    tried.tryOn waiting attempt ledger
  have counted : ({ trial.counted with attempts := trial.counted.attempts + 1 } : QueuedRequest) =
      (trial.tryOn generation false).counted := by
    simp [Trial.counted, Trial.tryOn]
  have stillOpen : (trial.tryOn generation false).IsOpen limit := by
    refine ⟨by simpa [Trial.tryOn, Trial.counted] using again, ?_⟩
    exact List.forall_mem_append.mpr ⟨isOpen.failures, List.forall_mem_singleton.mpr rfl⟩
  refine ⟨_, account ?_⟩
  rw [queue]
  exact ⟨past, _, future, rfl, counted, stillOpen, untried, order⟩

/-- A message that is taken in was not tried yet. -/
theorem takeIn (setup : Setup) {entry : QueuedRequest} (tried : before.IsTried limit trials)
    (fresh : entry.attempts = 0) :
    (before.takeIn setup entry).IsTried limit (trials ++ [⟨entry, []⟩]) where
  taken := by
    have taken : (before.takeIn setup entry).takenEntries = before.takenEntries ++ [entry] := by
      simp [Traffic.takenEntries, Traffic.takeIn, Traffic.enter, Traffic.armDeadline,
        Traffic.accept, Deed.takenEntry?]
    rw [taken, ← tried.taken, List.map_append]
    rfl
  attempts := by
    have attempts := tried.attempts
    simp [Traffic.takeIn, Traffic.enter, Traffic.armDeadline, Traffic.accept, Deed.attempt?,
      attempts]
  bounded := List.forall_mem_append.mpr
    ⟨tried.bounded, List.forall_mem_singleton.mpr (Trial.isBounded_new fresh)⟩
  waits := tried.waits.concat fresh

end Traffic.IsTried

theorem Move.isTried {setup : Setup} {before after : Traffic} {trials : List Trial}
    (move : Move setup before after)
    (tried : before.IsTried setup.settings.service.maxWriteRetries trials) :
    ∃ later, after.IsTried setup.settings.service.maxWriteRetries later := by
  cases move with
  | launched => exact ⟨_, tried.same rfl rfl⟩
  | launchFailed => exact ⟨_, tried.same rfl rfl⟩
  | probed => exact ⟨_, tried.keep rfl rfl rfl (List.Sublist.refl _)⟩
  | probeRefused => exact ⟨_, tried.same rfl rfl⟩
  | demoted => exact ⟨_, tried.same rfl rfl⟩
  | wrote ready waiting => exact tried.leave waiting rfl rfl rfl
  | @abandoned entry rest failure ready waiting =>
      let lost := ({ before with queue := rest }.refuse entry).release
      obtain ⟨trials, refused⟩ : ∃ later, lost.IsTried _ later := tried.leave waiting rfl rfl rfl
      have others : (lost.failPresent failure).IsTried _ trials :=
        refused.failures rfl (List.Sublist.refl _)
      exact ⟨trials, others.failures rfl (List.Sublist.refl _)⟩
  | @retried entry rest failure ready waiting again =>
      let requeued := ({ before with queue := rest }.refuse entry).requeue
        { entry with attempts := entry.attempts + 1 }
      obtain ⟨trials, refused⟩ : ∃ later, requeued.IsTried _ later :=
        tried.retry waiting rfl rfl again rfl
      exact ⟨trials, refused.failures rfl (List.Sublist.refl _)⟩
  | ended => exact ⟨_, tried.failures rfl (List.Sublist.refl _)⟩
  | queueFailed => exact ⟨_, tried.failures rfl (List.nil_sublist _)⟩
  | expired => exact ⟨_, tried.keep rfl rfl rfl (List.Sublist.refl _)⟩
  | withdrawn => exact ⟨_, tried.keep rfl rfl rfl List.eraseP_sublist⟩
  | startedLate => exact ⟨_, tried.keep rfl rfl rfl List.eraseP_sublist⟩
  | told => exact ⟨_, tried.keep rfl rfl rfl (List.Sublist.refl _)⟩
  | elapsed => exact ⟨_, tried.same rfl rfl⟩

theorem Moves.isTried {setup : Setup} {before after : Traffic} {trials : List Trial}
    (moves : Moves setup before after)
    (tried : before.IsTried setup.settings.service.maxWriteRetries trials) :
    ∃ later, after.IsTried setup.settings.service.maxWriteRetries later := by
  induction moves with
  | refl => exact ⟨trials, tried⟩
  | tail _ move ih =>
      obtain ⟨middle, triedSoFar⟩ := ih
      exact move.isTried triedSoFar

theorem Passage.isTried {setup : Setup} {before after : Traffic} {arrival : Option Arrival}
    {trials : List Trial} (passage : Passage setup before arrival after)
    (tried : before.IsTried setup.settings.service.maxWriteRetries trials) :
    ∃ later, after.IsTried setup.settings.service.maxWriteRetries later := by
  cases passage with
  | quiet moves => exact moves.isTried tried
  | woken starting moves =>
      have woken : (before.wake setup).IsTried _ trials := tried.same rfl rfl
      exact moves.isTried woken
  | turnedAway message failure free moves =>
      have accepted : (before.accept message.answerId).IsTried _ trials :=
        tried.keep rfl (by simp [Deed.takenEntry?]) (by simp [Deed.attempt?])
          (List.Sublist.refl _)
      have answered : (before.turnAway message.answerId failure).IsTried _ trials :=
        accepted.failures rfl (List.Sublist.refl _)
      exact moves.isTried answered
  | takenIn message first kept free moves =>
      obtain ⟨middle, triedSoFar⟩ := first.isTried tried
      exact moves.isTried (triedSoFar.takeIn setup rfl)
  | responded response found => exact ⟨_, tried.keep rfl rfl rfl (List.Sublist.refl _)⟩
  | recalled response missing timedOut => exact ⟨_, tried.same rfl rfl⟩
  | unmatched response missing unknown =>
      exact ⟨_, tried.keep rfl rfl rfl (List.Sublist.refl _)⟩

/-- In every state that can be reached, the attempts in the ledger make up bounded trials. -/
theorem Gateway.isTried_after (setup : Setup) (outside : Outside) (steps : List Step) :
    ∃ trials, (after setup outside steps).traffic.IsTried
      setup.settings.service.maxWriteRetries trials := by
  have start : (initial setup outside).traffic.IsTried
      setup.settings.service.maxWriteRetries [] := by
    rw [traffic_initial]
    exact ⟨rfl, rfl, List.forall_mem_nil _, trivial⟩
  have keeps (before : Traffic) (arrival : Option Arrival) (after : Traffic)
      (_ : before.IsSettled) (passage : Passage setup before arrival after)
      (holds : ∃ trials, before.IsTried setup.settings.service.maxWriteRetries trials) :
      ∃ trials, after.IsTried setup.settings.service.maxWriteRetries trials := by
    obtain ⟨trials, tried⟩ := holds
    exact passage.isTried tried
  exact (traffic_induction keeps (settled_initial setup outside) ⟨[], start⟩ steps).1

/-! ## The answers to one request -/

/-- The answer that a deed gives to the request with an identifier. -/
def Deed.answerTo? (id : RequestId) : Deed → Option Answer
  | answered other answer => if other = id then some answer else none
  | _ => none

/-- The answers to a request, until another with its identifier is accepted. -/
def answersTo (id : RequestId) (deeds : List Deed) : List Answer :=
  (deeds.takeWhile fun deed => deed ≠ .accepted id).filterMap (Deed.answerTo? id)

theorem length_filterMap_answerTo? (id : RequestId) (deeds : List Deed) :
    (deeds.filterMap (Deed.answerTo? id)).length = deeds.countP (Deed.isAnswerTo id) := by
  induction deeds with
  | nil => rfl
  | cons deed deeds ih =>
      cases deed with
      | answered other answer =>
          by_cases same : other = id <;>
            simp [Deed.answerTo?, Deed.isAnswerTo, same, ih]
      | _ => simpa [List.filterMap_cons, Deed.answerTo?, Deed.isAnswerTo] using ih

namespace Owes

variable {ledger : List Deed} {owed : List RequestId}

theorem of_concat {deed : Deed} (owes : Owes (ledger ++ [deed]) owed) :
    ∃ earlier, Owes ledger earlier := by
  generalize whole : ledger ++ [deed] = all at owes
  have cut {init : List Deed} {last : Deed} {earlier : List RequestId}
      (same : ledger ++ [deed] = init ++ [last]) (owes : Owes init earlier) :
      ∃ earlier, Owes ledger earlier :=
    ⟨earlier, (List.append_inj' same rfl).1 ▸ owes⟩
  induction owes with
  | nothing => simp at whole
  | accepted owes => exact cut whole owes
  | answered answer owes => exact cut whole owes
  | written generation owes => exact cut whole owes
  | other owes => exact cut whole owes
  | reordered _ _ ih => exact ih whole

/-- Account was kept at every time. -/
theorem of_append {deeds : List Deed} (owes : Owes (ledger ++ deeds) owed) :
    ∃ earlier, Owes ledger earlier := by
  induction deeds using List.reverseRecOn generalizing owed with
  | nil => exact ⟨owed, by simpa using owes⟩
  | append_singleton deeds last ih =>
      rw [← List.append_assoc] at owes
      obtain ⟨earlier, owesEarlier⟩ := owes.of_concat
      exact ih owesEarlier

/-- A request gets no more than one answer. -/
theorem length_answersTo_le {id : RequestId} {deeds : List Deed}
    (owes : Owes (ledger ++ .accepted id :: deeds) owed) : (answersTo id deeds).length ≤ 1 := by
  let life := deeds.takeWhile fun deed => deed ≠ .accepted id
  obtain ⟨later, owesLater⟩ : ∃ later, Owes (ledger ++ .accepted id :: life) later := by
    rw [← deeds.takeWhile_append_dropWhile (p := fun deed => decide (deed ≠ .accepted id)),
      ← List.cons_append, ← List.append_assoc] at owes
    exact owes.of_append
  have atEnd := owesLater.count_accepted id
  rw [List.append_cons] at owes
  obtain ⟨then', owesThen⟩ := owes.of_append
  obtain ⟨earlier, owesBefore⟩ := owesThen.of_concat
  have atStart := owesThen.count_accepted id
  have once := List.nodup_iff_count.mp owesThen.nodup id
  have before := owesBefore.count_accepted id
  have unaccepted : (life.filterMap Deed.acceptedId?).count id = 0 := by
    rw [List.count_eq_zero]
    intro listed
    obtain ⟨deed, done, same⟩ := List.mem_filterMap.mp listed
    have other := List.mem_takeWhile_imp done
    cases deed with
    | accepted own =>
        obtain rfl := Option.some.inj same
        simp at other
    | _ => simp [Deed.acceptedId?] at same
  rw [count_acceptedId?_concat] at atStart
  have counted : life.countP (Deed.isAnswerTo id) ≤ 1 := by
    simp [Deed.acceptedId?, Deed.isAnswerTo, unaccepted] at atEnd atStart
    omega
  rwa [answersTo, length_filterMap_answerTo?]

/-- An answer is given only after the request was accepted. -/
theorem accepted_of_answered {id : RequestId} {answer : Answer} {deeds : List Deed}
    (owes : Owes (ledger ++ Deed.answered id answer :: deeds) owed) : Deed.accepted id ∈ ledger := by
  rw [List.append_cons] at owes
  obtain ⟨earlier, owesThen⟩ := owes.of_append
  have counted := owesThen.count_accepted id
  have answered : 0 < (ledger ++ [Deed.answered id answer]).countP (Deed.isAnswerTo id) :=
    List.countP_pos_iff.mpr ⟨_, List.mem_concat_self, by simp [Deed.isAnswerTo]⟩
  have listed : id ∈ (ledger ++ [Deed.answered id answer]).filterMap Deed.acceptedId? :=
    List.count_pos_iff.mp (by omega)
  obtain ⟨deed, done, same⟩ := List.mem_filterMap.mp listed
  cases deed with
  | accepted other =>
      obtain rfl := Option.some.inj same
      simpa using done
  | _ => simp [Deed.acceptedId?] at same

theorem exists_last_of_mem {α : Type} {element : α} {list : List α} (listed : element ∈ list) :
    ∃ before after, list = before ++ element :: after ∧ element ∉ after := by
  obtain ⟨after, before, split, fresh⟩ :=
    List.eq_append_cons_of_mem (List.mem_reverse.mpr listed)
  refine ⟨before.reverse, after.reverse, ?_, by simpa using fresh⟩
  rw [← List.reverse_reverse list, split]
  simp

/-- A request that was refused too often gets a single answer, the failure to write it. -/
theorem answersTo_of_refused {limit generation : Nat} {entry : QueuedRequest} {id : RequestId}
    {earlier since : List Deed} (owes : Owes ledger owed) (tells : TellsRefused limit ledger)
    (split : ledger = earlier ++ .refused generation entry :: since)
    (tooOften : limit ≤ entry.attempts) (request : entry.id = some id) :
    ∃ before between detail, earlier = before ++ .accepted id :: between ∧
      .accepted id ∉ between ∧
      answersTo id (between ++ .refused generation entry :: since) =
        [.failed (.serviceWrite detail)] := by
  obtain ⟨others, detail, later, rfl, unaccepted⟩ :=
    tells earlier generation entry since id split tooOften request
  let failed : Deed := .answered id (.failed (.serviceWrite detail))
  have accepted : .accepted id ∈ earlier := by
    have whole : Owes ((earlier ++ .refused generation entry :: others) ++ failed :: later) owed := by
      simpa [split] using owes
    simpa [unaccepted] using whole.accepted_of_answered
  obtain ⟨before, between, rfl, fresh⟩ := exists_last_of_mem accepted
  refine ⟨before, between, detail, rfl, fresh, ?_⟩
  have single : (answersTo id
      (between ++ .refused generation entry :: (others ++ failed :: later))).length ≤ 1 := by
    have whole : Owes (before ++ .accepted id ::
        (between ++ .refused generation entry :: (others ++ failed :: later))) owed := by
      simpa [split] using owes
    exact whole.length_answersTo_le
  have given : .failed (.serviceWrite detail) ∈ answersTo id
      (between ++ .refused generation entry :: (others ++ failed :: later)) := by
    have apart : ∀ deed ∈ between ++ .refused generation entry :: others,
        decide (deed ≠ .accepted id) = true := by
      intro deed done
      rw [decide_eq_true_iff]
      rintro rfl
      simp [fresh, unaccepted] at done
    rw [← List.cons_append, ← List.append_assoc, answersTo, List.takeWhile_append_of_pos apart]
    refine List.mem_filterMap.mpr ⟨failed, ?_, by simp [failed, Deed.answerTo?]⟩
    simp [failed]
  obtain ⟨answer, only⟩ := List.length_eq_one_iff.mp
    (Nat.le_antisymm single (List.length_pos_of_mem given))
  rw [only] at given ⊢
  rw [List.mem_singleton.mp given]

end Owes

namespace Gateway

theorem map_line_takenEntries (setup : Setup) (outside : Outside) (steps : List Step) :
    (after setup outside steps).traffic.takenEntries.map QueuedRequest.line =
      forwardedLines setup (initial setup outside) steps := by
  obtain ⟨deeds, grows, -, taken⟩ := run_grows setup (settled_initial setup outside) steps
  have ledger : (after setup outside steps).ledger = deeds := by
    have all := grows.ledger
    rwa [traffic_initial] at all
  have lines : (fun deed : Deed => deed.takenEntry?.map QueuedRequest.line) = Deed.takenLine? := by
    funext deed
    cases deed <;> rfl
  rw [← taken, ← ledger, Traffic.takenEntries, List.map_filterMap, lines]
  rfl

/-- No message is tried more often than the settings say.  Nobody waits with a higher count of
attempts than the limit.  The attempts in the ledger are those to write the lines that were taken
in, one line after the other; each is tried once more often than the limit at most, and only its
last attempt may be a success.  A request that fails this often gets a single answer from its
acceptance on, the failure to write it.  No count grows past what 32 bits hold. -/
theorem write_attempts_are_bounded (setup : Setup) (outside : Outside) (steps : List Step)
    (limited : setup.settings.service.maxWriteRetries < 2 ^ 32 - 1)
    (faithful : outside.FailsAsWrite) (faithfulLater : FailAsWrites steps) :
    let gateway := after setup outside steps
    let limit := setup.settings.service.maxWriteRetries
    (∀ entry ∈ gateway.queue, entry.attempts ≤ limit) ∧
      (∃ trials : List Trial,
        trials.map (fun trial => trial.entry.line) =
            forwardedLines setup (initial setup outside) steps ∧
          trials.map Trial.entry = gateway.ledger.filterMap Deed.takenEntry? ∧
          trials.flatMap Trial.attempts = gateway.ledger.filterMap Deed.attempt? ∧
          ∀ trial ∈ trials, trial.IsBounded limit) ∧
      (∀ earlier generation entry since id,
        gateway.ledger = earlier ++ .refused generation entry :: since → entry.attempts = limit →
          entry.id = some id →
            ∃ before between detail, earlier = before ++ .accepted id :: between ∧
              .accepted id ∉ between ∧
              answersTo id (between ++ .refused generation entry :: since) =
                [.failed (.serviceWrite detail)]) ∧
      ∀ generation entry, .refused generation entry ∈ gateway.ledger →
        entry.attempts ≤ limit ∧ entry.attempts + 1 < 2 ^ 32 := by
  intro gateway limit
  obtain ⟨trials, tried⟩ := isTried_after setup outside steps
  obtain ⟨-, accountable⟩ := isAccountable_after setup outside steps
  have candid := isCandid_after setup faithful faithfulLater
  refine ⟨tried.waits.attempts_le tried.bounded, ⟨trials, ?_, tried.taken, tried.attempts,
    tried.bounded⟩, ?_, ?_⟩
  · rw [← map_line_takenEntries, ← tried.taken, List.map_map]
    rfl
  · intro earlier generation entry since id split count request
    exact accountable.answersTo_of_refused candid.ledger split count.ge request
  · intro generation entry refused
    have attempt : ⟨generation, entry, false⟩ ∈ trials.flatMap Trial.attempts := by
      rw [tried.attempts]
      exact List.mem_filterMap.mpr ⟨_, refused, rfl⟩
    obtain ⟨trial, among, listed⟩ := List.mem_flatMap.mp attempt
    have bounded : entry.attempts ≤ limit := (tried.bounded trial among).attempts_le listed
    exact ⟨bounded, by omega⟩

/-- The first write of a request fails, and so does the second, to another process. -/
theorem request_refused_twice_is_told :
    let setup : Setup :=
      { settings := { service := { maxWriteRetries := 1 } }, launch := ⟨"npx", [], none⟩ }
    let broken := Failure.serviceWrite "broken pipe"
    let outside : Outside := { writeOutcomes := [some broken, some broken] }
    let line := "\x7b\"id\":1,\"method\":\"page/content\"\x7d"
    let steps : List Step :=
      [.event (.clientLine line),
        .event (.serviceOutput 1 "\x7b\"id\":\"health_check_1\"\x7d"),
        .event (.serviceOutput 2 "\x7b\"id\":\"health_check_2\"\x7d")]
    let entry : QueuedRequest := ⟨some (.number 1), line, .relay, 0⟩
    let since : List Deed :=
      [.forwarded entry, .refused 1 entry, .refused 2 { entry with attempts := 1 },
        .answered (.number 1) (.failed broken)]
    outside.FailsAsWrite ∧ (after setup outside steps).ledger = .accepted (.number 1) :: since ∧
      ∃ detail, answersTo (.number 1) since = [.failed (.serviceWrite detail)] := by
  intro setup broken outside line steps entry since
  have ledger : (after setup outside steps).ledger = .accepted (.number 1) :: since := by
    decide +kernel
  have faithful : outside.FailsAsWrite := fun failure coming =>
    ⟨"broken pipe", by simpa [outside] using coming⟩
  have still : FailAsWrites steps := fun other listed => by simp [steps] at listed
  obtain ⟨-, -, answers, -⟩ := write_attempts_are_bounded setup outside steps (by decide)
    faithful still
  obtain ⟨before, between, detail, split, -, single⟩ :=
    answers [.accepted (.number 1), .forwarded entry, .refused 1 entry] 2 _ _ (.number 1) ledger
      rfl rfl
  have first : before = [] := by
    rcases List.cons_eq_append_iff.mp split with ⟨rfl, -⟩ | ⟨others, rfl, rest⟩
    · rfl
    · have again : Deed.accepted (.number 1) ∈ others ++ .accepted (.number 1) :: between := by simp
      simp [← rest] at again
  subst first
  obtain rfl : [.forwarded entry, .refused 1 entry] = between := (List.cons.inj split).2
  exact ⟨faithful, ledger, detail, single⟩

end Gateway

end BrowserRelay
