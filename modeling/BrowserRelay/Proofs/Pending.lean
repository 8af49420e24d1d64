import BrowserRelay.Proofs.Correlation

/-!
# Pending calls and their requests

Behind every pending call stands the last request with its identifier that was taken in: it was
written to the present process, and nothing has answered it since.  A process that goes away
therefore leaves no call behind without an answer.
-/

namespace BrowserRelay

/-- Deeds neither answer a request with an identifier nor take one in. -/
structure Spares (deeds : List Deed) (id : RequestId) : Prop where
  unanswered : ∀ deed ∈ deeds, deed.isAnswerTo id = false
  untaken : ∀ entry, .forwarded entry ∈ deeds → entry.id ≠ some id

/-- The last request with an identifier that was taken in is unanswered; what was done since. -/
structure IsLatest (ledger : List Deed) (id : RequestId) (entry : QueuedRequest)
    (since : List Deed) : Prop where
  taken : ∃ earlier, ledger = earlier ++ .forwarded entry :: since
  request : entry.id = some id
  spared : Spares since id

/-- The last request with the identifier of a call was written to the process of the call. -/
def WasPassedOn (ledger : List Deed) (call : PendingCall) : Prop :=
  ∃ entry since attempts, IsLatest ledger call.id entry since ∧ entry.plan = call.plan ∧
    .written call.generation { entry with attempts := attempts } ∈ since

/-- A request is the last one with its identifier that was taken in, but for the count of
attempts to write it. -/
def WasTakenIn (ledger : List Deed) (waiting : QueuedRequest) : Prop :=
  ∀ id, waiting.id = some id → ∃ entry since,
    IsLatest ledger id entry since ∧ waiting = { entry with attempts := waiting.attempts }

section Ledger

variable {ledger deeds since : List Deed} {id : RequestId} {entry waiting : QueuedRequest}
  {call : PendingCall}

theorem Spares.append {first second : List Deed} (spared : Spares first id)
    (sparedToo : Spares second id) : Spares (first ++ second) id where
  unanswered := List.forall_mem_append.mpr ⟨spared.unanswered, sparedToo.unanswered⟩
  untaken entry taken :=
    (List.mem_append.mp taken).elim (spared.untaken entry) (sparedToo.untaken entry)

theorem IsLatest.append (latest : IsLatest ledger id entry since) (spared : Spares deeds id) :
    IsLatest (ledger ++ deeds) id entry (since ++ deeds) where
  taken := by
    obtain ⟨earlier, split⟩ := latest.taken
    exact ⟨earlier, by rw [split, List.append_assoc, List.cons_append]⟩
  request := latest.request
  spared := latest.spared.append spared

theorem WasPassedOn.append (passed : WasPassedOn ledger call) (spared : Spares deeds call.id) :
    WasPassedOn (ledger ++ deeds) call := by
  obtain ⟨entry, since, attempts, latest, plan, written⟩ := passed
  exact ⟨entry, since ++ deeds, attempts, latest.append spared, plan,
    List.mem_append_left _ written⟩

theorem WasTakenIn.append (taken : WasTakenIn ledger waiting)
    (spared : ∀ id, waiting.id = some id → Spares deeds id) :
    WasTakenIn (ledger ++ deeds) waiting := by
  intro id request
  obtain ⟨entry, since, latest, same⟩ := taken id request
  exact ⟨entry, since ++ deeds, latest.append (spared id request), same⟩

theorem WasTakenIn.retry (taken : WasTakenIn ledger entry)
    (same : waiting = { entry with attempts := waiting.attempts }) :
    WasTakenIn ledger waiting := by
  intro id request
  rw [same] at request
  obtain ⟨first, since, latest, original⟩ := taken id request
  refine ⟨first, since, latest, ?_⟩
  rw [same, original]

theorem WasTakenIn.concat (ledger : List Deed) (entry : QueuedRequest) :
    WasTakenIn (ledger ++ [.forwarded entry]) entry :=
  fun _ request => ⟨entry, [], ⟨⟨ledger, rfl⟩, request, ⟨by simp, by simp⟩⟩, rfl⟩

/-- When a request that was taken in is written, it is passed on. -/
theorem WasTakenIn.write (taken : WasTakenIn ledger waiting) (request : waiting.id = some id)
    (generation : Nat) :
    WasPassedOn (ledger ++ [.written generation waiting]) ⟨id, waiting.plan, generation⟩ := by
  obtain ⟨entry, since, latest, same⟩ := taken id request
  refine ⟨entry, since ++ [.written generation waiting], waiting.attempts,
    latest.append ⟨by simp [Deed.isAnswerTo], by simp⟩, ?_, ?_⟩
  · rw [same]
  · rw [← same]
    simp

/-- A request that was passed on is an open call. -/
theorem WasPassedOn.isOpen (passed : WasPassedOn ledger call) :
    ∃ place entry, IsCall ledger place call.generation entry call.id ∧
      IsOpen ledger place call.id ∧ entry.plan = call.plan := by
  obtain ⟨entry, since, attempts, latest, plan, written⟩ := passed
  obtain ⟨earlier, split⟩ := latest.taken
  obtain ⟨before, behind, parts⟩ := List.append_of_mem written
  let front := earlier ++ .forwarded entry :: before
  have whole : ledger =
      front ++ .written call.generation { entry with attempts := attempts } :: behind := by
    rw [split, parts, List.append_assoc, List.cons_append]
  have there : ledger[front.length]? =
      some (.written call.generation { entry with attempts := attempts }) := by
    rw [whole, List.getElem?_append_right (Nat.le_refl _), Nat.sub_self]
    rfl
  refine ⟨front.length, _, ⟨there, latest.request⟩, ?_, plan⟩
  intro deed later
  rw [whole, ← List.drop_drop, List.drop_left] at later
  have since : deed ∈ behind := later
  exact latest.spared.unanswered deed (by simp [parts, since])

end Ledger

/-! ## What is pending and what waits was taken in -/

namespace Traffic

/-- The calls that are pending were passed on, and the requests that wait were taken in. -/
structure IsBacked (traffic : Traffic) : Prop where
  pending : ∀ call ∈ traffic.pending, WasPassedOn traffic.ledger call
  queue : ∀ waiting ∈ traffic.queue, WasTakenIn traffic.ledger waiting

variable {before after traffic : Traffic} {deeds : List Deed}

theorem mem_inFlight_of_pending {call : PendingCall} (pending : call ∈ traffic.pending) :
    call.id ∈ traffic.inFlight :=
  List.mem_append_left _ (List.mem_map_of_mem pending)

theorem mem_inFlight_of_queue {entry : QueuedRequest} {id : RequestId}
    (waiting : entry ∈ traffic.queue) (request : entry.id = some id) : id ∈ traffic.inFlight :=
  List.mem_append_right _ (List.mem_filterMap.mpr ⟨entry, waiting, request⟩)

/-- Who is in flight was not answered by deeds among which no request was accepted. -/
theorem IsAccountable.unanswered {earlier : List Deed} (accountable : traffic.IsAccountable)
    (ledger : traffic.ledger = earlier ++ deeds) (unaccepted : ∀ id, .accepted id ∉ deeds)
    {id : RequestId} (flying : id ∈ traffic.inFlight) :
    ∀ deed ∈ deeds, deed.isAnswerTo id = false := by
  intro deed done
  by_contra isAnswer
  cases deed with
  | answered other answer =>
      obtain rfl : other = id := by simpa [Deed.isAnswerTo] using isAnswer
      obtain ⟨before, behind, parts⟩ := List.append_of_mem done
      have split : traffic.ledger = (earlier ++ before) ++ .answered other answer :: behind := by
        rw [ledger, parts, List.append_assoc]
      have closed : .accepted other ∉ behind :=
        fun later => unaccepted other (by simp [parts, later])
      exact (accountable.not_written_after_answer split closed).1 flying
  | _ => simp [Deed.isAnswerTo] at isAnswer

/-- Those who stay in flight are still backed after deeds that spare them. -/
theorem IsBacked.extend (backed : before.IsBacked)
    (ledger : after.ledger = before.ledger ++ deeds)
    (spared : ∀ id ∈ after.inFlight, Spares deeds id)
    (pending : after.pending ⊆ before.pending)
    (queue : ∀ waiting ∈ after.queue, ∃ earlier ∈ before.queue,
      waiting = { earlier with attempts := waiting.attempts }) : after.IsBacked where
  pending call listed := by
    rw [ledger]
    exact (backed.pending call (pending listed)).append (spared _ (mem_inFlight_of_pending listed))
  queue waiting listed := by
    obtain ⟨earlier, wasListed, same⟩ := queue waiting listed
    rw [ledger]
    exact ((backed.queue earlier wasListed).retry same).append fun id request =>
      spared id (mem_inFlight_of_queue listed request)

theorem IsBacked.write {entry : QueuedRequest} {rest : List QueuedRequest}
    (backed : before.IsBacked) (waiting : before.queue = entry :: rest)
    (unsent : ∀ id, entry.id = some id → id ∉ before.pending.map PendingCall.id) :
    ({ before with queue := rest }.write entry).IsBacked := by
  have spared (id : RequestId) : Spares [.written before.generation entry] id :=
    ⟨by simp [Deed.isAnswerTo], by simp⟩
  constructor
  · intro call listed
    rcases (mem_pending_write_iff rest unsent call).mp listed with old | ⟨request, new⟩
    · exact (backed.pending call old).append (spared call.id)
    · rw [new]
      exact (backed.queue entry (by simp [waiting])).write request before.generation
  · intro other listed
    have wasListed : other ∈ before.queue := by
      rw [waiting]
      exact List.mem_cons_of_mem entry listed
    exact (backed.queue other wasListed).append fun id _ => spared id

end Traffic

/-- Only the count of attempts changes of a message that goes on waiting. -/
theorem Move.mem_queue {setup : Setup} {before after : Traffic} (move : Move setup before after)
    {waiting : QueuedRequest} (listed : waiting ∈ after.queue) :
    ∃ earlier ∈ before.queue, waiting = { earlier with attempts := waiting.attempts } := by
  have same (stays : waiting ∈ before.queue) :
      ∃ earlier ∈ before.queue, waiting = { earlier with attempts := waiting.attempts } :=
    ⟨waiting, stays, rfl⟩
  cases move with
  | @wrote entry rest ready split =>
      apply same
      rw [split]
      have left : ({ before with queue := rest }.write entry).queue = rest := rfl
      exact List.mem_cons_of_mem entry (left ▸ listed)
  | @abandoned entry rest failure ready split tooOften =>
      apply same
      rw [split]
      exact List.mem_cons_of_mem entry listed
  | @retried entry rest failure ready split again =>
      rcases List.mem_cons.mp listed with rfl | behind
      · exact ⟨entry, by simp [split], rfl⟩
      · apply same
        rw [split]
        exact List.mem_cons_of_mem entry behind
  | queueFailed => simp [Traffic.failQueue, Traffic.failAll] at listed
  | withdrawn => exact same (List.eraseP_sublist.subset listed)
  | startedLate => exact same (List.eraseP_sublist.subset listed)
  | launched => exact same listed
  | launchFailed => exact same listed
  | probed => exact same listed
  | probeRefused => exact same listed
  | demoted => exact same listed
  | ended => exact same listed
  | expired => exact same listed
  | told => exact same listed
  | elapsed => exact same listed

theorem NoArrival.unaccepted {deeds : List Deed} (none : NoArrival deeds) (id : RequestId) :
    .accepted id ∉ deeds :=
  fun done => by simpa [Deed.isArrival] using none _ done

theorem NoArrival.untaken {deeds : List Deed} (none : NoArrival deeds) (entry : QueuedRequest) :
    .forwarded entry ∉ deeds :=
  fun done => by simpa [Deed.isArrival] using none _ done

theorem Move.isBacked {setup : Setup} {before after : Traffic} (move : Move setup before after)
    (present : before.IsPresent) (accountable : before.IsAccountable) (backed : before.IsBacked) :
    after.IsBacked := by
  obtain ⟨deeds, grows, none⟩ := move.grows
  have still := move.isAccountable present accountable
  have keep (pending : after.pending ⊆ before.pending) : after.IsBacked := by
    refine backed.extend grows.ledger (fun id flying => ⟨?_, ?_⟩) pending
      fun waiting listed => move.mem_queue listed
    · exact still.unanswered grows.ledger none.unaccepted flying
    · exact fun entry taken => absurd taken (none.untaken entry)
  -- No call becomes pending but by a write.
  cases move.callMove present accountable with
  | stays settles stays => exact keep fun call listed => ((settles.pending call).mp listed).1
  | renews settles renews => exact keep fun call listed => ((settles.pending call).mp listed).1
  | wrote ready waiting unsent => exact backed.write waiting unsent

theorem Moves.isBacked {setup : Setup} {before after : Traffic} (moves : Moves setup before after)
    (present : before.IsPresent) (accountable : before.IsAccountable) (backed : before.IsBacked) :
    after.IsBacked := by
  induction moves with
  | refl => exact backed
  | tail earlier move ih =>
      exact move.isBacked (Moves.isPresent earlier present)
        (Moves.isAccountable earlier present accountable) ih

namespace Traffic.IsBacked

variable {traffic : Traffic}

theorem wake (setup : Setup) (backed : traffic.IsBacked) : (traffic.wake setup).IsBacked :=
  ⟨backed.pending, backed.queue⟩

theorem turnAway {id : Option RequestId} (failure : Failure) (backed : traffic.IsBacked)
    (free : ∀ own, id = some own → traffic.IsFree own) :
    (traffic.turnAway id failure).IsBacked := by
  have ledger : (traffic.turnAway id failure).ledger = traffic.ledger ++
      (id.toList.map .accepted ++ id.toList.map fun id => .answered id (.failed failure)) :=
    List.append_assoc _ _ _
  refine backed.extend ledger (fun other flying => ⟨fun deed done => ?_, by simp⟩)
    (List.Subset.refl _) fun waiting listed => ⟨waiting, listed, rfl⟩
  rcases List.mem_append.mp done with accepted | answered
  · obtain ⟨own, -, rfl⟩ := List.mem_map.mp accepted
    rfl
  · obtain ⟨own, itself, rfl⟩ := List.mem_map.mp answered
    have unused := not_mem_inFlight (free own (Option.mem_toList.mp itself))
    have apart : own ≠ other := by
      rintro rfl
      exact unused flying
    simp [Deed.isAnswerTo, apart]

theorem takeIn (setup : Setup) (entry : QueuedRequest) (backed : traffic.IsBacked)
    (free : ∀ own, entry.id = some own → traffic.IsFree own) :
    (traffic.takeIn setup entry).IsBacked := by
  have ledger : (traffic.takeIn setup entry).ledger =
      traffic.ledger ++ (entry.id.toList.map .accepted ++ [.forwarded entry]) :=
    List.append_assoc _ _ _
  have spared (id : RequestId) (flying : id ∈ traffic.inFlight) :
      Spares (entry.id.toList.map .accepted ++ [.forwarded entry]) id := by
    have accepted : Spares (entry.id.toList.map .accepted) id :=
      ⟨by simp [Deed.isAnswerTo], by simp⟩
    have apart : entry.id ≠ some id := fun same => not_mem_inFlight (free id same) flying
    exact accepted.append ⟨by simp [Deed.isAnswerTo], by simpa using apart⟩
  constructor
  · intro call listed
    rw [ledger]
    exact (backed.pending call listed).append (spared _ (mem_inFlight_of_pending listed))
  · intro waiting listed
    rcases List.mem_append.mp listed with old | new
    · rw [ledger]
      exact (backed.queue waiting old).append fun id request =>
        spared id (mem_inFlight_of_queue old request)
    · rw [List.mem_singleton.mp new]
      exact .concat _ entry

end Traffic.IsBacked

theorem Passage.isBacked {setup : Setup} {before after : Traffic} {arrival : Option Arrival}
    (passage : Passage setup before arrival after) (present : before.IsPresent)
    (accountable : before.IsAccountable) (backed : before.IsBacked) : after.IsBacked := by
  have still := passage.isAccountable present accountable
  cases passage with
  | quiet moves => exact moves.isBacked present accountable backed
  | woken starting moves =>
      exact moves.isBacked (present.wake setup) accountable (backed.wake setup)
  | turnedAway message failure free moves =>
      exact moves.isBacked (present.turnAway message.answerId failure)
        (accountable.turnAway failure free) (backed.turnAway failure free)
  | @takenIn middle _ message first kept free moves =>
      have middleAccountable := first.isAccountable present accountable
      have middleBacked := first.isBacked present accountable backed
      exact moves.isBacked ((first.isPresent present).takeIn setup message.entry)
        (middleAccountable.takeIn setup message.entry free)
        (middleBacked.takeIn setup message.entry free)
  | @responded call response found =>
      have settles := before.settles_respond response.id
        (Gateway.responseText setup call.plan response.message response.raw)
      refine backed.extend settles.ledger (fun id flying => ⟨?_, by simp⟩)
        (fun other listed => ((settles.pending other).mp listed).1)
        fun waiting listed => ⟨waiting, listed, rfl⟩
      exact still.unanswered settles.ledger (by simp) flying
  | recalled response missing timedOut => exact ⟨backed.pending, backed.queue⟩
  | unmatched response missing unknown =>
      have ledger : (before.enter (.told response.raw)).ledger =
          before.ledger ++ [.told response.raw] := rfl
      exact backed.extend ledger (fun id flying => ⟨by simp [Deed.isAnswerTo], by simp⟩)
        (List.Subset.refl _) fun waiting listed => ⟨waiting, listed, rfl⟩

namespace Gateway

theorem isBacked_after (setup : Setup) (outside : Outside) (steps : List Step) :
    (after setup outside steps).traffic.IsBacked := by
  let Holds (traffic : Traffic) : Prop :=
    traffic.IsPresent ∧ traffic.IsAccountable ∧ traffic.IsBacked
  have start : Holds (initial setup outside).traffic := by
    rw [traffic_initial]
    exact ⟨.of_empty rfl rfl, .nothing, ⟨by simp, by simp⟩⟩
  have keeps (before : Traffic) (arrival : Option Arrival) (after : Traffic)
      (_ : before.IsSettled) (passage : Passage setup before arrival after)
      (holds : Holds before) : Holds after :=
    ⟨passage.isPresent holds.1, passage.isAccountable holds.1 holds.2.1,
      passage.isBacked holds.1 holds.2.1 holds.2.2⟩
  exact (traffic_induction keeps (settled_initial setup outside) start steps).1.2.2

/-- When the process of a pending call goes away, the call is answered in the same step. -/
theorem answered_of_gone (setup : Setup) (outside : Outside) (steps : List Step) (step : Step)
    {call : PendingCall} (listed : call ∈ (after setup outside steps).pending)
    (gone : ((after setup outside steps).step setup step).isCurrent call.generation = false)
    {deeds : List Deed} (ledger : ((after setup outside steps).step setup step).ledger =
      (after setup outside steps).ledger ++ deeds) :
    ∃ answer, .answered call.id answer ∈ deeds := by
  by_contra none
  have unanswered (deed : Deed) (done : deed ∈ deeds) : deed.isAnswerTo call.id = false := by
    cases deed with
    | answered other answer =>
        have apart : other ≠ call.id := by
          rintro rfl
          exact none ⟨answer, done⟩
        simp [Deed.isAnswerTo, apart]
    | _ => rfl
  -- Without an answer the call is still open after the step, so its process is the present one.
  obtain ⟨place, entry, isCall, isOpen, -⟩ :=
    ((isBacked_after setup outside steps).pending call listed).isOpen
  have later := after_concat setup outside steps step
  have stillCall : IsCall (after setup outside (steps ++ [step])).ledger place call.generation entry
      call.id := by
    rw [later, ledger]
    exact isCall.append deeds
  have stillOpen : IsOpen (after setup outside (steps ++ [step])).ledger place call.id := by
    rw [later, ledger]
    exact (IsOpen.append_iff isCall.place_lt).mpr ⟨isOpen, unanswered⟩
  have current := isCurrent_of_isOpen (isAccountable_after setup outside (steps ++ [step])).1
    (isTracked_after setup outside (steps ++ [step])) stillCall stillOpen
  rw [later, gone] at current
  simp at current

/-- Every pending call and every call that has timed out belongs to the present process, and
without a process there are none.  Of a pending call, the last request with its identifier that
was taken in was written to that process.  When a step does away with the process, all its
pending calls are answered in that step. -/
theorem calls_belong_to_the_present_process (setup : Setup) (outside : Outside)
    (steps : List Step) :
    let gateway := after setup outside steps
    (∀ call ∈ gateway.pending, gateway.isCurrent call.generation = true ∧
        WasPassedOn gateway.ledger call) ∧
      gateway.outside.written = outside.written ++ gateway.ledger.filterMap Deed.write? ∧
      (∀ call ∈ gateway.expired, gateway.isCurrent call.generation = true) ∧
      (gateway.hasProcess = false → gateway.pending = [] ∧ gateway.expired = []) ∧
      ∀ step, ∃ deeds, (gateway.step setup step).ledger = gateway.ledger ++ deeds ∧
        ((gateway.step setup step).isCurrent gateway.generation = false →
          ∀ call ∈ gateway.pending, ∃ answer, .answered call.id answer ∈ deeds) := by
  intro gateway
  have present : gateway.traffic.IsPresent := (isAccountable_after setup outside steps).1
  have backed : gateway.traffic.IsBacked := isBacked_after setup outside steps
  have settled : gateway.traffic.IsSettled := settled_after setup outside steps
  refine ⟨fun call listed => ?_, ?_, fun call listed => ?_, fun idle => ?_, fun step => ?_⟩
  · exact ⟨isCurrent_of_pending present listed, backed.pending call listed⟩
  · obtain ⟨deeds, grows, -⟩ := run_grows setup (settled_initial setup outside) steps
    have ledger := grows.ledger
    have written := grows.written
    rw [traffic_initial] at ledger written
    rw [show gateway.ledger = deeds from ledger]
    exact written
  · exact isCurrent_of_expired present listed
  · exact present.idle (Host.hasProcess_eq_false_iff.mp idle)
  · obtain ⟨deeds, grows, -⟩ := (passage_step setup gateway step settled).1.grows
    refine ⟨deeds, grows.ledger, fun gone call listed => ?_⟩
    have own : call.generation = gateway.generation := present.pending call listed
    rw [← own] at gone
    exact answered_of_gone setup outside steps step listed gone grows.ledger

end Gateway

end BrowserRelay
