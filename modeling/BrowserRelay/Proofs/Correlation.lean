import BrowserRelay.Proofs.Replies
import BrowserRelay.Proofs.Responses
import Mathlib.Data.List.Induction
import Mathlib.Data.List.Nodup

/-!
# Responses and the calls they belong to

An honest process responds to calls that were written to it, to none of them twice, and to calls
with the same identifier in the order in which they were written.  The relay passes each of its
responses on as the answer to the very call it belongs to, and drops those to calls that were
answered already, unless a request has taken over the identifier of a call that timed out.
-/

namespace BrowserRelay

namespace Gateway

variable {setup : Setup} {gateway : Gateway} {given : List Nat} {step : Step}

/-! ## Honest processes -/

/-- The response to a request that a step is, and the process that gives it, if it is one. -/
def stepResponse? (setup : Setup) : Step → Option (Nat × Response)
  | .event (.serviceOutput generation line) =>
      (response? setup line).map fun response => (generation, response)
  | _ => none

/-- A step is that of an honest process, after the processes have responded to the calls at some
places. -/
inductive IsHonest (setup : Setup) (gateway : Gateway) (given : List Nat) (step : Step) :
    Option Nat → Prop
  /-- The step is no response. -/
  | silent (nothing : stepResponse? setup step = none) : IsHonest setup gateway given step none
  /-- The step is the response to the call at a place, and the process has responded only to
  earlier ones with the same identifier. -/
  | responds {generation place : Nat} {response : Response} {entry : QueuedRequest}
      (isResponse : stepResponse? setup step = some (generation, response))
      (call : IsCall gateway.ledger place generation entry response.id)
      (ordered : ∀ earlier ∈ given, ∀ other,
        IsCall gateway.ledger earlier generation other response.id → earlier < place) :
      IsHonest setup gateway given step (some place)

/-- Steps with honest processes; each response comes with the place of the call it is for. -/
structure HonestRun (setup : Setup) (outside : Outside) where
  steps : List (Step × Option Nat)
  honest : ∀ first step place rest, steps = first ++ (step, place) :: rest →
    IsHonest setup (after setup outside (first.map Prod.fst)) (first.filterMap Prod.snd) step place

/-- Something holds of every step of a run, in the state in which it is made. -/
def HonestRun.Always {outside : Outside} (run : HonestRun setup outside)
    (Holds : Gateway → Step → Option Nat → Prop) : Prop :=
  ∀ first step place rest, run.steps = first ++ (step, place) :: rest →
    Holds (after setup outside (first.map Prod.fst)) step place

/-- What holds at every step and one more. -/
theorem forall_splits_concat_iff (Holds : List (Step × Option Nat) → Step → Option Nat → Prop)
    {steps : List (Step × Option Nat)} {last : Step} {lastPlace : Option Nat} :
    (∀ first step place rest,
        steps ++ [(last, lastPlace)] = first ++ (step, place) :: rest → Holds first step place) ↔
      (∀ first step place rest, steps = first ++ (step, place) :: rest → Holds first step place) ∧
        Holds steps last lastPlace := by
  constructor
  · intro always
    refine ⟨fun first step place rest split => ?_, always steps last lastPlace [] rfl⟩
    refine always first step place (rest ++ [(last, lastPlace)]) ?_
    rw [split, List.append_assoc, List.cons_append]
  · rintro ⟨always, atLast⟩ first step place rest split
    rcases rest.eq_nil_or_concat with rfl | ⟨front, final, rfl⟩
    · obtain ⟨rfl, same⟩ := List.append_inj' split rfl
      obtain ⟨rfl, rfl⟩ := Prod.mk.inj (List.singleton_inj.mp same)
      exact atLast
    · rw [List.concat_eq_append, ← List.cons_append, ← List.append_assoc] at split
      exact always first step place front (List.append_inj' split rfl).1

namespace HonestRun

variable {outside : Outside}

/-- The run in which nothing has happened yet. -/
def nothing (setup : Setup) (outside : Outside) : HonestRun setup outside where
  steps := []
  honest first step place rest split := by simp at split

/-- The gateway after a run. -/
def last (run : HonestRun setup outside) : Gateway :=
  after setup outside (run.steps.map Prod.fst)

theorem last_eq (run : HonestRun setup outside) {steps : List (Step × Option Nat)}
    (same : run.steps = steps) : run.last = after setup outside (steps.map Prod.fst) := by
  rw [last, same]

/-- A run and one more step. -/
def concat (run : HonestRun setup outside) (step : Step) (place : Option Nat)
    (honest : IsHonest setup run.last (run.steps.filterMap Prod.snd) step place) :
    HonestRun setup outside where
  steps := run.steps ++ [(step, place)]
  honest := (forall_splits_concat_iff fun first => IsHonest setup
    (after setup outside (first.map Prod.fst)) (first.filterMap Prod.snd)).mpr ⟨run.honest, honest⟩

variable {Holds : Gateway → Step → Option Nat → Prop}

@[simp]
theorem always_nothing : (nothing setup outside).Always Holds := by
  intro first step place rest split
  simp [nothing] at split

@[simp]
theorem always_concat_iff (run : HonestRun setup outside) {step : Step} {place : Option Nat}
    (honest : IsHonest setup run.last (run.steps.filterMap Prod.snd) step place) :
    (run.concat step place honest).Always Holds ↔
      run.Always Holds ∧ Holds run.last step place :=
  forall_splits_concat_iff fun first => Holds (after setup outside (first.map Prod.fst))

end HonestRun

/-! ## What becomes of responses -/

/-- A step passes on what it should. -/
inductive IsCorrelated (setup : Setup) (gateway : Gateway) (step : Step) : Option Nat → Prop
  /-- The step is no response, and no request is answered with one. -/
  | silent {deeds : List Deed}
      (grows : (gateway.step setup step).ledger = gateway.ledger ++ deeds)
      (nothing : deeds.filterMap Deed.relayed? = []) : IsCorrelated setup gateway step none
  /-- The response to an open call is the answer to it, put as the plan of the call says, and the
  client is sent that. -/
  | answered {generation place : Nat} {response : Response} {entry : QueuedRequest}
      (isResponse : stepResponse? setup step = some (generation, response))
      (call : IsCall gateway.ledger place generation entry response.id)
      (isOpen : IsOpen gateway.ledger place response.id)
      (grows : (gateway.step setup step).ledger = gateway.ledger ++
        [.answered response.id
          (.response (responseText setup entry.plan response.message response.raw))])
      (sent : (gateway.step setup step).outside.replies =
        (gateway.outside.reply
          (responseText setup entry.plan response.message response.raw)).replies) :
      IsCorrelated setup gateway step (some place)
  /-- The response to a call that was answered already is dropped, and the client is sent
  nothing. -/
  | dropped {generation place : Nat} {response : Response} {entry : QueuedRequest}
      (isResponse : stepResponse? setup step = some (generation, response))
      (call : IsCall gateway.ledger place generation entry response.id)
      (closed : ¬IsOpen gateway.ledger place response.id)
      (grows : (gateway.step setup step).ledger = gateway.ledger)
      (sent : (gateway.step setup step).outside.replies = gateway.outside.replies) :
      IsCorrelated setup gateway step (some place)

/-- The present process responds to a call that was answered already, but the relay takes the
response for something else. -/
inductive IsMixedUp (setup : Setup) (gateway : Gateway) (step : Step) : Option Nat → Prop
  /-- A later call with its identifier is pending: the response becomes the answer to that. -/
  | relayed {generation place : Nat} {response : Response}
      (isResponse : stepResponse? setup step = some (generation, response))
      (current : gateway.isCurrent generation = true)
      (closed : ¬IsOpen gateway.ledger place response.id)
      (again : gateway.isPending response.id = true) : IsMixedUp setup gateway step (some place)
  /-- It is not noted any more that the call timed out: the client is told the response. -/
  | told {generation place : Nat} {response : Response}
      (isResponse : stepResponse? setup step = some (generation, response))
      (current : gateway.isCurrent generation = true)
      (closed : ¬IsOpen gateway.ledger place response.id)
      (unknown : ¬gateway.traffic.IsNoted response.id) : IsMixedUp setup gateway step (some place)

/-- A request is accepted with the identifier of a call that has timed out and may still be
responded to. -/
def ReusesId (setup : Setup) (gateway : Gateway) (step : Step) : Prop :=
  ∃ message id, gateway.accepted? setup step = some message ∧ message.answerId = some id ∧
    id ∈ gateway.expired.map ExpiredCall.id

/-! ## Steps -/

theorem arrival?_of_silent (gateway : Gateway) (silent : stepResponse? setup step = none) :
    (gateway.arrival? setup step).bind Arrival.response? = none := by
  cases step with
  | start => rfl
  | elapse timer => rfl
  | meanwhile outside => rfl
  | event event =>
      cases event with
      | clientLine line =>
          rw [arrival?]
          cases gateway.accepted? setup (.event (.clientLine line)) <;> rfl
      | serviceOutput generation line =>
          rw [stepResponse?, Option.map_eq_none_iff] at silent
          rw [arrival?, presentResponse?, silent]
          split <;> rfl
      | _ => rfl

/-- A response of the present process arrives; those of earlier ones change nothing. -/
theorem arrival?_of_response {generation : Nat} {response : Response}
    (isResponse : stepResponse? setup step = some (generation, response)) :
    (gateway.isCurrent generation = true →
        gateway.arrival? setup step = some (.response response)) ∧
      (gateway.isCurrent generation = false →
        (gateway.step setup step).traffic = gateway.traffic) := by
  cases step with
  | start => simp [stepResponse?] at isResponse
  | elapse timer => simp [stepResponse?] at isResponse
  | meanwhile outside => simp [stepResponse?] at isResponse
  | event event =>
      cases event with
      | serviceOutput other line =>
          rw [stepResponse?, Option.map_eq_some_iff] at isResponse
          obtain ⟨found, isFound, same⟩ := isResponse
          obtain ⟨rfl, rfl⟩ := Prod.mk.inj same
          constructor
          · intro current
            simp only [arrival?, presentResponse?, current, if_true, isFound, Option.map_some]
          · intro stale
            simp only [Gateway.step, handleEvent, onServiceOutput, stale, Bool.false_eq_true,
              if_false, traffic_note]
      | _ => simp [stepResponse?] at isResponse

theorem isCurrent_of_isOpen {place generation : Nat} {entry : QueuedRequest} {id : RequestId}
    (present : gateway.traffic.IsPresent) (tracked : gateway.traffic.IsTracked)
    (call : IsCall gateway.ledger place generation entry id)
    (isOpen : IsOpen gateway.ledger place id) : gateway.isCurrent generation = true :=
  isCurrent_of_pending present (tracked place generation entry id call isOpen)

section Response

variable {place generation : Nat} {response : Response} {entry : QueuedRequest}

theorem isMixedUp_iff (isResponse : stepResponse? setup step = some (generation, response)) :
    IsMixedUp setup gateway step (some place) ↔
      gateway.isCurrent generation = true ∧ ¬IsOpen gateway.ledger place response.id ∧
        (gateway.isPending response.id = true ∨ ¬gateway.traffic.IsNoted response.id) := by
  constructor
  · rintro (⟨isSame, current, closed, again⟩ | ⟨isSame, current, closed, unknown⟩)
    · obtain ⟨rfl, rfl⟩ := Prod.mk.inj (Option.some.inj (isResponse.symm.trans isSame))
      exact ⟨current, closed, .inl again⟩
    · obtain ⟨rfl, rfl⟩ := Prod.mk.inj (Option.some.inj (isResponse.symm.trans isSame))
      exact ⟨current, closed, .inr unknown⟩
  · rintro ⟨current, closed, again | unknown⟩
    · exact .relayed isResponse current closed again
    · exact .told isResponse current closed unknown

theorem isCorrelated_some_iff
    (isResponse : stepResponse? setup step = some (generation, response))
    (call : IsCall gateway.ledger place generation entry response.id) :
    IsCorrelated setup gateway step (some place) ↔
      IsOpen gateway.ledger place response.id ∧
          (gateway.step setup step).ledger = gateway.ledger ++
            [.answered response.id
              (.response (responseText setup entry.plan response.message response.raw))] ∨
        ¬IsOpen gateway.ledger place response.id ∧
          (gateway.step setup step).ledger = gateway.ledger := by
  constructor
  · rintro (_ | ⟨isSame, other, isOpen, grows, -⟩ | ⟨isSame, other, closed, grows, -⟩)
    · obtain ⟨rfl, rfl⟩ := Prod.mk.inj (Option.some.inj (isResponse.symm.trans isSame))
      obtain ⟨-, rfl, -⟩ := call.unique other
      exact .inl ⟨isOpen, grows⟩
    · obtain ⟨rfl, rfl⟩ := Prod.mk.inj (Option.some.inj (isResponse.symm.trans isSame))
      exact .inr ⟨closed, grows⟩
  · rintro (⟨isOpen, grows⟩ | ⟨closed, grows⟩)
    · exact .answered isResponse call isOpen grows (replies_step grows)
    · have nothing : (gateway.step setup step).ledger = gateway.ledger ++ [] := by
        rw [grows, List.append_nil]
      exact .dropped isResponse call closed grows (replies_step nothing)

/-- The response of an earlier process is to a call that was answered already, and is
dropped. -/
theorem isCorrelated_of_stale (present : gateway.traffic.IsPresent)
    (tracked : gateway.traffic.IsTracked)
    (isResponse : stepResponse? setup step = some (generation, response))
    (call : IsCall gateway.ledger place generation entry response.id)
    (stale : gateway.isCurrent generation = false) :
    IsCorrelated setup gateway step (some place) := by
  have same := (arrival?_of_response isResponse).2 stale
  refine (isCorrelated_some_iff isResponse call).mpr (.inr ⟨fun isOpen => ?_, ?_⟩)
  · have current := isCurrent_of_isOpen present tracked call isOpen
    exact absurd (stale.symm.trans current) (by simp)
  · exact congrArg Traffic.ledger same

theorem isCorrelated_iff_of_current (settled : gateway.traffic.IsSettled)
    (accountable : gateway.traffic.IsAccountable) (tracked : gateway.traffic.IsTracked)
    (isResponse : stepResponse? setup step = some (generation, response))
    (call : IsCall gateway.ledger place generation entry response.id)
    (current : gateway.isCurrent generation = true) :
    IsCorrelated setup gateway step (some place) ↔ ¬IsMixedUp setup gateway step (some place) := by
  have passage := (passage_step setup gateway step settled).1
  rw [(arrival?_of_response isResponse).1 current] at passage
  rw [isCorrelated_some_iff isResponse call, isMixedUp_iff isResponse]
  have listed := tracked place generation entry response.id call
  rcases passage.response_cases with
    ⟨pending, found, same⟩ | ⟨missing, ⟨noted, same⟩ | ⟨unknown, same⟩⟩
  · have grows : (gateway.step setup step).ledger = gateway.ledger ++ _ :=
      congrArg Traffic.ledger same
    have isPending : gateway.isPending response.id = true := by
      rw [Exchange.isPending, Option.isSome_iff_exists]
      exact ⟨pending, found⟩
    -- The response goes to the pending call, which is that at the place only if that is open.
    by_cases isOpen : IsOpen gateway.ledger place response.id
    · obtain ⟨isListed, sameId⟩ := CallTable.mem_of_find? found
      have once := (List.nodup_append.mp accountable.nodup).1
      obtain rfl := List.inj_on_of_nodup_map once (listed isOpen) isListed sameId.symm
      simp [isOpen, grows]
    · simp [isOpen, grows, current, isPending]
  · have grows : (gateway.step setup step).ledger = gateway.ledger := congrArg Traffic.ledger same
    have unsent := CallTable.find?_eq_none_iff.mp missing
    have closed : ¬IsOpen gateway.ledger place response.id := fun isOpen =>
      unsent (List.mem_map_of_mem (listed isOpen))
    have isNoted : gateway.traffic.IsNoted response.id := .inr noted
    have notPending : gateway.isPending response.id = false := by
      rw [← Bool.not_eq_true, isPending_iff]
      exact unsent
    simp [closed, grows, isNoted, notPending]
  · have grows : (gateway.step setup step).ledger = gateway.ledger ++ _ :=
      congrArg Traffic.ledger same
    have unsent := CallTable.find?_eq_none_iff.mp missing
    have closed : ¬IsOpen gateway.ledger place response.id := fun isOpen =>
      unsent (List.mem_map_of_mem (listed isOpen))
    have unnoted : ¬gateway.traffic.IsNoted response.id := fun noted =>
      noted.elim unsent unknown
    simp [closed, grows, current, unnoted]

end Response

/-- In a step of an honest process, what is passed on is what should be, unless it is mixed
up. -/
theorem isCorrelated_iff {place : Option Nat} (settled : gateway.traffic.IsSettled)
    (present : gateway.traffic.IsPresent) (accountable : gateway.traffic.IsAccountable)
    (tracked : gateway.traffic.IsTracked) (honest : IsHonest setup gateway given step place) :
    IsCorrelated setup gateway step place ↔ ¬IsMixedUp setup gateway step place := by
  cases honest with
  | silent nothing =>
      obtain ⟨deeds, grows, -, -, relaysNothing⟩ :=
        (passage_step setup gateway step settled).1.grows
      refine iff_of_true (.silent grows.ledger ?_) (by rintro ⟨⟩)
      exact relaysNothing (arrival?_of_silent gateway nothing)
  | responds isResponse call ordered =>
      rename_i generation place response entry
      cases current : gateway.isCurrent generation with
      | false =>
          refine iff_of_true (isCorrelated_of_stale present tracked isResponse call current) ?_
          simp [isMixedUp_iff isResponse, current]
      | true =>
          exact isCorrelated_iff_of_current settled accountable tracked isResponse call current

/-! ## Runs -/

theorem isTracked_after (setup : Setup) (outside : Outside) (steps : List Step) :
    (after setup outside steps).traffic.IsTracked := by
  let Holds (traffic : Traffic) : Prop :=
    traffic.IsPresent ∧ traffic.IsAccountable ∧ traffic.IsTracked
  have start : Holds (initial setup outside).traffic := by
    rw [traffic_initial]
    refine ⟨.of_empty rfl rfl, .nothing, fun place generation entry id call => ?_⟩
    exact absurd call.place_lt (Nat.not_lt_zero place)
  have keeps (before : Traffic) (arrival : Option Arrival) (after : Traffic)
      (_ : before.IsSettled) (passage : Passage setup before arrival after)
      (holds : Holds before) : Holds after :=
    ⟨passage.isPresent holds.1, passage.isAccountable holds.1 holds.2.1,
      passage.isTracked holds.1 holds.2.1 holds.2.2⟩
  exact (traffic_induction keeps (settled_initial setup outside) start steps).1.2.2

theorem isOrderly_initial (setup : Setup) (outside : Outside) :
    (initial setup outside).traffic.IsOrderly [] := by
  rw [traffic_initial]
  refine ⟨.of_empty rfl rfl, .nothing, ?_, .of_empty rfl, ?_⟩
  · exact fun place generation entry id call => absurd call.place_lt (Nat.not_lt_zero place)
  · constructor
    case past =>
      exact fun place generation entry id call => absurd call.place_lt (Nat.not_lt_zero place)
    case known => simp
    case noted => exact fun place id may => absurd rfl may.running
    case single => exact fun place other id may _ => absurd rfl may.running
    case awaited => simp

/-- A step of an honest process keeps calls apart, unless a request takes over the identifier of
one that has timed out. -/
theorem isOrderly_step {place : Option Nat} (settled : gateway.traffic.IsSettled)
    (orderly : gateway.traffic.IsOrderly given)
    (honest : IsHonest setup gateway given step place) (fresh : ¬ReusesId setup gateway step) :
    (gateway.step setup step).traffic.IsOrderly (given ++ place.toList) := by
  have passage := (passage_step setup gateway step settled).1
  cases honest with
  | silent nothing =>
      rw [Option.toList_none, List.append_nil]
      refine passage.isOrderly (arrival?_of_silent gateway nothing) (fun id accepted => ?_) orderly
      rw [acceptedId?_arrival] at accepted
      obtain ⟨message, isAccepted, request⟩ := Option.bind_eq_some_iff.mp accepted
      exact fun expired => fresh ⟨message, id, isAccepted, request, expired⟩
  | @responds generation place response entry isResponse call ordered =>
      rw [Option.toList_some]
      cases current : gateway.isCurrent generation with
      | false =>
          rw [(arrival?_of_response isResponse).2 current]
          have stale : gateway.state = .noProcess ∨ generation ≠ gateway.generation := by
            have other := mt Host.isCurrent_iff.mpr (Bool.not_eq_true _ ▸ current)
            tauto
          exact { orderly with unambiguous := orderly.unambiguous.ignore call stale }
      | true =>
          obtain ⟨running, rfl⟩ := Host.isCurrent_iff.mp current
          rw [(arrival?_of_response isResponse).1 current] at passage
          exact passage.isOrderly_response ⟨running, ⟨entry, call⟩, ordered⟩ orderly

/-- Nothing is mixed up as long as the calls are kept apart. -/
theorem not_isMixedUp {place : Option Nat} (orderly : gateway.traffic.IsOrderly given)
    (honest : IsHonest setup gateway given step place) :
    ¬IsMixedUp setup gateway step place := by
  cases honest with
  | silent nothing => rintro ⟨⟩
  | @responds generation place response entry isResponse call ordered =>
      rw [isMixedUp_iff isResponse]
      rintro ⟨current, closed, again | unknown⟩
      all_goals
        obtain ⟨running, rfl⟩ := Host.isCurrent_iff.mp current
        have may : gateway.traffic.MayRespond given place response.id :=
          ⟨running, ⟨entry, call⟩, ordered⟩
      · -- The pending call has an open place, and there is no second one to respond to.
        obtain ⟨pending, listed, same⟩ := List.mem_map.mp (isPending_iff.mp again)
        obtain ⟨other, mayOther, isOpen⟩ := orderly.unambiguous.awaited pending listed
        rw [same] at mayOther isOpen
        rw [orderly.unambiguous.single place other response.id may mayOther] at closed
        exact closed isOpen
      · exact unknown (orderly.unambiguous.noted place response.id may)

theorem isOrderly_after {outside : Outside} (run : HonestRun setup outside)
    (fresh : run.Always fun gateway step _ => ¬ReusesId setup gateway step)
    (first rest : List (Step × Option Nat)) (split : run.steps = first ++ rest) :
    (after setup outside (first.map Prod.fst)).traffic.IsOrderly (first.filterMap Prod.snd) := by
  induction first using List.reverseRecOn generalizing rest with
  | nil => exact isOrderly_initial setup outside
  | append_singleton first last ih =>
      obtain ⟨step, place⟩ := last
      have here : run.steps = first ++ (step, place) :: rest := by
        rw [split, List.append_assoc, List.singleton_append]
      have next := isOrderly_step (settled_after setup outside _) (ih _ here)
        (run.honest first step place rest here) (fresh first step place rest here)
      have joined : after setup outside ((first ++ [(step, place)]).map Prod.fst) =
          (after setup outside (first.map Prod.fst)).step setup step := by
        rw [List.map_append]
        exact after_concat setup outside (first.map Prod.fst) step
      have told : (first ++ [(step, place)]).filterMap Prod.snd =
          first.filterMap Prod.snd ++ place.toList := by
        rw [List.filterMap_append]
        cases place <;> rfl
      rw [joined, told]
      exact next

/-- In a run with honest processes, each response is passed on as the answer to the very call it
is for, and dropped if that was answered already, just if it is never mixed up: no response to
such a call arrives while a later call with its identifier is pending, or after it was forgotten
that a call with it has timed out.  That is so if no request takes over the identifier of a call
that has timed out and may still be responded to. -/
theorem responses_are_correlated_iff_never_mixed_up (setup : Setup) (outside : Outside)
    (run : HonestRun setup outside) :
    (run.Always (IsCorrelated setup) ↔
        run.Always fun gateway step place => ¬IsMixedUp setup gateway step place) ∧
      ((run.Always fun gateway step _ => ¬ReusesId setup gateway step) →
        run.Always (IsCorrelated setup)) := by
  have step_iff (first : List (Step × Option Nat)) (step : Step) (place : Option Nat)
      (rest : List (Step × Option Nat)) (split : run.steps = first ++ (step, place) :: rest) :
      let gateway := after setup outside (first.map Prod.fst)
      IsCorrelated setup gateway step place ↔ ¬IsMixedUp setup gateway step place := by
    obtain ⟨present, accountable⟩ := isAccountable_after setup outside (first.map Prod.fst)
    exact isCorrelated_iff (settled_after setup outside _) present accountable
      (isTracked_after setup outside _) (run.honest first step place rest split)
  refine ⟨⟨fun always first step place rest split => ?_,
    fun always first step place rest split => ?_⟩, fun fresh first step place rest split => ?_⟩
  · exact (step_iff first step place rest split).mp (always first step place rest split)
  · exact (step_iff first step place rest split).mpr (always first step place rest split)
  · exact (step_iff first step place rest split).mpr
      (not_isMixedUp (isOrderly_after run fresh first _ split)
        (run.honest first step place rest split))

/-- What a step responds to, if it is a response. -/
def respondedTo? (setup : Setup) (step : Step) : Option (Nat × RequestId) :=
  (stepResponse? setup step).map fun (generation, response) => (generation, response.id)

theorem exists_response {generation : Nat} {id : RequestId}
    (responds : respondedTo? setup step = some (generation, id)) :
    ∃ response, stepResponse? setup step = some (generation, response) ∧ response.id = id := by
  obtain ⟨⟨_, response⟩, isResponse, same⟩ := Option.map_eq_some_iff.mp responds
  obtain ⟨rfl, sameId⟩ := Prod.mk.inj same
  exact ⟨response, isResponse, sameId⟩

section

variable {generation place : Nat} {id : RequestId}

theorem IsHonest.of_call {entry : QueuedRequest}
    (responds : respondedTo? setup step = some (generation, id))
    (written : gateway.ledger[place]? = some (.written generation entry))
    (request : entry.id = some id) (ordered : ∀ earlier ∈ given, earlier < place) :
    IsHonest setup gateway given step (some place) := by
  obtain ⟨response, isResponse, rfl⟩ := exists_response responds
  exact .responds isResponse ⟨written, request⟩ fun earlier listed _ _ => ordered earlier listed

theorem IsMixedUp.of_pending (responds : respondedTo? setup step = some (generation, id))
    (current : gateway.isCurrent generation = true) (again : gateway.isPending id = true)
    (closed : ¬IsOpen gateway.ledger place id) : IsMixedUp setup gateway step (some place) := by
  obtain ⟨response, isResponse, rfl⟩ := exists_response responds
  exact .relayed isResponse current closed again

end

theorem stepResponse?_eq_none (silent : respondedTo? setup step = none) :
    stepResponse? setup step = none :=
  Option.map_eq_none_iff.mp silent

theorem not_reusesId_of_not_accepted (silent : gateway.accepted? setup step = none) :
    ¬ReusesId setup gateway step := by
  rintro ⟨message, id, isAccepted, -⟩
  exact absurd (silent.symm.trans isAccepted) (by simp)

theorem not_reusesId_of_none_expired (nothing : gateway.expired = []) :
    ¬ReusesId setup gateway step := by
  rintro ⟨message, id, -, -, listed⟩
  rw [nothing] at listed
  cases listed

/-- The second request takes over the identifier of the first, which has timed out: the late
response to the first is passed on as the answer to the second, whose own response is dropped.
Without the second request the late response is dropped. -/
theorem late_response_answers_later_request :
    let setup : Setup := { launch := ⟨"npx", [], none⟩ }
    let line := "\x7b\"id\":\"1\",\"method\":\"page/content\"\x7d"
    let request : Step := .event (.clientLine line)
    let response (result : String) : Step :=
      .event (.serviceOutput 1 ("\x7b\"id\":\"1\",\"result\":" ++ result ++ "\x7d"))
    let timedOut : List (Step × Option Nat) :=
      [(.start, none), (.event (.serviceOutput 1 "\x7b\"id\":\"health_check_1\"\x7d"), none),
        (request, none), (.elapse (.callDeadline (.text "1")), none)]
    let late := timedOut ++ [(response "1", some 2)]
    let reused := timedOut ++ [(request, none), (response "1", some 2), (response "2", some 6)]
    let failure := Answer.failed (.timeout 120000)
    (∃ run : HonestRun setup {}, run.steps = late ∧ run.Always (IsCorrelated setup) ∧
        run.last.outside.replies = [failure.line (.text "1")]) ∧
      ∃ run : HonestRun setup {}, run.steps = reused ∧ ¬run.Always (IsCorrelated setup) ∧
        run.last.outside.replies =
          [failure.line (.text "1"), "\x7b\"id\":\"1\",\"result\":1\x7d"] := by
  intro setup line request response timedOut late reused failure
  let entry : QueuedRequest := ⟨some (.text "1"), line, .relay, 0⟩
  have first : respondedTo? setup (response "1") = some (1, .text "1") := by decide +kernel
  have second : respondedTo? setup (response "2") = some (1, .text "1") := by decide +kernel
  let ready : HonestRun setup {} :=
    ((HonestRun.nothing setup {}).concat .start none (.silent rfl)).concat
      (.event (.serviceOutput 1 "\x7b\"id\":\"health_check_1\"\x7d")) none
        (.silent (stepResponse?_eq_none (by decide +kernel)))
  let overdue : HonestRun setup {} :=
    (ready.concat request none (.silent rfl)).concat
      (.elapse (.callDeadline (.text "1"))) none (.silent rfl)
  let again : HonestRun setup {} := overdue.concat request none (.silent rfl)
  constructor
  · have written : overdue.last.ledger[2]? = some (.written 1 entry) := by decide +kernel
    let run := overdue.concat (response "1") (some 2)
      (.of_call first written rfl fun _ listed => nomatch listed)
    have steps : run.steps = late := rfl
    have fresh : run.Always fun gateway step _ => ¬ReusesId setup gateway step := by
      have nothing : ready.last.expired = [] := by decide +kernel
      have freshSoFar : ready.Always fun gateway step _ => ¬ReusesId setup gateway step := by
        simp only [ready, HonestRun.always_concat_iff, HonestRun.always_nothing, true_and]
        exact ⟨not_reusesId_of_not_accepted rfl, not_reusesId_of_not_accepted rfl⟩
      simp only [run, overdue, HonestRun.always_concat_iff]
      exact ⟨⟨⟨freshSoFar, not_reusesId_of_none_expired nothing⟩,
        not_reusesId_of_not_accepted rfl⟩, not_reusesId_of_not_accepted rfl⟩
    refine ⟨run, steps, (responses_are_correlated_iff_never_mixed_up setup {} run).2 fresh, ?_⟩
    rw [run.last_eq steps]
    decide +kernel
  · have written : again.last.ledger[2]? = some (.written 1 entry) := by decide +kernel
    let answered := again.concat (response "1") (some 2)
      (.of_call first written rfl fun _ listed => nomatch listed)
    have given : answered.steps.filterMap Prod.snd = [2] := rfl
    have writtenAgain : answered.last.ledger[6]? = some (.written 1 entry) := by
      have steps : answered.steps = timedOut ++ [(request, none), (response "1", some 2)] := rfl
      rw [answered.last_eq steps]
      decide +kernel
    let run := answered.concat (response "2") (some 6)
      (.of_call second writtenAgain rfl (by simp [given]))
    have steps : run.steps = reused := rfl
    have isMixedUp : IsMixedUp setup again.last (response "1") (some 2) := by
      have closed : ¬IsOpen again.last.ledger 2 (.text "1") := by
        unfold IsOpen
        decide +kernel
      exact .of_pending first (by decide +kernel) (by decide +kernel) closed
    refine ⟨run, steps, ?_, ?_⟩
    · rw [(responses_are_correlated_iff_never_mixed_up setup {} run).1]
      intro never
      have before := ((answered.always_concat_iff _).mp never).1
      exact ((again.always_concat_iff _).mp before).2 isMixedUp
    · rw [run.last_eq steps]
      decide +kernel

end Gateway

end BrowserRelay
