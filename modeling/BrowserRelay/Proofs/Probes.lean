import BrowserRelay.Proofs.Chores
import BrowserRelay.Proofs.NumberText
import BrowserRelay.Proofs.Replaced
import BrowserRelay.Proofs.Replies
import BrowserRelay.Proofs.Tables
import Mathlib.Data.List.Nodup

/-!
# Probes and requests are told apart

Every probe has an identifier of its own, whatever the clock shows, and no request of the client
has the identifier of a probe.  So the response to a request is never taken for one to a probe,
and the response to a probe answers no request.
-/

namespace BrowserRelay

/-! ## Stamps -/

namespace Exchange

theorem isProbeId_probeId (setup : Setup) (stamp : Nat) :
    isProbeId setup (probeId setup stamp) = true := by
  simp [isProbeId, probeId, RequestId.asText?]

theorem probeId_injective (setup : Setup) : Function.Injective (probeId setup) := by
  intro first second same
  simp only [probeId, RequestId.text.injEq, String.append_right_inj] at same
  exact Json.toString_injective same

end Exchange

/-- The probes that were written, in their order. -/
def Upkeep.probedIds (upkeep : Upkeep) : List RequestId :=
  upkeep.ledger.filterMap Deed.probedId?

/-- At most one stamp is taken, and it is later than the latest before it.  The probe that carries
it may have been written. -/
inductive Stamps (setup : Setup) (stamp? : Option Nat) (before after : Upkeep) : Prop
  | none (latest : after.health.lastStamp = before.health.lastStamp)
      (probes : after.probedIds = before.probedIds) : Stamps setup stamp? before after
  | one (stamp : Nat) (due : stamp? = some stamp) (later : before.health.lastStamp < stamp)
      (latest : after.health.lastStamp = stamp)
      (probes : after.probedIds = before.probedIds ∨
        after.probedIds = before.probedIds ++ [Exchange.probeId setup stamp]) :
      Stamps setup stamp? before after

theorem Chore.stamps {setup : Setup} {duty : Duty} {before after : Upkeep}
    (chore : Chore setup duty before after) : Stamps setup duty.stamp? before after := by
  cases chore with
  | entered other =>
      refine .none rfl ?_
      simp [Upkeep.probedIds, Upkeep.enter, other]
  | stamped due later => exact .one _ due later rfl (.inl rfl)
  | probed line due later =>
      refine .one _ due later rfl (.inr ?_)
      simp [Upkeep.probedIds, Upkeep.enter, Upkeep.stamp, Deed.probedId?]
  | launched idle => exact .none rfl rfl
  | launchFailed idle => exact .none rfl rfl
  | woken starting => exact .none rfl rfl
  | demoted running => exact .none rfl rfl
  | released running => exact .none rfl rfl
  | killed running => exact .none rfl rfl
  | disarmed allowed => exact .none rfl rfl
  | restartArmed rule => exact .none rfl rfl
  | deadlineArmed rule own => exact .none rfl rfl
  | counted awaiting missed => exact .none rfl rfl

/-- A stamp is later than the latest before, so it is not taken twice. -/
theorem Chores.stamps {setup : Setup} {duty : Duty} {before after : Upkeep}
    (chores : Chores setup duty before after) : Stamps setup duty.stamp? before after := by
  induction chores with
  | refl => exact .none rfl rfl
  | tail _ chore ih =>
      cases ih with
      | none latest probes =>
          cases chore.stamps with
          | none latestLater probesLater =>
              exact .none (latestLater.trans latest) (probesLater.trans probes)
          | one stamp due later latestLater probesLater =>
              rw [probes] at probesLater
              exact .one stamp due (latest ▸ later) latestLater probesLater
      | one stamp due later latest probes =>
          cases chore.stamps with
          | none latestLater probesLater =>
              rw [← probesLater] at probes
              exact .one stamp due later (latestLater.trans latest) probes
          | one again dueAgain laterAgain =>
              obtain rfl : again = stamp := Option.some.inj (dueAgain.symm.trans due)
              omega

/-! ## Identifiers of requests -/

/-- The identifiers of the requests that are pending, have timed out or wait in the queue, and of
those that were written, are all fine. -/
structure Traffic.Admits (fine : RequestId → Prop) (traffic : Traffic) : Prop where
  pending : ∀ call ∈ traffic.pending, fine call.id
  expired : ∀ call ∈ traffic.expired, fine call.id
  queue : ∀ entry ∈ traffic.queue, ∀ id, entry.id = some id → fine id
  written : ∀ generation entry, .written generation entry ∈ traffic.ledger →
    ∀ id, entry.id = some id → fine id

namespace Traffic.Admits

variable {fine : RequestId → Prop} {before after traffic : Traffic}

/-- Calls may leave the tables, and anything but a message may be entered. -/
theorem leave (admits : before.Admits fine) (pending : after.pending ⊆ before.pending)
    (expired : after.expired ⊆ before.expired) (queue : after.queue ⊆ before.queue)
    {deeds : List Deed} (ledger : after.ledger = before.ledger ++ deeds)
    (unwritten : ∀ generation entry, .written generation entry ∉ deeds) : after.Admits fine where
  pending call listed := admits.pending call (pending listed)
  expired call listed := admits.expired call (expired listed)
  queue entry listed := admits.queue entry (queue listed)
  written generation entry done := by
    rw [ledger, List.mem_append] at done
    exact admits.written generation entry (done.resolve_right (unwritten generation entry))

theorem write (admits : traffic.Admits fine) {entry : QueuedRequest} {rest : List QueuedRequest}
    (waiting : traffic.queue = entry :: rest) :
    ({ traffic with queue := rest }.write entry).Admits fine := by
  have own : ∀ id, entry.id = some id → fine id :=
    admits.queue entry (waiting ▸ List.mem_cons_self)
  refine ⟨?_, admits.expired, ?_, ?_⟩
  · intro call listed
    cases request : entry.id with
    | none =>
        rw [Traffic.write, addPending, request] at listed
        exact admits.pending call listed
    | some id =>
        rw [Traffic.write, addPending, request] at listed
        rcases List.mem_append.mp listed with old | new
        · exact admits.pending call (CallTable.remove_subset _ _ old)
        · rw [List.mem_singleton.mp new]
          exact own id request
  · intro other listed
    exact admits.queue other (waiting ▸ List.mem_cons_of_mem entry listed)
  · intro generation other done
    rcases List.mem_append.mp done with old | new
    · exact admits.written generation other old
    · obtain ⟨-, rfl⟩ := Deed.written.inj (List.mem_singleton.mp new)
      exact own

theorem takeIn (setup : Setup) (admits : traffic.Admits fine) (entry : QueuedRequest)
    (own : ∀ id, entry.id = some id → fine id) : (traffic.takeIn setup entry).Admits fine := by
  refine ⟨admits.pending, admits.expired, ?_, ?_⟩
  · intro other listed
    rcases List.mem_append.mp listed with old | new
    · exact admits.queue other old
    · rw [List.mem_singleton.mp new]
      exact own
  · intro generation other done
    have listed : .written generation other ∈ traffic.ledger := by
      simpa [Traffic.takeIn, enter, armDeadline, accept] using done
    exact admits.written generation other listed

end Traffic.Admits

theorem Move.admits {setup : Setup} {fine : RequestId → Prop} {before after : Traffic}
    (move : Move setup before after) (admits : before.Admits fine) : after.Admits fine := by
  have same (calls : List PendingCall) : calls ⊆ calls := List.Subset.refl _
  have sameExpired (calls : List ExpiredCall) : calls ⊆ calls := List.Subset.refl _
  have sameQueue (queue : List QueuedRequest) : queue ⊆ queue := List.Subset.refl _
  have unchanged : before.ledger = before.ledger ++ [] := (List.append_nil _).symm
  cases move with
  | launched => exact admits.leave (same _) (sameExpired _) (sameQueue _) unchanged (by simp)
  | launchFailed => exact admits.leave (same _) (sameExpired _) (sameQueue _) unchanged (by simp)
  | probed => exact admits.leave (same _) (sameExpired _) (sameQueue _) rfl (by simp)
  | probeRefused => exact admits.leave (same _) (sameExpired _) (sameQueue _) unchanged (by simp)
  | demoted => exact admits.leave (same _) (sameExpired _) (sameQueue _) unchanged (by simp)
  | wrote ready waiting => exact admits.write waiting
  | @abandoned entry rest failure ready waiting tooOften =>
      refine admits.leave List.filter_sublist.subset List.filter_sublist.subset ?_
        ((List.append_assoc _ _ _).trans (List.append_assoc _ _ _)) (by simp)
      exact waiting ▸ List.subset_cons_self entry rest
  | @retried entry rest failure ready waiting again =>
      have behind : rest ⊆ before.queue := waiting ▸ List.subset_cons_self entry rest
      have lost : ((({ before with queue := rest }.refuse entry).release).failPresent
          failure).Admits fine :=
        admits.leave List.filter_sublist.subset List.filter_sublist.subset behind
          (List.append_assoc _ _ _) (by simp)
      refine ⟨lost.pending, lost.expired, ?_, lost.written⟩
      intro other listed
      rcases List.mem_cons.mp listed with rfl | later
      · exact admits.queue entry (waiting ▸ List.mem_cons_self)
      · exact lost.queue other later
  | ended =>
      exact admits.leave List.filter_sublist.subset List.filter_sublist.subset (sameQueue _) rfl
        (by simp)
  | queueFailed =>
      exact admits.leave (same _) (sameExpired _) (List.nil_subset _) rfl (by simp)
  | @expired id call failure found =>
      have listed := (CallTable.mem_of_find? found).1
      have left : (before.resolve call.id).Admits fine :=
        admits.leave (CallTable.remove_subset _ _) (sameExpired _) (sameQueue _) unchanged
          (by simp)
      have late : (before.expire call).Admits fine := by
        refine ⟨left.pending, ?_, left.queue, left.written⟩
        intro other kept
        rcases List.mem_append.mp kept with old | new
        · exact admits.expired other (List.filter_sublist.subset old)
        · rw [List.mem_singleton.mp new]
          exact admits.pending call listed
      exact late.leave (same _) (sameExpired _) (sameQueue _) rfl (by simp)
  | withdrawn =>
      exact admits.leave (same _) (sameExpired _) List.eraseP_subset rfl (by simp)
  | startedLate =>
      exact admits.leave (same _) (sameExpired _) List.eraseP_subset rfl (by simp)
  | told => exact admits.leave (same _) (sameExpired _) (sameQueue _) rfl (by simp)
  | elapsed => exact admits.leave (same _) (sameExpired _) (sameQueue _) unchanged (by simp)

theorem Moves.admits {setup : Setup} {fine : RequestId → Prop} {before after : Traffic}
    (moves : Moves setup before after) (admits : before.Admits fine) : after.Admits fine := by
  induction moves with
  | refl => exact admits
  | tail _ move ih => exact move.admits ih

theorem Passage.admits {setup : Setup} {fine : RequestId → Prop} {before after : Traffic}
    {arrival : Option Arrival} (passage : Passage setup before arrival after)
    (own : ∀ arrived id, arrival = some arrived → arrived.acceptedId? = some id → fine id)
    (admits : before.Admits fine) : after.Admits fine := by
  cases passage with
  | quiet moves => exact moves.admits admits
  | woken starting moves =>
      have woken : (before.wake setup).Admits fine :=
        ⟨admits.pending, admits.expired, admits.queue, admits.written⟩
      exact moves.admits woken
  | turnedAway message failure free moves =>
      refine moves.admits (admits.leave ?_ ?_ ?_ (List.append_assoc _ _ _) (by simp))
      all_goals exact List.Subset.refl _
  | takenIn message first kept free moves =>
      refine moves.admits ((first.admits admits).takeIn setup message.entry fun id request => ?_)
      exact own _ id rfl request
  | responded response found =>
      refine admits.leave (CallTable.remove_subset _ _) ?_ ?_ rfl (by simp)
      all_goals exact List.Subset.refl _
  | recalled response missing timedOut =>
      refine admits.leave ?_ List.filter_sublist.subset ?_ (List.append_nil _).symm (by simp)
      all_goals exact List.Subset.refl _
  | unmatched response missing unknown =>
      refine admits.leave ?_ ?_ ?_ rfl (by simp)
      all_goals exact List.Subset.refl _

namespace Gateway

variable {setup : Setup}

/-- A request that is accepted does not have the identifier of a probe. -/
theorem not_isProbeId_of_accepted {gateway : Gateway} {step : Step} {message : ClientMessage}
    {id : RequestId} (accepted : gateway.accepted? setup step = some message)
    (request : message.answerId = some id) : Exchange.isProbeId setup id = false := by
  have unrefused : gateway.idRefusal setup id = none := by
    unfold accepted? at accepted
    split at accepted
    case h_2 => simp at accepted
    case h_1 line =>
      split at accepted
      case isTrue => simp at accepted
      case isFalse =>
        split at accepted
        case h_1 => simp at accepted
        case h_2 parsed _ =>
          split at accepted
          case isTrue => simp at accepted
          case isFalse allowed =>
            split at accepted
            case isTrue => simp at accepted
            case isFalse =>
              obtain rfl := Option.some.inj accepted
              simpa [request] using allowed
  unfold idRefusal at unrefused
  split at unrefused
  case isTrue => simp at unrefused
  case isFalse apart => exact Bool.not_eq_true _ ▸ apart

/-- What is accepted in an arrival is the message that the step hands to the gateway. -/
theorem accepted_of_arrival {gateway : Gateway} {step : Step} {arrived : Arrival}
    {id : RequestId} (arrives : gateway.arrival? setup step = some arrived)
    (own : arrived.acceptedId? = some id) :
    ∃ message, gateway.accepted? setup step = some message ∧ message.answerId = some id := by
  unfold arrival? at arrives
  split at arrives
  case h_1 line =>
    obtain ⟨message, accepted, rfl⟩ := Option.map_eq_some_iff.mp arrives
    exact ⟨message, accepted, own⟩
  case h_2 generation line =>
    unfold presentResponse? at arrives
    split at arrives
    case isTrue =>
      obtain ⟨response, -, rfl⟩ := Option.map_eq_some_iff.mp arrives
      simp [Arrival.acceptedId?] at own
    case isFalse => simp at arrives
  case h_3 => simp at arrives

/-- No request that is known has the identifier of a probe. -/
def KeepsApart (setup : Setup) (gateway : Gateway) : Prop :=
  gateway.traffic.Admits fun id => Exchange.isProbeId setup id = false

theorem keepsApart_afterTurns (setup : Setup) (outside : Outside) (turns : List Turn) :
    (afterTurns setup outside turns).KeepsApart setup := by
  induction turns using List.reverseRecOn with
  | nil =>
      have empty := traffic_initial setup outside
      unfold KeepsApart afterTurns
      rw [List.foldl_nil, empty]
      exact ⟨by simp, by simp, by simp, by simp⟩
  | append_singleton turns turn ih =>
      rw [afterTurns_concat]
      cases turn with
      | step step =>
          have settled := settled_afterTurns setup outside turns
          refine (passage_step setup _ step settled).1.admits ?_ ih
          intro arrived id arrives own
          obtain ⟨message, accepted, request⟩ := accepted_of_arrival arrives own
          exact not_isProbeId_of_accepted accepted request
      | terminate => exact ⟨ih.pending, ih.expired, ih.queue, ih.written⟩

/-! ## The stamps of a run -/

theorem lastStamp_onProbeTimer (setup : Setup) {gateway : Gateway}
    (running : gateway.state ≠ .noProcess) :
    (gateway.onProbeTimer setup).health.lastStamp = gateway.nextStamp := by
  have taken := Exchange.lastStamp_probe setup running
  have unfailing := Exchange.probe_ne_startFailed setup running
  unfold onProbeTimer
  cases result : gateway.toExchange.probe setup with
  | mk outcome exchange =>
    rw [result] at taken unfailing
    cases outcome with
    | sent id demoted => exact taken
    | startRequested => exact taken
    | startFailed failure => exact absurd rfl (unfailing failure)
    | writeFailed => exact taken

/-- The process takes the next stamp in exactly the steps in which it is probed. -/
theorem lastStamp_step (setup : Setup) (gateway : Gateway) (step : Step) :
    (gateway.step setup step).health.lastStamp =
      (gateway.dueStamp? step).getD gateway.health.lastStamp := by
  cases due : gateway.dueStamp? step with
  | none =>
      cases (gateway.chores_step setup step).stamps with
      | none latest => exact latest
      | one stamp taken => exact absurd (due.symm.trans taken) (by simp)
  | some stamp =>
      have probed : (gateway.probes step && gateway.hasProcess) = true ∧
          gateway.nextStamp = stamp := by
        simpa [dueStamp?] using due
      obtain ⟨both, rfl⟩ := probed
      obtain ⟨probes, present⟩ := (Bool.and_eq_true _ _).mp both
      have running : gateway.state ≠ .noProcess := Host.hasProcess_iff.mp present
      have rings (timer : Timer) (fired : Gateway) (isProbe : timer.isProbe = true)
          (same : fired.nextStamp = gateway.nextStamp) (stays : fired.state ≠ .noProcess) :
          (fired.onTimer setup timer).health.lastStamp = gateway.nextStamp := by
        rw [← same]
        cases timer with
        | firstProbe => exact lastStamp_onProbeTimer setup stays
        | probeInterval => exact lastStamp_onProbeTimer setup stays
        | startupDeadline => simp [Timer.isProbe] at isProbe
        | restart => simp [Timer.isProbe] at isProbe
        | callDeadline id => simp [Timer.isProbe] at isProbe
        | shutdownGrace => simp [Timer.isProbe] at isProbe
      unfold Gateway.probes at probes
      split at probes
      case h_1 timer => exact rings timer gateway probes rfl running
      case h_2 timer =>
        obtain ⟨isProbe, armed⟩ := (Bool.and_eq_true _ _).mp probes
        rw [← TimerTable.fire_fst] at armed
        cases fires : gateway.timers.fire timer with
        | mk isArmed timers =>
          obtain rfl : isArmed = true := (congrArg Prod.fst fires).symm.trans armed
          simp only [Gateway.step, fires]
          exact rings timer { gateway with timers := timers } isProbe rfl running
      case h_3 => simp at probes

/-- The stamps that are taken in the course of turns. -/
def stamps (setup : Setup) : Gateway → List Turn → List Nat
  | _, [] => []
  | gateway, .step step :: turns =>
      (gateway.dueStamp? step).toList ++ stamps setup (gateway.step setup step) turns
  | gateway, .terminate :: turns => stamps setup gateway.terminate turns

/-- The identifiers of the probes that were written. -/
def probedIds (gateway : Gateway) : List RequestId :=
  gateway.ledger.filterMap Deed.probedId?

/-- A step writes a probe only with the stamp that it takes. -/
theorem probedIds_step (setup : Setup) (gateway : Gateway) (step : Step) :
    ∃ written, (gateway.step setup step).probedIds = gateway.probedIds ++ written ∧
      written.Sublist ((gateway.dueStamp? step).toList.map (Exchange.probeId setup)) := by
  cases (gateway.chores_step setup step).stamps with
  | none latest probes =>
      exact ⟨[], probes.trans (List.append_nil _).symm, List.nil_sublist _⟩
  | one stamp taken later latest probes =>
      have due : gateway.dueStamp? step = some stamp := taken
      rw [due]
      rcases probes with same | more
      · exact ⟨[], same.trans (List.append_nil _).symm, List.nil_sublist _⟩
      · exact ⟨_, more, List.Sublist.refl _⟩

/-- The stamp that a step takes is later than the latest before it. -/
theorem lastStamp_lt_of_due {gateway : Gateway} {step : Step} {stamp : Nat}
    (due : gateway.dueStamp? step = some stamp) : gateway.health.lastStamp < stamp := by
  have next : gateway.nextStamp = stamp := by
    unfold dueStamp? at due
    split at due
    · exact Option.some.inj due
    · simp at due
  rw [← next, Exchange.nextStamp]
  omega

/-- Every stamp that is taken is later than all before it, and the probes that are written carry
stamps in the order in which these were taken. -/
theorem stamps_increase (setup : Setup) (gateway : Gateway) (turns : List Turn) :
    (gateway.stamps setup turns).Pairwise (· < ·) ∧
      (∀ stamp ∈ gateway.stamps setup turns, gateway.health.lastStamp < stamp) ∧
      (gateway.runTurns setup turns).health.lastStamp =
        (gateway.stamps setup turns).getLastD gateway.health.lastStamp ∧
      ∃ written, (gateway.runTurns setup turns).probedIds = gateway.probedIds ++ written ∧
        written.Sublist ((gateway.stamps setup turns).map (Exchange.probeId setup)) := by
  induction turns generalizing gateway with
  | nil => exact ⟨.nil, by simp [stamps], rfl, [], (List.append_nil _).symm, .slnil⟩
  | cons turn turns ih =>
      cases turn with
      | terminate => exact ih gateway.terminate
      | step step =>
          obtain ⟨increase, above, latest, written, more, carried⟩ := ih (gateway.step setup step)
          obtain ⟨first, probes, own⟩ := gateway.probedIds_step setup step
          have taken := gateway.lastStamp_step setup step
          have probed : ((gateway.step setup step).runTurns setup turns).probedIds =
              gateway.probedIds ++ (first ++ written) := by
            rw [more, probes, List.append_assoc]
          unfold stamps
          rw [taken] at above latest
          cases due : gateway.dueStamp? step with
          | none =>
              rw [due] at above latest own
              exact ⟨increase, above, latest, first ++ written, probed, own.append carried⟩
          | some stamp =>
              have later := lastStamp_lt_of_due due
              rw [due] at above latest own
              refine ⟨List.pairwise_cons.mpr ⟨above, increase⟩, ?_, ?_, first ++ written, probed,
                own.append carried⟩
              · intro other listed
                rcases List.mem_cons.mp listed with rfl | rest
                · exact later
                · exact Nat.lt_trans later (above other rest)
              · rw [Option.toList_some, List.singleton_append, List.getLastD_cons]
                exact latest

end Gateway

/-! ## Responses to probes -/

/-- With some deeds, messages that wait are passed on.  Unless a write is refused, no call leaves
and nothing is answered; otherwise calls may fail. -/
structure Passes (before : Traffic) (deeds : List Deed) (after : Traffic) : Prop where
  ledger : after.ledger = before.ledger ++ deeds
  silent : ∀ line, .told line ∉ deeds
  unrelayed : ∀ id line, .answered id (.response line) ∉ deeds
  kept : (∀ generation entry, .refused generation entry ∉ deeds) →
    (∀ id answer, .answered id answer ∉ deeds) ∧
      before.pending.map PendingCall.id ⊆ after.pending.map PendingCall.id

namespace Passes

theorem refl (traffic : Traffic) : Passes traffic [] traffic :=
  ⟨(List.append_nil _).symm, by simp, by simp, by simp⟩

theorem trans {before middle after : Traffic} {first second : List Deed}
    (passes : Passes before first middle) (further : Passes middle second after) :
    Passes before (first ++ second) after where
  ledger := by rw [further.ledger, passes.ledger, List.append_assoc]
  silent line done := by
    rcases List.mem_append.mp done with early | late
    · exact passes.silent line early
    · exact further.silent line late
  unrelayed id line done := by
    rcases List.mem_append.mp done with early | late
    · exact passes.unrelayed id line early
    · exact further.unrelayed id line late
  kept unrefused := by
    obtain ⟨unanswered, stay⟩ := passes.kept fun generation entry done =>
      unrefused generation entry (List.mem_append_left _ done)
    obtain ⟨nor, remain⟩ := further.kept fun generation entry done =>
      unrefused generation entry (List.mem_append_right _ done)
    refine ⟨fun id answer done => ?_, List.Subset.trans stay remain⟩
    rcases List.mem_append.mp done with early | late
    · exact unanswered id answer early
    · exact nor id answer late

theorem write (traffic : Traffic) (entry : QueuedRequest) :
    Passes traffic [.written traffic.generation entry] (traffic.write entry) := by
  refine ⟨rfl, by simp, by simp, fun _ => ⟨by simp, ?_⟩⟩
  intro id listed
  cases request : entry.id with
  | none =>
      rw [Traffic.write, Traffic.addPending, request]
      exact listed
  | some own =>
      rw [Traffic.write, Traffic.addPending, request]
      by_cases same : id = own
      · simp [CallTable.insert, same]
      · obtain ⟨call, present, rfl⟩ := List.mem_map.mp listed
        have stays : call ∈ CallTable.remove traffic.pending own := by
          simp [CallTable.remove, present, same]
        exact List.mem_map_of_mem (List.mem_append_left _ stays)

/-- A write is refused, and requests fail because of it. -/
theorem refuse {before after : Traffic} {entry : QueuedRequest} {deeds : List Deed}
    (ledger : after.ledger = (before.refuse entry).ledger ++ deeds)
    (failures : ∀ deed ∈ deeds, ∃ id failure, deed = .answered id (.failed failure)) :
    Passes before (.refused before.generation entry :: deeds) after := by
  refine ⟨?_, fun line told => ?_, fun id line answered => ?_, fun unrefused => ?_⟩
  · rw [ledger, Traffic.refuse, Traffic.enter, List.append_assoc, List.singleton_append]
  · rcases List.mem_cons.mp told with same | failed
    · simp at same
    · obtain ⟨id, failure, same⟩ := failures _ failed
      simp at same
  · rcases List.mem_cons.mp answered with same | failed
    · simp at same
    · obtain ⟨other, failure, same⟩ := failures _ failed
      simp at same
  · exact absurd List.mem_cons_self (unrefused before.generation entry)

end Passes

namespace Gateway

variable {setup : Setup}

theorem passes_passOn (setup : Setup) (gateway : Gateway) (entry : QueuedRequest)
    (ready : gateway.state = .ready) :
    ∃ deeds, Passes gateway.traffic deeds (gateway.passOn setup entry).traffic := by
  cases outcome : gateway.outside.writeOutcomes.next with
  | none =>
      rw [(passOn_written setup gateway entry ready outcome).1]
      exact ⟨_, .write gateway.traffic entry⟩
  | some failure =>
      have failures (ids : List RequestId) (failure : Failure) (deed : Deed)
          (listed : deed ∈ ids.map fun id => Deed.answered id (.failed failure)) :
          ∃ id failure, deed = .answered id (.failed failure) := by
        obtain ⟨id, -, rfl⟩ := List.mem_map.mp listed
        exact ⟨id, failure, rfl⟩
      rcases traffic_passOn_refused setup gateway entry ready outcome with
        ⟨-, passed⟩ | ⟨-, passed | ⟨respawn, passed⟩⟩
      · rw [passed]
        exact ⟨_, .refuse (List.append_assoc _ _ _)
          (List.forall_mem_append.mpr ⟨failures _ failure, failures _ failure⟩)⟩
      · rw [passed]
        exact ⟨_, .refuse rfl (failures _ connectionReset)⟩
      · rw [passed]
        exact ⟨_, .refuse (List.append_assoc _ _ _)
          (List.forall_mem_append.mpr ⟨failures _ connectionReset, failures _ respawn⟩)⟩

theorem passes_passOnWaiting (setup : Setup) (count : Nat) (gateway : Gateway) :
    ∃ deeds, Passes gateway.traffic deeds (gateway.passOnWaiting setup count).traffic := by
  induction count generalizing gateway with
  | zero => exact ⟨[], .refl _⟩
  | succ count ih =>
      rcases passOnWaiting_cases setup count gateway with
        ⟨-, same⟩ | ⟨entry, rest, ready, -, onward⟩
      · rw [same]
        exact ⟨[], .refl _⟩
      · rw [onward]
        obtain ⟨first, passes⟩ := passes_passOn setup { gateway with queue := rest } entry ready
        obtain ⟨second, further⟩ := ih (({ gateway with queue := rest }).passOn setup entry)
        -- The head of the queue that was taken off plays no part in what `Passes` says.
        have start : Passes gateway.traffic first _ :=
          ⟨passes.ledger, passes.silent, passes.unrelayed, passes.kept⟩
        exact ⟨first ++ second, start.trans further⟩

/-- When the present process responds to a probe, at most messages that wait are passed on. -/
theorem passes_onServiceOutput_probe (setup : Setup) (gateway : Gateway) {line : String}
    {id : RequestId} {message : ServiceMessage}
    (isResponse : ServiceMessage.response? line = some (id, message))
    (isProbe : Exchange.isProbeId setup id = true) (generation : Nat) :
    ∃ deeds, Passes gateway.traffic deeds
      (gateway.onServiceOutput setup generation line).traffic := by
  unfold onServiceOutput
  split
  case isFalse => exact ⟨[], .refl _⟩
  case isTrue current =>
    by_cases starting : gateway.state = .starting
    · obtain ⟨later, woken, -, drained⟩ :=
        handleServiceOutput_woken isResponse isProbe starting
      rw [drained, drainQueue_eq]
      obtain ⟨deeds, passes⟩ := later.passes_passOnWaiting setup later.queue.length
      rw [woken] at passes
      exact ⟨deeds, passes.ledger, passes.silent, passes.unrelayed, passes.kept⟩
    · rw [traffic_handleServiceOutput_probe isResponse isProbe starting]
      exact ⟨[], .refl _⟩

/-- A response to an identifier that belongs to no probe is not taken for one to a probe. -/
theorem classify_ne_probe (exchange : Exchange) {line : String} {id : RequestId}
    {message : ServiceMessage} (isResponse : ServiceMessage.response? line = some (id, message))
    (noProbe : Exchange.isProbeId setup id = false) :
    (exchange.classify setup line).1 ≠ .probe := by
  rw [Exchange.classify_response exchange isResponse noProbe]
  split
  · simp
  · split <;> simp

/-! ## Runs -/

/-- Whatever the clock shows, every stamp that a probe takes is later than all before it, so each
probe has an identifier of its own, and no request that is pending, has timed out, waits or was
written has the identifier of a probe.  So no response to a request is taken for one to a probe.
When the present process responds to a probe, nothing of it is passed on to the client and no
call is answered with it: the messages that wait are passed on, and only if the process refuses
one do calls fail. -/
theorem probes_and_requests_never_mix (setup : Setup) (outside : Outside) (turns : List Turn) :
    let gateway := afterTurns setup outside turns
    let stamps := (initial setup outside).stamps setup turns
    let isProbe := Exchange.isProbeId setup
    (stamps.Pairwise (· < ·) ∧ gateway.health.lastStamp = stamps.getLastD 0 ∧
        (stamps.map (Exchange.probeId setup)).Nodup ∧
        gateway.probedIds.Sublist (stamps.map (Exchange.probeId setup)) ∧
        ∀ stamp, isProbe (Exchange.probeId setup stamp) = true) ∧
      ((∀ call ∈ gateway.pending, isProbe call.id = false) ∧
        (∀ call ∈ gateway.expired, isProbe call.id = false) ∧
        ∀ entry ∈ gateway.queue, ∀ id, entry.id = some id → isProbe id = false) ∧
      ∀ generation line id message, ServiceMessage.response? line = some (id, message) →
        (∀ origin entry, .written origin entry ∈ gateway.ledger → entry.id = some id →
          (gateway.toExchange.classify setup line).1 ≠ .probe) ∧
        (id ∈ gateway.probedIds →
          (gateway.toExchange.classify setup line).1 = .probe ∧
          let later := gateway.step setup (.event (.serviceOutput generation line))
          ∃ deeds, later.ledger = gateway.ledger ++ deeds ∧
            later.outside.replies =
              (gateway.outside.replyAll (deeds.filterMap Deed.reply?)).replies ∧
            (∀ told, .told told ∉ deeds) ∧
            (∀ request text, .answered request (.response text) ∉ deeds) ∧
            ((∀ origin entry, .refused origin entry ∉ deeds) →
              (∀ request answer, .answered request answer ∉ deeds) ∧
                gateway.pending.map PendingCall.id ⊆ later.pending.map PendingCall.id)) := by
  intro gateway stamps isProbe
  obtain ⟨increase, -, latest, written, probed, carried⟩ :=
    (initial setup outside).stamps_increase setup turns
  have apart : gateway.KeepsApart setup := keepsApart_afterTurns setup outside turns
  have own : gateway.probedIds.Sublist (stamps.map (Exchange.probeId setup)) := by
    have noneBefore : (initial setup outside).probedIds = [] :=
      congrArg (fun traffic : Traffic => traffic.ledger.filterMap Deed.probedId?)
        (traffic_initial setup outside)
    rw [noneBefore, List.nil_append] at probed
    exact probed ▸ carried
  refine ⟨⟨increase, latest, ?_, own, Exchange.isProbeId_probeId setup⟩,
    ⟨apart.pending, apart.expired, apart.queue⟩, ?_⟩
  · have distinct : stamps.Nodup := increase.imp Nat.ne_of_lt
    exact List.Nodup.map (Exchange.probeId_injective setup) distinct
  · intro generation line id message isResponse
    constructor
    · intro origin entry done request
      exact classify_ne_probe _ isResponse (apart.written origin entry done id request)
    · intro listed
      have ofProbe : isProbe id = true := by
        obtain ⟨stamp, -, rfl⟩ := List.mem_map.mp (own.subset listed)
        exact Exchange.isProbeId_probeId setup stamp
      refine ⟨by rw [Exchange.classify_probe _ isResponse ofProbe], ?_⟩
      intro later
      obtain ⟨deeds, passes⟩ :=
        gateway.passes_onServiceOutput_probe setup isResponse ofProbe generation
      exact ⟨deeds, passes.ledger, replies_step passes.ledger, passes.silent, passes.unrelayed,
        passes.kept⟩

end Gateway

end BrowserRelay
