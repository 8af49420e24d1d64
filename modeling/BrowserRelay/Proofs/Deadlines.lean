import BrowserRelay.Proofs.Tending
import Mathlib.Data.List.Induction

/-!
# Deadlines of calls in flight

Every call that is pending or waits in the queue has its deadline armed, and the deadlines that
are armed are those of such calls.  The only way to leave a deadline behind is to handle its
event although it has not elapsed: the call is given up, and its timer goes on.
-/

namespace BrowserRelay

/-- The deadlines that are armed are those of the calls in flight, and of calls that may have
left theirs behind. -/
structure Traffic.IsTimed (setup : Setup) (stale : RequestId → Prop) (traffic : Traffic) :
    Prop where
  covered : ∀ id ∈ traffic.inFlight,
    traffic.armed (.callDeadline id) = some (.once setup.settings.service.callTimeout)
  needed : ∀ id rule, traffic.armed (.callDeadline id) = some rule →
    rule = .once setup.settings.service.callTimeout ∧ (id ∈ traffic.inFlight ∨ stale id)

section Changes

variable {setup : Setup} {stale : RequestId → Prop} {before after traffic : Traffic}

namespace Traffic.IsTimed

/-- Whatever happens to other timers, the deadlines stay as they are. -/
theorem keep (timed : before.IsTimed setup stale) (calls : after.inFlight = before.inFlight)
    (armed : ∀ id, after.armed (.callDeadline id) = before.armed (.callDeadline id)) :
    after.IsTimed setup stale where
  covered id flying := by
    rw [armed]
    exact timed.covered id (calls ▸ flying)
  needed id rule isArmed := by
    rw [armed] at isArmed
    rw [calls]
    exact timed.needed id rule isArmed

theorem left {ids : List RequestId} (timed : before.IsTimed setup stale)
    (calls : ∀ id, id ∈ after.inFlight ↔ id ∈ before.inFlight ∧ id ∉ ids)
    (armed : ∀ timer, after.armed timer =
      if timer ∈ ids.map Timer.callDeadline then none else before.armed timer) :
    after.IsTimed setup stale := by
  have ofCall (id : RequestId) : after.armed (.callDeadline id) =
      if id ∈ ids then none else before.armed (.callDeadline id) := by
    simp [armed]
  constructor
  · intro id flying
    obtain ⟨flew, stays⟩ := (calls id).mp flying
    rw [ofCall, if_neg stays]
    exact timed.covered id flew
  · intro id rule isArmed
    rw [ofCall] at isArmed
    split at isArmed
    case isTrue => simp at isArmed
    case isFalse stays =>
      obtain ⟨once, flew | untimely⟩ := timed.needed id rule isArmed
      · exact ⟨once, .inl ((calls id).mpr ⟨flew, stays⟩)⟩
      · exact ⟨once, .inr untimely⟩

theorem overdue {id : RequestId} (timed : before.IsTimed setup stale) (untimely : stale id)
    (calls : ∀ other, other ∈ after.inFlight ↔ other ∈ before.inFlight ∧ other ≠ id)
    (armed : after.armed = before.armed) : after.IsTimed setup stale := by
  constructor
  · intro other flying
    rw [armed]
    exact timed.covered other ((calls other).mp flying).1
  · intro other rule isArmed
    rw [armed] at isArmed
    obtain ⟨once, flew | wasStale⟩ := timed.needed other rule isArmed
    · by_cases same : other = id
      · exact ⟨once, .inr (same ▸ untimely)⟩
      · exact ⟨once, .inl ((calls other).mpr ⟨flew, same⟩)⟩
    · exact ⟨once, .inr wasStale⟩

theorem takeIn (timed : traffic.IsTimed setup stale) (entry : QueuedRequest) :
    (traffic.takeIn setup entry).IsTimed setup stale := by
  cases request : entry.id with
  | none =>
      have calls := traffic.inFlight_takeIn setup entry
      rw [request, Option.toList_none, List.append_nil] at calls
      refine timed.keep calls fun id => ?_
      simp [Traffic.takeIn, armDeadline, enter, request, accept]
  | some own =>
      have ofCall (id : RequestId) : (traffic.takeIn setup entry).armed (.callDeadline id) =
          if id = own then some (.once setup.settings.service.callTimeout)
          else traffic.armed (.callDeadline id) := by
        simp [Traffic.takeIn, armDeadline, enter, request, accept, Function.update_apply]
      have calls (id : RequestId) : id ∈ (traffic.takeIn setup entry).inFlight ↔
          id ∈ traffic.inFlight ∨ id = own := by
        simp [inFlight_takeIn, request]
      constructor
      · intro id flying
        rw [ofCall]
        split
        case isTrue => rfl
        case isFalse other =>
          exact timed.covered id (((calls id).mp flying).resolve_right other)
      · intro id rule isArmed
        rw [ofCall] at isArmed
        split at isArmed
        case isTrue same =>
          exact ⟨(Option.some.inj isArmed).symm, .inl ((calls id).mpr (.inr same))⟩
        case isFalse other =>
          obtain ⟨once, flew | untimely⟩ := timed.needed id rule isArmed
          · exact ⟨once, .inl ((calls id).mpr (.inl flew))⟩
          · exact ⟨once, .inr untimely⟩

end Traffic.IsTimed

theorem Tending.isTimed (tending : Tending setup stale before after)
    (timed : before.IsTimed setup stale) : after.IsTimed setup stale := by
  cases tending with
  | left ids state calls armed => exact timed.left calls armed
  | overdue untimely state calls armed => exact timed.overdue untimely calls armed
  | takenIn entry => exact timed.takeIn entry
  | launched =>
      exact timed.keep rfl fun id => by simp [Traffic.launch, Traffic.arm, Traffic.disarm]
  | launchFailed => exact timed.keep rfl fun id => by simp [Traffic.failLaunch, Traffic.disarm]
  | woken => exact timed.keep rfl fun id => by simp [Traffic.wake, Traffic.arm, Traffic.disarm]
  | demoted => exact timed.keep rfl fun id => rfl
  | probeRefused => exact timed.keep rfl fun id => by simp [Traffic.disarm, Traffic.demote]
  | lost backoff running =>
      refine timed.keep rfl fun id => ?_
      cases backoff <;> simp [Traffic.release, Traffic.armRestart, Traffic.disarm]
  | elapsed armed other =>
      refine timed.keep rfl fun id => ?_
      exact Function.update_of_ne (other id).symm _ _

theorem Tendings.isTimed (tendings : Tendings setup stale before after)
    (timed : before.IsTimed setup stale) : after.IsTimed setup stale := by
  induction tendings with
  | refl => exact timed
  | tail _ tending ih => exact tending.isTimed ih

end Changes

namespace Gateway

theorem isTimed_initial (setup : Setup) (outside : Outside) (stale : RequestId → Prop) :
    (initial setup outside).traffic.IsTimed setup stale := by
  rw [traffic_initial]
  exact ⟨by simp [Traffic.inFlight], by simp⟩

/-- What a run does to the timers.  A call may leave its deadline behind if the event of its
deadline is handled without having elapsed. -/
theorem tendings_after (setup : Setup) (outside : Outside) {stale : RequestId → Prop}
    (steps : List Step)
    (untimely : ∀ id, .event (.timer (.callDeadline id)) ∈ steps → stale id) :
    Tendings setup stale (initial setup outside).traffic (after setup outside steps).traffic := by
  induction steps using List.reverseRecOn with
  | nil => exact .refl
  | append_singleton steps step ih =>
      have earlier := ih fun id listed => untimely id (List.mem_append_left _ listed)
      -- That deadlines do not elapse again and again is known from the steps so far.
      have timed := earlier.isTimed (isTimed_initial setup outside stale)
      obtain ⟨present, accountable⟩ := isAccountable_after setup outside steps
      rw [after_concat]
      refine earlier.trans (tendings_step setup _ step ?_ ?_ (settled_after setup outside steps)
        present accountable)
      · rintro id rfl
        exact untimely id (by simp)
      · intro id rule isArmed
        exact ⟨_, (timed.needed id rule isArmed).1⟩

/-- When the deadline of a call in flight elapses, the call is answered with a failure and is no
longer in flight. -/
theorem deadline_answers (setup : Setup) (gateway : Gateway) {id : RequestId}
    (accountable : gateway.traffic.IsAccountable) (flying : id ∈ gateway.traffic.inFlight)
    (armed : gateway.traffic.armed (.callDeadline id) =
      some (.once setup.settings.service.callTimeout)) :
    let later := gateway.step setup (.elapse (.callDeadline id))
    later.ledger = gateway.ledger ++
        [.answered id (.failed (.timeout setup.settings.service.callTimeout))] ∧
      id ∉ later.traffic.inFlight := by
  let disarmed : Gateway := { gateway with timers := gateway.timers.cancel (.callDeadline id) }
  have elapsed : gateway.step setup (.elapse (.callDeadline id)) =
      disarmed.onCallDeadline setup id := by
    rcases gateway.step_elapse_cases setup (.callDeadline id) with
      ⟨unarmed, -⟩ | ⟨period, periodic, -⟩ | ⟨delay, -, same⟩
    · simp [armed] at unarmed
    · simp [armed] at periodic
    · exact same
  have disarm : disarmed.traffic = gateway.traffic.disarm (.callDeadline id) :=
    gateway.traffic_cancelled _
  have stillFlying : id ∈ disarmed.traffic.inFlight := disarm ▸ flying
  have stillAccountable : disarmed.traffic.IsAccountable := disarm ▸ accountable
  rw [elapsed]
  refine ⟨?_, fun stays => ?_⟩
  · rcases disarmed.traffic_onCallDeadline setup id with
      ⟨call, -, late⟩ | ⟨unsent, ⟨-, late⟩ | ⟨unknown, -⟩⟩
    · exact congrArg Traffic.ledger late
    · exact congrArg Traffic.ledger late
    · exact absurd stillFlying (Traffic.not_mem_inFlight ⟨unsent, unknown⟩)
  · have leaves := (disarmed.onCallDeadline_leaves setup id stillAccountable).2.2 id
    exact (leaves.mp stays).2 rfl

/-- The deadlines that are armed are those of the calls in flight: every call that is pending or
waits has its deadline armed, once and with the time it is allowed, and when that has elapsed the
call is answered.  A deadline that is armed without its call is one whose event was handled
without having elapsed; if timers do nothing but elapse, there is none. -/
theorem deadlines_are_armed_for_calls_in_flight (setup : Setup) (outside : Outside)
    (steps : List Step) (id : RequestId) :
    let gateway := after setup outside steps
    let later := gateway.step setup (.elapse (.callDeadline id))
    (gateway.isInFlight id = true →
        gateway.timers.rule? (.callDeadline id) =
          some (.once setup.settings.service.callTimeout) ∧
        later.isInFlight id = false ∧
        later.ledger = gateway.ledger ++
          [.answered id (.failed (.timeout setup.settings.service.callTimeout))]) ∧
      (gateway.timers.isArmed (.callDeadline id) = true →
        gateway.isInFlight id = true ∨ .event (.timer (.callDeadline id)) ∈ steps) ∧
      ((∀ timer, .event (.timer timer) ∉ steps) →
        (gateway.timers.isArmed (.callDeadline id) = true ↔ gateway.isInFlight id = true)) := by
  intro gateway later
  obtain ⟨-, accountable⟩ := isAccountable_after setup outside steps
  -- A deadline may be left behind only if the steps handle its event.
  have timed : gateway.traffic.IsTimed setup
      fun id => .event (.timer (.callDeadline id)) ∈ steps :=
    (tendings_after setup outside steps fun id listed => listed).isTimed
      (isTimed_initial setup outside _)
  have covered (flying : gateway.isInFlight id = true) :
      gateway.timers.rule? (.callDeadline id) = some (.once setup.settings.service.callTimeout) :=
    timed.covered id ((gateway.mem_inFlight_iff id).mpr flying)
  have needed (armed : gateway.timers.isArmed (.callDeadline id) = true) :
      gateway.isInFlight id = true ∨ .event (.timer (.callDeadline id)) ∈ steps := by
    rw [TimerTable.isArmed_eq, Option.isSome_iff_exists] at armed
    obtain ⟨rule, armed⟩ := armed
    exact (timed.needed id rule armed).2.imp_left (gateway.mem_inFlight_iff id).mp
  refine ⟨fun flying => ?_, needed, fun timely => ⟨fun armed => ?_, fun flying => ?_⟩⟩
  · obtain ⟨answered, gone⟩ := gateway.deadline_answers setup accountable
      ((gateway.mem_inFlight_iff id).mpr flying) (covered flying)
    rw [mem_inFlight_iff, Bool.not_eq_true] at gone
    exact ⟨covered flying, gone, answered⟩
  · exact (needed armed).resolve_right (timely _)
  · rw [TimerTable.isArmed_eq, covered flying]
    rfl

end Gateway

end BrowserRelay
