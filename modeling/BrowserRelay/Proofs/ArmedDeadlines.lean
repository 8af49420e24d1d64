import BrowserRelay.Proofs.Shutdown
import BrowserRelay.Proofs.Tending

/-!
# Deadlines while the loop goes on

What handling an event does to the deadlines that are armed.  The arm of a deadline is new only
where a request is accepted or a process is started, and the deadline of a start is armed only
while a process is starting.
-/

namespace BrowserRelay

/-! ## What deadlines are armed for -/

/-- Whether a timer limits the time for a call or for a start. -/
def Timer.isDeadline : Timer → Bool
  | startupDeadline => true
  | callDeadline _ => true
  | _ => false

theorem Timer.ne_of_isDeadline {timer other : Timer} (deadline : timer.isDeadline = true)
    (apart : other.isDeadline = false) : timer ≠ other := by
  rintro rfl
  exact absurd (apart.symm.trans deadline) (by simp)

/-- Deadlines fire once, and that of a start is armed only while a process is starting. -/
structure Traffic.IsMeant (traffic : Traffic) : Prop where
  once : ∀ timer rule, timer.isDeadline = true → traffic.armed timer = some rule →
    ∃ delay, rule = .once delay
  startup : ∀ rule, traffic.armed .startupDeadline = some rule → traffic.state = .starting

section Changes

variable {setup : Setup} {stale : RequestId → Prop} {before after traffic : Traffic}

namespace Traffic.IsMeant

/-- Other timers may be armed, and any may be disarmed, while a process that is starting stays. -/
theorem keep (meant : before.IsMeant)
    (armed : ∀ timer rule, timer.isDeadline = true → after.armed timer = some rule →
      before.armed timer = some rule)
    (startup : ∀ rule, after.armed .startupDeadline = some rule → before.state = .starting →
      after.state = .starting) : after.IsMeant where
  once timer rule deadline isArmed := meant.once timer rule deadline (armed _ _ deadline isArmed)
  startup rule isArmed := startup rule isArmed (meant.startup rule (armed _ _ rfl isArmed))

/-- Other timers may be armed, and any may be disarmed. -/
theorem arm (meant : before.IsMeant) (state : after.state = before.state)
    (armed : ∀ timer rule, timer.isDeadline = true → after.armed timer = some rule →
      before.armed timer = some rule) : after.IsMeant :=
  meant.keep armed fun _ _ starting => state.trans starting

theorem disarm (meant : traffic.IsMeant) (timer : Timer) : (traffic.disarm timer).IsMeant := by
  refine meant.arm rfl fun other rule _ armed => ?_
  by_cases same : other = timer
  · subst same
    simp [Traffic.disarm] at armed
  · rwa [traffic.armed_disarm_of_ne same] at armed

theorem takeIn (meant : traffic.IsMeant) (entry : QueuedRequest) :
    (traffic.takeIn setup entry).IsMeant := by
  cases request : entry.id with
  | none =>
      refine meant.arm rfl fun timer rule _ armed => ?_
      simpa [Traffic.takeIn, armDeadline, enter, request, accept] using armed
  | some own =>
      have arms (timer : Timer) : (traffic.takeIn setup entry).armed timer =
          if timer = .callDeadline own then some (.once setup.settings.service.callTimeout)
          else traffic.armed timer := by
        simp [Traffic.takeIn, armDeadline, enter, request, accept, Function.update_apply]
      constructor
      · intro timer rule deadline armed
        rw [arms] at armed
        split at armed
        case isTrue => exact ⟨_, (Option.some.inj armed).symm⟩
        case isFalse => exact meant.once timer rule deadline armed
      · intro rule armed
        rw [arms, if_neg (by simp)] at armed
        exact meant.startup rule armed

end Traffic.IsMeant

theorem Tending.isMeant (tending : Tending setup stale before after) (meant : before.IsMeant) :
    after.IsMeant := by
  cases tending with
  | left ids state calls armed =>
      refine meant.arm state fun timer rule _ isArmed => ?_
      rw [armed] at isArmed
      split at isArmed
      case isTrue => simp at isArmed
      case isFalse => exact isArmed
  | overdue untimely state calls armed => exact meant.arm state fun _ _ _ isArmed => armed ▸ isArmed
  | takenIn entry => exact meant.takeIn entry
  | launched idle =>
      constructor
      · intro timer rule deadline armed
        cases timer with
        | startupDeadline =>
            simp only [Traffic.launch, Traffic.arm, Function.update_self, Option.some.injEq]
              at armed
            exact ⟨_, armed.symm⟩
        | callDeadline id =>
            exact meant.once _ rule deadline (by
              simpa [Traffic.launch, Traffic.arm, Traffic.disarm] using armed)
        | _ => simp [Timer.isDeadline] at deadline
      · exact fun _ _ => rfl
  | launchFailed => exact (meant.disarm .restart).arm rfl fun _ _ _ armed => armed
  | woken =>
      refine (meant.disarm .startupDeadline).keep (fun timer rule deadline armed => ?_)
        fun rule armed _ => ?_
      · cases timer with
        | startupDeadline => simp [Traffic.wake, Traffic.arm, Traffic.disarm] at armed
        | callDeadline id => simpa [Traffic.wake, Traffic.arm, Traffic.disarm] using armed
        | _ => simp [Timer.isDeadline] at deadline
      · simp [Traffic.wake, Traffic.arm, Traffic.disarm] at armed
  | demoted => exact meant.keep (fun _ _ _ armed => armed) fun _ _ _ => rfl
  | probeRefused =>
      have demoted : before.demote.IsMeant := meant.keep (fun _ _ _ armed => armed) fun _ _ _ => rfl
      exact demoted.disarm .probeInterval
  | lost backoff running =>
      refine (((meant.disarm .firstProbe).disarm .probeInterval).disarm .startupDeadline).keep
        (fun timer rule deadline armed => ?_) fun rule armed _ => ?_
      · cases backoff with
        | none => exact armed
        | some backoff =>
            have apart : timer ≠ .restart := Timer.ne_of_isDeadline deadline rfl
            exact (Function.update_of_ne apart _ _).symm.trans armed
      · cases backoff <;> simp [Traffic.release, Traffic.armRestart, Traffic.disarm] at armed
  | elapsed => exact meant.disarm _

theorem Tendings.isMeant (tendings : Tendings setup stale before after)
    (meant : before.IsMeant) : after.IsMeant := by
  induction tendings with
  | refl => exact meant
  | tail _ tending ih => exact tending.isMeant ih

end Changes

/-! ## What handling an event does -/

/-- A duty plays a part for what becomes of a timer only by the call whose deadline is to be
armed, but for the time of grace. -/
theorem Rearms.of_call {duty other : Duty} {timer : Timer} {before after : Upkeep}
    (rearms : Rearms duty timer before after) (same : duty.call? = other.call?)
    (apart : timer ≠ .shutdownGrace) : Rearms other timer before after := by
  cases rearms with
  | same kept => exact .same kept
  | disarmed gone => exact .disarmed gone fun grace => absurd grace apart
  | armed arm made fresh given _ own started =>
      exact .armed arm made fresh given apart (same ▸ own) started

theorem Deed.mem_filterMap_acceptedId? {deeds : List Deed} {id : RequestId} :
    id ∈ deeds.filterMap Deed.acceptedId? ↔ .accepted id ∈ deeds := by
  rw [List.mem_filterMap]
  constructor
  · rintro ⟨deed, listed, own⟩
    cases deed with
    | accepted other => exact Option.some.inj own ▸ listed
    | _ => simp [Deed.acceptedId?] at own
  · exact fun listed => ⟨_, listed, rfl⟩

namespace EventLoop

variable {setup : Setup} {loop : EventLoop}

theorem nextTicket_terminate (gateway : Gateway) :
    gateway.terminate.timers.nextTicket = gateway.timers.nextTicket := by
  simp only [Gateway.terminate, Gateway.withHost, Host.terminate]
  split
  · split <;> rfl
  · rfl

theorem arm?_terminate (gateway : Gateway) (timer : Timer) :
    gateway.terminate.timers.arm? timer = none := by
  rw [TimerTable.arm?, arms_terminate]
  rfl

/-- What handling an event does to the timers other than the time of grace.  No deadline of a
call is armed but that of the call that is accepted. -/
theorem rearms_handle (setup : Setup) (loop : EventLoop) (event : Event) {timer : Timer}
    (apart : timer ≠ .shutdownGrace) :
    Rearms { call? := loop.accepted? setup (.handle event) } timer loop.gateway.upkeep
        (loop.handle setup event).gateway.upkeep ∧
      loop.gateway.upkeep.Proceeds (loop.handle setup event).gateway.upkeep := by
  by_cases ended : loop.isEnded = true
  · rw [handle_ended ended]
    exact ⟨.same rfl, Nat.le_refl _, Nat.le_refl _⟩
  have going : loop.isEnded = false := Bool.not_eq_true _ ▸ ended
  have call : (loop.gateway.dutyIn setup (.event event)).call? =
      loop.accepted? setup (.handle event) := by
    simp [Gateway.dutyIn, accepted?, going]
  obtain ⟨rearms, proceeds⟩ := (loop.gateway.chores_handleEvent setup event).rearms timer
  rcases handle_cases setup going event with
    ⟨left, ends, handled⟩ | ⟨-, handled⟩ | ⟨-, handled⟩
  · have before : loop.gateway.upkeep.Proceeds left.upkeep := by
      cases ends with
      | closedIdle => exact ⟨Nat.le_refl _, Nat.le_refl _⟩
      | told => exact ⟨Nat.le_refl _, Nat.le_refl _⟩
      | graceOver => exact ⟨Nat.le_refl _, Nat.le_refl _⟩
      | leftIdle => exact proceeds
    rw [handled]
    refine ⟨.disarmed (arm?_terminate left timer) fun grace => absurd grace apart, ?_, ?_⟩
    · exact Nat.le_trans before.ticket (Nat.le_of_eq (nextTicket_terminate left).symm)
    · exact Nat.le_trans before.generation (Nat.le_of_eq left.generation_terminate.symm)
  · rw [handled]
    refine ⟨.same ?_, Nat.le_succ _, Nat.le_refl _⟩
    have armed := loop.gateway.timers.arm?_schedule .shutdownGrace
      (.once setup.settings.service.shutdownGrace)
    exact (congrFun armed timer).trans (Function.update_of_ne apart _ _)
  · rw [handled]
    exact ⟨rearms.of_call call apart, proceeds⟩

/-- The deeds that come with an event tell which request is accepted. -/
theorem ledger_handle (setup : Setup) (event : Event)
    (sound : loop.isEnded = false → IsSound loop.gateway) :
    ∃ deeds, (loop.handle setup event).gateway.ledger = loop.gateway.ledger ++ deeds ∧
      ∀ id, .accepted id ∈ deeds ↔ loop.accepted? setup (.handle event) = some id := by
  by_cases ended : loop.isEnded = true
  · rw [handle_ended ended, accepted?, if_pos ended]
    exact ⟨[], (List.append_nil _).symm, by simp⟩
  have going : loop.isEnded = false := Bool.not_eq_true _ ▸ ended
  obtain ⟨passage, -⟩ := loop.gateway.passage_step setup (.event event) (sound going).settled
  obtain ⟨deeds, grows, accepted, -⟩ := passage.grows
  refine ⟨deeds, (handle_tells setup going event).1.trans grows.ledger, fun id => ?_⟩
  rw [Gateway.acceptedId?_arrival] at accepted
  rw [← Deed.mem_filterMap_acceptedId?, accepted, accepted?, if_neg ended, Option.mem_toList]

theorem isMeant_handle (setup : Setup) (event : Event)
    (sound : loop.isEnded = false → IsSound loop.gateway) (meant : loop.gateway.traffic.IsMeant) :
    (loop.handle setup event).gateway.traffic.IsMeant := by
  by_cases ended : loop.isEnded = true
  · rw [handle_ended ended]
    exact meant
  have going : loop.isEnded = false := Bool.not_eq_true _ ▸ ended
  rcases handle_cases setup going event with
    ⟨left, ends, handled⟩ | ⟨-, handled⟩ | ⟨-, handled⟩
  · have unarmed (timer : Timer) (rule : TimerRule) :
        left.terminate.traffic.armed timer ≠ some rule := by
      have free : left.terminate.traffic.armed timer = none :=
        congrArg (Option.map TimerArm.rule) (arm?_terminate left timer)
      rw [free]
      exact Option.some_ne_none rule ∘ Eq.symm
    rw [handled]
    exact ⟨fun _ rule _ armed => absurd armed (unarmed _ rule),
      fun rule armed => absurd armed (unarmed _ rule)⟩
  · have armed := loop.gateway.timers.rule?_schedule .shutdownGrace
      (.once setup.settings.service.shutdownGrace)
    rw [handled]
    refine meant.arm rfl fun timer rule deadline isArmed => ?_
    have apart : timer ≠ .shutdownGrace := Timer.ne_of_isDeadline deadline rfl
    exact ((Function.update_of_ne apart _ _).symm.trans (congrFun armed timer).symm).trans isArmed
  · rw [handled]
    have tendings : Tendings setup (fun _ => True) loop.gateway.traffic
        (loop.gateway.step setup (.event event)).traffic :=
      loop.gateway.tendings_step setup (.event event) (fun _ _ => trivial)
        (fun id rule armed => meant.once _ rule rfl armed) (sound going).settled
        (sound going).present (sound going).accountable
    exact tendings.isMeant meant

end EventLoop

end BrowserRelay
