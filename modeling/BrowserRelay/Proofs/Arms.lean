import BrowserRelay.Proofs.Upkeep

/-!
# The arms of a timer

Every arm of a timer has a ticket that no arm had before.  What the relay does about a timer can
be told from its arm: it is still the same, or there is none, or it is a new one.  The deadline of
a call is armed only where the call is taken in, that of the start only where a process is
started, and the time of grace not at all.
-/

namespace BrowserRelay

namespace TimerTable

theorem arm?_cancel (table : TimerTable) (timer : Timer) :
    (table.cancel timer).arm? = Function.update table.arm? timer none := by
  funext other
  by_cases same : other = timer
  · subst other
    simp [arm?, cancel, List.find?_eq_none]
  · have kept (arm : TimerArm) : (arm.timer ≠ timer ∧ arm.timer = other) ↔ arm.timer = other :=
      and_iff_right_of_imp fun found => found ▸ same
    simp only [arm?, cancel, List.find?_filter, decide_eq_true_eq, kept,
      Function.update_of_ne same]

theorem arm?_schedule (table : TimerTable) (timer : Timer) (rule : TimerRule) :
    (table.schedule timer rule).arm? =
      Function.update table.arm? timer (some ⟨timer, rule, table.nextTicket⟩) := by
  have cancelled := table.arm?_cancel timer
  funext other
  have before := congrFun cancelled other
  simp only [arm?, schedule, List.find?_append, List.find?_singleton] at before ⊢
  by_cases same : other = timer
  · subst other
    rw [Function.update_self] at before ⊢
    simp [before]
  · rw [Function.update_of_ne same] at before ⊢
    simpa [Ne.symm same] using before

/-- Another timer elapses without a change. -/
theorem arm?_fire_of_ne (table : TimerTable) {timer other : Timer} (apart : other ≠ timer) :
    (table.fire timer).2.arm? other = table.arm? other := by
  rcases table.fire_snd timer with same | cancelled
  · rw [same]
  · rw [cancelled, arm?_cancel, Function.update_of_ne apart]

theorem nextTicket_fire (table : TimerTable) (timer : Timer) :
    (table.fire timer).2.nextTicket = table.nextTicket := by
  rcases table.fire_snd timer with same | cancelled
  · rw [same]
  · rw [cancelled]
    rfl

end TimerTable

/-- What becomes of the arm of a timer. -/
inductive Rearms (duty : Duty) (timer : Timer) (before after : Upkeep) : Prop
  /-- The arm is the same. -/
  | same (kept : after.timers.arm? timer = before.timers.arm? timer) :
      Rearms duty timer before after
  /-- There is none. -/
  | disarmed (gone : after.timers.arm? timer = none)
      (allowed : timer = .shutdownGrace → duty.elapsed? = some timer) :
      Rearms duty timer before after
  /-- There is a new one. -/
  | armed (arm : TimerArm) (made : after.timers.arm? timer = some arm)
      (fresh : before.timers.nextTicket ≤ arm.ticket)
      (given : arm.ticket < after.timers.nextTicket) (apart : timer ≠ .shutdownGrace)
      (own : ∀ id, timer = .callDeadline id → duty.call? = some id)
      (started : timer = .startupDeadline → before.generation < after.generation) :
      Rearms duty timer before after

/-- Tickets and generations are never given out twice. -/
structure Upkeep.Proceeds (before after : Upkeep) : Prop where
  ticket : before.timers.nextTicket ≤ after.timers.nextTicket
  generation : before.generation ≤ after.generation

namespace Upkeep

variable (upkeep : Upkeep) (timer : Timer)

@[simp]
theorem arm?_arm (rule : TimerRule) : (upkeep.arm timer rule).timers.arm? =
    Function.update upkeep.timers.arm? timer (some ⟨timer, rule, upkeep.timers.nextTicket⟩) :=
  upkeep.timers.arm?_schedule timer rule

@[simp]
theorem arm?_disarm :
    (upkeep.disarm timer).timers.arm? = Function.update upkeep.timers.arm? timer none :=
  upkeep.timers.arm?_cancel timer

end Upkeep

theorem Chore.proceeds {setup : Setup} {duty : Duty} {before after : Upkeep}
    (chore : Chore setup duty before after) : before.Proceeds after := by
  cases chore with
  | launched idle => exact ⟨Nat.le_add_right _ 2, Nat.le_succ _⟩
  | launchFailed idle => exact ⟨Nat.le_refl _, Nat.le_succ _⟩
  | woken starting => exact ⟨Nat.le_succ _, Nat.le_refl _⟩
  | restartArmed rule => exact ⟨Nat.le_succ _, Nat.le_refl _⟩
  | deadlineArmed rule own => exact ⟨Nat.le_succ _, Nat.le_refl _⟩
  | _ => exact ⟨Nat.le_refl _, Nat.le_refl _⟩

namespace Rearms

variable {duty : Duty} {timer : Timer} {before middle after : Upkeep}

theorem disarm (upkeep : Upkeep) (other : Timer)
    (allowed : other = .shutdownGrace → duty.elapsed? = some other) :
    Rearms duty timer upkeep (upkeep.disarm other) := by
  by_cases same : timer = other
  · subst same
    exact .disarmed (by simp) allowed
  · exact .same (by simp [Function.update_of_ne same])

/-- Another timer is armed or disarmed, or a timer is armed that is not watched. -/
theorem arm (upkeep : Upkeep) (other : Timer) (rule : TimerRule)
    (apart : other ≠ .shutdownGrace) (own : ∀ id, other = .callDeadline id → duty.call? = some id)
    (unwatched : other ≠ .startupDeadline) :
    Rearms duty timer upkeep (upkeep.arm other rule) := by
  by_cases same : timer = other
  · subst same
    exact .armed _ (by rw [Upkeep.arm?_arm, Function.update_self]) (Nat.le_refl _)
      (Nat.lt_succ_self _) apart own fun startup => absurd startup unwatched
  · exact .same (by simp [Function.update_of_ne same])

theorem trans (rearms : Rearms duty timer before middle) (further : Rearms duty timer middle after)
    (proceeds : before.Proceeds middle) (proceedsFurther : middle.Proceeds after) :
    Rearms duty timer before after := by
  cases further with
  | disarmed gone allowed => exact .disarmed gone allowed
  | armed arm made fresh given apart own started =>
      refine .armed arm made (Nat.le_trans proceeds.ticket fresh) given apart own fun startup => ?_
      exact Nat.lt_of_le_of_lt proceeds.generation (started startup)
  | same kept =>
      cases rearms with
      | same keptBefore => exact .same (kept.trans keptBefore)
      | disarmed gone allowed => exact .disarmed (kept.trans gone) allowed
      | armed arm made fresh given apart own started =>
          refine .armed arm (kept.trans made) fresh
            (Nat.lt_of_lt_of_le given proceedsFurther.ticket) apart own fun startup => ?_
          exact Nat.lt_of_lt_of_le (started startup) proceedsFurther.generation

/-- The start of a process arms its deadline together with the next generation. -/
theorem launch (setup : Setup) (upkeep : Upkeep) :
    Rearms duty timer upkeep (upkeep.launch setup) := by
  let calm := (upkeep.disarm .restart).arm .firstProbe
    (.once setup.settings.health.initialDelay)
  have calmed : Rearms duty timer upkeep calm := by
    refine (disarm upkeep .restart (by simp)).trans ?_ ⟨Nat.le_refl _, Nat.le_refl _⟩
      ⟨Nat.le_succ _, Nat.le_refl _⟩
    exact arm _ .firstProbe _ (by simp) (by simp) (by simp)
  have arms : (upkeep.launch setup).timers.arm? = Function.update calm.timers.arm?
      .startupDeadline (some ⟨.startupDeadline, _, calm.timers.nextTicket⟩) :=
    calm.arm?_arm .startupDeadline _
  by_cases same : timer = .startupDeadline
  · subst same
    have made := congrFun arms .startupDeadline
    rw [Function.update_self] at made
    exact .armed _ made (Nat.le_succ _) (Nat.lt_succ_self _) (by simp) (by simp)
      fun _ => Nat.lt_succ_self _
  · have made := congrFun arms timer
    rw [Function.update_of_ne same] at made
    exact calmed.trans (.same made) ⟨Nat.le_succ _, Nat.le_refl _⟩
      ⟨Nat.le_succ _, Nat.le_succ _⟩

end Rearms

theorem Chore.rearms {setup : Setup} {duty : Duty} {before after : Upkeep}
    (chore : Chore setup duty before after) (timer : Timer) : Rearms duty timer before after := by
  cases chore with
  | launched idle => exact .launch setup before
  | launchFailed idle =>
      have calmed : Rearms duty timer before (before.disarm .restart) := .disarm _ _ (by simp)
      exact calmed.trans (.same rfl) ⟨Nat.le_refl _, Nat.le_refl _⟩
        ⟨Nat.le_refl _, Nat.le_succ _⟩
  | woken starting =>
      have calmed : Rearms duty timer before (before.disarm .startupDeadline) :=
        .disarm _ _ (by simp)
      have armed : Rearms duty timer (before.disarm .startupDeadline)
          ((before.disarm .startupDeadline).arm .probeInterval _) :=
        .arm _ .probeInterval (.every setup.settings.health.interval) (by simp) (by simp) (by simp)
      refine (calmed.trans armed ⟨Nat.le_refl _, Nat.le_refl _⟩
        ⟨Nat.le_succ _, Nat.le_refl _⟩).trans (.same rfl) ⟨Nat.le_succ _, Nat.le_refl _⟩
        ⟨Nat.le_refl _, Nat.le_refl _⟩
  | disarmed allowed => exact .disarm _ _ allowed
  | restartArmed rule => exact .arm _ _ rule (by simp) (by simp) (by simp)
  | @deadlineArmed id rule own =>
      refine .arm _ _ rule (by simp) (fun other same => ?_) (by simp)
      obtain rfl := Timer.callDeadline.inj same
      exact own
  | _ => exact .same rfl

theorem Chores.rearms {setup : Setup} {duty : Duty} {before after : Upkeep}
    (chores : Chores setup duty before after) (timer : Timer) :
    Rearms duty timer before after ∧ before.Proceeds after := by
  induction chores with
  | refl => exact ⟨.same rfl, Nat.le_refl _, Nat.le_refl _⟩
  | tail _ chore ih =>
      obtain ⟨rearms, proceeds⟩ := ih
      have further := chore.proceeds
      exact ⟨rearms.trans (chore.rearms timer) proceeds further,
        Nat.le_trans proceeds.ticket further.ticket,
        Nat.le_trans proceeds.generation further.generation⟩

/-- The time of grace is left alone unless it elapses. -/
theorem Chores.arm?_shutdownGrace {setup : Setup} {duty : Duty} {before after : Upkeep}
    (chores : Chores setup duty before after) (lasting : duty.elapsed? ≠ some .shutdownGrace) :
    after.timers.arm? .shutdownGrace = before.timers.arm? .shutdownGrace := by
  cases (chores.rearms .shutdownGrace).1 with
  | same kept => exact kept
  | disarmed gone allowed => exact absurd (allowed rfl) lasting
  | armed arm made fresh given apart => exact absurd rfl apart

end BrowserRelay
