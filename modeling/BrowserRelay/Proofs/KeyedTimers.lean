import BrowserRelay.Proofs.TimerTasks
import Mathlib.Data.List.Basic
import Mathlib.Data.Nat.Basic

/-!
# Timers are posted when they are due

A timer is posted at each moment at which its arm is due, once, as long as the arm stands and time
goes on, and never else.  The table is that of a scheduler without tasks in which each posted
timer elapses.
-/

namespace BrowserRelay

/-- What became of a timer: it is not armed, or it was armed at some moment. -/
inductive Arming where
  | none
  | since (start : Nat) (rule : TimerRule)

namespace Arming

/-- A timer that was armed is due after its delay, or at each multiple of its period. -/
def IsDue : Arming → Nat → Prop
  | none, _ => False
  | since start (.once delay), moment => moment = start + delay
  | since start (.every period), moment => start < moment ∧ period ∣ moment - start

instance (arming : Arming) : DecidablePred arming.IsDue := fun moment =>
  match arming with
  | none => inferInstanceAs (Decidable False)
  | since start (.once delay) => inferInstanceAs (Decidable (moment = start + delay))
  | since start (.every period) =>
      inferInstanceAs (Decidable (start < moment ∧ period ∣ moment - start))

end Arming

/-! ## The tasks of one timer -/

/-- The next moment, from one on, at which a timer is due is kept by a task, if there is one. -/
inductive IsKept (timer : Timer) : Arming → Nat → List TimerTask → Prop
  | spent {arming : Arming} {now : Nat} (never : ∀ moment, now ≤ moment → ¬arming.IsDue moment) :
      IsKept timer arming now []
  | waits {start now : Nat} {rule : TimerRule} {task : TimerTask} (own : task.timer = timer)
      (ruled : task.rule = rule) (later : now ≤ task.due)
      (isDue : Arming.IsDue (.since start rule) task.due)
      (first : ∀ moment, now ≤ moment → moment < task.due →
        ¬Arming.IsDue (.since start rule) moment) :
      IsKept timer (.since start rule) now [task]

namespace IsKept

variable {timer : Timer} {arming : Arming} {now later : Nat} {line : List TimerTask}

/-- Until the task is due the timer is not. -/
theorem not_isDue (kept : IsKept timer arming now line)
    (reached : ∀ task ∈ line, later ≤ task.due) {moment : Nat} (onward : now ≤ moment)
    (before : moment < later) : ¬arming.IsDue moment := by
  cases kept with
  | spent never => exact never moment onward
  | waits _ _ _ _ first =>
      exact first moment onward (Nat.lt_of_lt_of_le before (reached _ (List.mem_singleton.mpr rfl)))

theorem skip (kept : IsKept timer arming now line) (further : now ≤ later)
    (reached : ∀ task ∈ line, later ≤ task.due) : IsKept timer arming later line := by
  cases kept with
  | spent never => exact .spent fun moment onward => never moment (Nat.le_trans further onward)
  | waits own ruled _ isDue first =>
      exact .waits own ruled (reached _ (List.mem_singleton.mpr rfl)) isDue
        fun moment onward => first moment (Nat.le_trans further onward)

theorem perm {other : List TimerTask} (kept : IsKept timer arming now line)
    (same : line.Perm other) : IsKept timer arming now other := by
  cases kept with
  | spent never =>
      rw [← same.nil_eq]
      exact .spent never
  | waits own ruled later isDue first =>
      rw [← List.singleton_perm.mp same]
      exact .waits own ruled later isDue first

/-- At a moment at which the timer is due, the task is, and it keeps the next such moment. -/
theorem next (kept : IsKept timer arming now line) :
    IsKept timer arming (now + 1) (line.filterMap (TimerTask.next? now)) ∧
      (line.filter fun task => task.due ≤ now).map TimerTask.timer =
        if arming.IsDue now then [timer] else [] := by
  cases kept with
  | spent never =>
      refine ⟨.spent fun moment onward => never moment (Nat.le_of_succ_le onward), ?_⟩
      rw [if_neg (never now (Nat.le_refl _))]
      rfl
  | @waits start _ rule task own ruled later isDue first =>
      by_cases due : task.due ≤ now
      · obtain rfl := Nat.le_antisymm later due
        refine ⟨?_, by simp [isDue, own]⟩
        cases rule with
        | once delay =>
            have done : task.next? task.due = none := by simp [TimerTask.next?, ruled]
            rw [List.filterMap_cons_none done]
            refine .spent fun moment onward again => ?_
            have same : task.due = start + delay := isDue
            have sameAgain : moment = start + delay := again
            omega
        | every period =>
            obtain ⟨begun, multiple⟩ := isDue
            have long : 0 < period := Nat.pos_of_dvd_of_pos multiple (Nat.sub_pos_of_lt begun)
            have again : task.next? task.due = some { task with due := task.due + period } := by
              simp [TimerTask.next?, ruled]
            rw [List.filterMap_cons_some again]
            refine .waits own ruled (Nat.add_le_add_left long _) ⟨Nat.lt_add_right _ begun, ?_⟩
              fun moment onward before between => ?_
            · rw [Nat.sub_add_comm (Nat.le_of_lt begun)]
              exact Nat.dvd_add_self_right.mpr multiple
            · -- Two multiples of the period are at least a period apart.
              have apart := Nat.dvd_sub between.2 multiple
              have positive : 0 < moment - start - (task.due - start) := by omega
              have least := Nat.le_of_dvd positive apart
              have short : moment < task.due + period := before
              omega
      · have early : now < task.due := Nat.lt_of_not_le due
        rw [List.filterMap_cons_some (TimerTask.next?_of_lt early),
          if_neg (first now (Nat.le_refl _) early), List.filter_cons_of_neg (by simpa using early)]
        exact ⟨.waits own ruled early isDue
          fun moment onward => first moment (Nat.le_of_succ_le onward), rfl⟩

end IsKept

/-! ## Moments of postings -/

/-- The moments at which a timer was posted. -/
def momentsOf (timer : Timer) (postings : List (Nat × Timer)) : List Nat :=
  (postings.filter fun posting => posting.2 = timer).map Prod.fst

theorem momentsOf_append (timer : Timer) (first second : List (Nat × Timer)) :
    momentsOf timer (first ++ second) = momentsOf timer first ++ momentsOf timer second := by
  simp [momentsOf]

theorem momentsOf_at (timer : Timer) (moment : Nat) (posted : List Timer) :
    momentsOf timer (posted.map fun timer => (moment, timer)) =
      (posted.filter fun other => other = timer).map fun _ => moment := by
  simp [momentsOf, List.filter_map, Function.comp_def]

namespace Scheduler

variable {scheduler : Scheduler} {timer : Timer} {arming : Arming} {moment : Nat}

/-- The tasks of a timer. -/
def tasksOf (scheduler : Scheduler) (timer : Timer) : List TimerTask :=
  scheduler.tasks.filter fun task => task.timer = timer

theorem filter_next? (timer : Timer) (moment : Nat) (line : List TimerTask) :
    (line.filterMap (TimerTask.next? moment)).filter (fun task => task.timer = timer) =
      (line.filter fun task => task.timer = timer).filterMap (TimerTask.next? moment) := by
  induction line with
  | nil => rfl
  | cons task line ih =>
      by_cases own : task.timer = timer <;> cases next : task.next? moment with
      | none => simp [own, next, ih]
      | some later =>
          have same : later.timer = task.timer :=
            congrArg TimerArm.timer (TimerTask.arm_of_next? next)
          simp [own, next, same, ih]

/-- What is posted as time passes up to a moment at most, each time with the moment. -/
def postingsTo : (fuel : Nat) → (moment : Nat) → Scheduler → List (Nat × Timer)
  | 0, _, _ => []
  | fuel + 1, moment, scheduler =>
      let (posted, settled) := scheduler.settle
      let now := posted.map fun timer => (scheduler.now, timer)
      match settled.nextDue? with
      | none => now
      | some due => if due < moment then now ++ postingsTo fuel moment (settled.wake due) else now

theorem map_snd_postingsTo (fuel moment : Nat) (scheduler : Scheduler) :
    (postingsTo fuel moment scheduler).map Prod.snd = (advanceTo fuel moment scheduler).1 := by
  induction fuel generalizing scheduler with
  | zero => rfl
  | succ fuel ih =>
      cases next : scheduler.settle.2.nextDue? with
      | none => simp [postingsTo, advanceTo, next, Function.comp_def]
      | some due =>
          by_cases between : due < moment
          · simp [postingsTo, advanceTo, next, between, ih, Function.comp_def]
          · simp [postingsTo, advanceTo, next, between, Function.comp_def]

/-- The next moment is that at which a task is due, or else the last one. -/
theorem pass_cases (sound : scheduler.IsSound) (fuel moment : Nat) :
    (∃ due, scheduler.now < due ∧ due < moment ∧
        (∀ task ∈ scheduler.settle.2.waiting, due ≤ task.due) ∧
        postingsTo (fuel + 1) moment scheduler =
          scheduler.settle.1.map (fun timer => (scheduler.now, timer)) ++
            postingsTo fuel moment (scheduler.settle.2.wake due) ∧
        advanceTo (fuel + 1) moment scheduler =
          (scheduler.settle.1 ++ (advanceTo fuel moment (scheduler.settle.2.wake due)).1,
            (advanceTo fuel moment (scheduler.settle.2.wake due)).2)) ∨
      (∀ task ∈ scheduler.settle.2.waiting, moment ≤ task.due) ∧
        postingsTo (fuel + 1) moment scheduler =
          scheduler.settle.1.map (fun timer => (scheduler.now, timer)) ∧
        advanceTo (fuel + 1) moment scheduler =
          (scheduler.settle.1, scheduler.settle.2.wake moment) := by
  have now : scheduler.settle.2.now = scheduler.now := by rw [settle_eq]
  cases next : scheduler.settle.2.nextDue? with
  | none =>
      have none : scheduler.settle.2.waiting = [] := by
        simpa [nextDue?, List.min?_eq_none_iff] using next
      exact .inr ⟨by simp [none], by simp [postingsTo, next], by simp [advanceTo, next]⟩
  | some due =>
      obtain ⟨listed, least⟩ := List.min?_eq_some_iff.mp next
      have reached (task : TimerTask) (waits : task ∈ scheduler.settle.2.waiting) :
          due ≤ task.due := least _ (List.mem_map_of_mem waits)
      by_cases between : due < moment
      · obtain ⟨task, waits, rfl⟩ := List.mem_map.mp listed
        have passed := sound.settle.1.waiting task waits
        rw [now] at passed
        exact .inl ⟨task.due, passed, between, reached, by simp [postingsTo, next, between],
          by simp [advanceTo, next, between]⟩
      · exact .inr ⟨fun task waits => Nat.le_trans (Nat.le_of_not_lt between) (reached task waits),
          by simp [postingsTo, next, between], by simp [advanceTo, next, between]⟩

/-- Up to the next moment at which a task is due, a timer is posted if its arm is due now. -/
theorem settle_wake (sound : scheduler.IsSound)
    (kept : IsKept timer arming scheduler.now (scheduler.tasksOf timer))
    (later : scheduler.now < moment)
    (reached : ∀ task ∈ scheduler.settle.2.waiting, moment ≤ task.due) :
    IsKept timer arming moment ((scheduler.settle.2.wake moment).tasksOf timer) ∧
      momentsOf timer (scheduler.settle.1.map fun timer => (scheduler.now, timer)) =
        (List.range' scheduler.now (moment - scheduler.now)).filter arming.IsDue := by
  obtain ⟨keptNext, posted⟩ := kept.next
  rw [tasksOf, ← filter_next?, ← tasks_settle sound] at keptNext
  have reachedAll : ∀ task ∈ scheduler.settle.2.tasksOf timer, moment ≤ task.due := by
    intro task listed
    have listed := List.mem_of_mem_filter listed
    rw [tasks, sound.settle.2, List.append_nil] at listed
    exact reached task listed
  constructor
  · exact (keptNext.skip later reachedAll).perm ((tasks_wake _ _).filter _).symm
  · have span : moment - scheduler.now = moment - scheduler.now - 1 + 1 := by omega
    have nothing : (List.range' (scheduler.now + 1) (moment - scheduler.now - 1)).filter
        arming.IsDue = [] := by
      refine List.filter_eq_nil_iff.mpr fun other among => ?_
      have bounds := List.mem_range'_1.mp among
      simpa using keptNext.not_isDue reachedAll bounds.1 (by omega)
    have now : (scheduler.settle.1.filter fun other => other = timer) =
        if arming.IsDue scheduler.now then [timer] else [] := by
      rw [← posted, posted_settle sound, List.filter_map, tasksOf, List.filter_comm]
      rfl
    rw [momentsOf_at, now, span, List.range'_succ, List.filter_cons, nothing]
    by_cases isDue : arming.IsDue scheduler.now <;> simp [isDue]

/-- What the passing of time does to the table, and what is posted meanwhile. -/
structure Passes (before : Scheduler) (postings : List (Nat × Timer)) (after : Scheduler) :
    Prop where
  sound : after.IsSound
  onward : before.now ≤ after.now
  fires : before.table.fireAll? (postings.map Prod.snd) = some after.table
  ticket : after.table.nextTicket = before.table.nextTicket
  arms : after.table.arms ⊆ before.table.arms
  kept : ∀ timer arming, IsKept timer arming before.now (before.tasksOf timer) →
    IsKept timer arming after.now (after.tasksOf timer) ∧
      momentsOf timer postings =
        (List.range' before.now (after.now - before.now)).filter arming.IsDue

namespace Passes

variable {before middle after : Scheduler} {postings further : List (Nat × Timer)}

theorem refl (sound : scheduler.IsSound) : Passes scheduler [] scheduler where
  sound := sound
  onward := Nat.le_refl _
  fires := rfl
  ticket := rfl
  arms := List.Subset.refl _
  kept timer arming kept := by simpa [momentsOf] using kept

theorem trans (first : Passes before postings middle) (second : Passes middle further after) :
    Passes before (postings ++ further) after where
  sound := second.sound
  onward := Nat.le_trans first.onward second.onward
  fires := by rw [List.map_append, TimerTable.fireAll?_append, first.fires, Option.bind_some,
    second.fires]
  ticket := second.ticket.trans first.ticket
  arms := List.Subset.trans second.arms first.arms
  kept timer arming kept := by
    obtain ⟨keptMiddle, moments⟩ := first.kept timer arming kept
    obtain ⟨keptAfter, momentsLater⟩ := second.kept timer arming keptMiddle
    have span : after.now - before.now =
        (middle.now - before.now) + (after.now - middle.now) := by
      have := first.onward
      have := second.onward
      omega
    have joint : before.now + (middle.now - before.now) = middle.now :=
      Nat.add_sub_of_le first.onward
    rw [momentsOf_append, moments, momentsLater, span, ← List.range'_append_1, joint,
      List.filter_append]
    exact ⟨keptAfter, rfl⟩

/-- The turns at one moment, up to the next one. -/
theorem settle (sound : scheduler.IsSound) (later : scheduler.now < moment)
    (reached : ∀ task ∈ scheduler.settle.2.waiting, moment ≤ task.due) :
    Passes scheduler (scheduler.settle.1.map fun timer => (scheduler.now, timer))
      (scheduler.settle.2.wake moment) where
  sound := sound.settle.1.wake sound.settle.2 reached
  onward := Nat.le_of_lt later
  fires := by
    rw [List.map_map, wake_eq]
    exact (congrArg _ (List.map_id _)).trans (fireAll?_settle sound)
  ticket := by
    rw [wake_eq, settle_eq]
    exact nextTicket_foldl _ _
  arms := by
    rw [wake_eq]
    exact fun arm listed => ((mem_arms_settle sound).mp listed).1
  kept timer arming kept := settle_wake sound kept later reached

end Passes

theorem passes_advanceTo (fuel : Nat) (sound : scheduler.IsSound) (later : scheduler.now < moment)
    (enough : moment ≤ scheduler.now + fuel) :
    Passes scheduler (postingsTo fuel moment scheduler) (advanceTo fuel moment scheduler).2 ∧
      (advanceTo fuel moment scheduler).2.now = moment := by
  induction fuel generalizing scheduler with
  | zero => exact absurd later (Nat.not_lt.mpr enough)
  | succ fuel ih =>
      rcases pass_cases sound fuel moment with
        ⟨due, passed, between, reached, postings, advanced⟩ | ⟨reached, postings, advanced⟩
      · have first := Passes.settle sound passed reached
        have now : (scheduler.settle.2.wake due).now = due := rfl
        obtain ⟨rest, ended⟩ := ih first.sound between (by omega)
        rw [postings, advanced]
        exact ⟨first.trans rest, ended⟩
      · rw [postings, advanced]
        exact ⟨.settle sound later reached, rfl⟩

/-- Up to the end of a span of time each timer is posted at the moments at which it is due. -/
theorem passes_advance (sound : scheduler.IsSound) (milliseconds : Nat) :
    Passes scheduler (postingsTo milliseconds (scheduler.now + milliseconds) scheduler)
        (scheduler.advance milliseconds).2 ∧
      (scheduler.advance milliseconds).2.now = scheduler.now + milliseconds := by
  cases milliseconds with
  | zero => exact ⟨.refl sound, rfl⟩
  | succ milliseconds =>
      exact passes_advanceTo _ sound (Nat.lt_add_of_pos_right (Nat.succ_pos _)) (Nat.le_refl _)

/-! ## Steps -/

/-- What is done to a scheduler. -/
inductive Step where
  | schedule (timer : Timer) (rule : TimerRule)
  | cancel (timer : Timer)
  | cancelAll
  | advance (milliseconds : Nat)

namespace Step

/-- How much time passes in a step. -/
def duration : Step → Nat
  | advance milliseconds => milliseconds
  | _ => 0

def Arms (timer : Timer) : Step → Prop
  | schedule other _ => other = timer
  | _ => False

def Cancels (timer : Timer) : Step → Prop
  | cancel other => other = timer
  | cancelAll => True
  | _ => False

/-- What becomes of a timer in a step. -/
def rearm (timer : Timer) (now : Nat) (arming : Arming) : Step → Arming
  | schedule other rule => if other = timer then .since now rule else arming
  | cancel other => if other = timer then .none else arming
  | cancelAll => .none
  | advance _ => arming

end Step

/-- A step: what is posted in it, and the scheduler after it. -/
def perform (scheduler : Scheduler) : Step → List Timer × Scheduler
  | .schedule timer rule => ([], scheduler.schedule timer rule)
  | .cancel timer => ([], scheduler.cancel timer)
  | .cancelAll => ([], scheduler.cancelAll)
  | .advance milliseconds => scheduler.advance milliseconds

def performAll : List Step → Scheduler → List Timer × Scheduler
  | [], scheduler => ([], scheduler)
  | step :: steps, scheduler =>
      let (posted, scheduler) := scheduler.perform step
      let (later, scheduler) := performAll steps scheduler
      (posted ++ later, scheduler)

/-- What is posted in a step, each time with the moment. -/
def postings (scheduler : Scheduler) : Step → List (Nat × Timer)
  | .advance milliseconds =>
      postingsTo milliseconds (scheduler.now + milliseconds) scheduler
  | _ => []

/-- What is posted in steps, each time with the moment. -/
def trace : List Step → Scheduler → List (Nat × Timer)
  | [], _ => []
  | step :: steps, scheduler => scheduler.postings step ++ trace steps (scheduler.perform step).2

/-- How much time passes in steps. -/
def elapsed : List Step → Nat
  | [] => 0
  | step :: steps => step.duration + elapsed steps

/-- The moments in steps at which a timer is due. -/
def dueMoments (timer : Timer) : List Step → Nat → Arming → List Nat
  | [], _, _ => []
  | step :: steps, now, arming =>
      let later := step.rearm timer now arming
      (List.range' now step.duration).filter later.IsDue ++
        dueMoments timer steps (now + step.duration) later

/-- A step on the table alone, in which the timers that are posted elapse. -/
def follow? (table : TimerTable) (posted : List Timer) : Step → Option TimerTable
  | .schedule timer rule => some (table.schedule timer rule)
  | .cancel timer => some (table.cancel timer)
  | .cancelAll => some table.cancelAll
  | .advance _ => table.fireAll? posted

/-- Steps on the table alone, in which the timers that a scheduler posts elapse. -/
def followAll? : List Step → Scheduler → TimerTable → Option TimerTable
  | [], _, table => some table
  | step :: steps, scheduler, table =>
      (follow? table (scheduler.perform step).1 step).bind
        (followAll? steps (scheduler.perform step).2)

theorem map_snd_postings (scheduler : Scheduler) (step : Step) :
    (scheduler.postings step).map Prod.snd = (scheduler.perform step).1 := by
  cases step with
  | advance milliseconds => exact map_snd_postingsTo _ _ _
  | _ => rfl

theorem map_snd_trace (steps : List Step) (scheduler : Scheduler) :
    (trace steps scheduler).map Prod.snd = (performAll steps scheduler).1 := by
  induction steps generalizing scheduler with
  | nil => rfl
  | cons step steps ih => rw [trace, List.map_append, map_snd_postings, ih, performAll]

theorem performAll_append (first second : List Step) (scheduler : Scheduler) :
    (performAll (first ++ second) scheduler).2 =
      (performAll second (performAll first scheduler).2).2 := by
  induction first generalizing scheduler with
  | nil => rfl
  | cons step first ih => exact ih _

/-! ## What a step does -/

theorem tasksOf_retain (scheduler : Scheduler) (keep : Timer → Bool) (timer : Timer) :
    (scheduler.retain keep).tasksOf timer =
      if keep timer then scheduler.tasksOf timer else [] := by
  rw [tasksOf, tasks_retain, List.filter_filter]
  split
  case isTrue kept =>
    refine List.filter_congr fun task _ => ?_
    by_cases own : task.timer = timer <;> simp [own, kept]
  case isFalse gone =>
    refine List.filter_eq_nil_iff.mpr fun task _ => ?_
    by_cases own : task.timer = timer <;> simp [own, gone]

/-- The task of a new arm keeps the first moment at which it is due. -/
theorem isKept_taskOf? (timer : Timer) (rule : TimerRule) (ticket now : Nat) :
    IsKept timer (.since now rule) now (taskOf? now ⟨timer, rule, ticket⟩).toList := by
  cases rule with
  | once delay =>
      refine .waits rfl rfl (Nat.le_add_right now delay) rfl fun moment _ before due => ?_
      exact absurd (show moment = now + delay from due) (Nat.ne_of_lt before)
  | every period =>
      cases period with
      | zero =>
          refine .spent fun moment onward due => ?_
          have none : moment - now = 0 := Nat.eq_zero_of_zero_dvd due.2
          exact absurd due.1 (by omega)
      | succ period =>
          have due : Arming.IsDue (.since now (.every (period + 1))) (now + (period + 1)) :=
            ⟨by omega, by simp⟩
          refine .waits rfl rfl (Nat.le_add_right now _) due fun moment _ before between => ?_
          have least := Nat.le_of_dvd (Nat.sub_pos_of_lt between.1) between.2
          have short : moment < now + (period + 1) := before
          omega

theorem tasksOf_schedule (sound : scheduler.IsSound) (other timer : Timer) (rule : TimerRule) :
    (scheduler.schedule other rule).tasksOf timer =
      if other = timer then
        (taskOf? scheduler.now ⟨other, rule, scheduler.table.nextTicket⟩).toList
      else scheduler.tasksOf timer := by
  have kept := scheduler.tasksOf_retain (fun timer => timer ≠ other) timer
  have new : (taskOf? scheduler.now ⟨other, rule, scheduler.table.nextTicket⟩).toList.filter
      (fun task => task.timer = timer) =
        if other = timer then
          (taskOf? scheduler.now ⟨other, rule, scheduler.table.nextTicket⟩).toList
        else [] := by
    cases made : taskOf? scheduler.now ⟨other, rule, scheduler.table.nextTicket⟩ with
    | none => simp
    | some task =>
        have own : task.timer = other := congrArg TimerArm.timer (arm_of_taskOf? made).1
        by_cases same : other = timer <;> simp [own, same]
  rw [tasksOf] at kept
  rw [schedule_eq sound, tasksOf, tasks_start, List.filter_append, kept]
  refine (congrArg _ new).trans ?_
  by_cases same : other = timer
  · simp [same]
  · simp [same, Ne.symm same]

/-- What a step does to the table, to the time and to each timer. -/
structure Performs (before : Scheduler) (step : Step) (after : Scheduler) : Prop where
  sound : after.IsSound
  now : after.now = before.now + step.duration
  follows : follow? before.table (before.perform step).1 step = some after.table
  ticket : before.table.nextTicket ≤ after.table.nextTicket
  arms : ∀ arm ∈ after.table.arms, arm.ticket < before.table.nextTicket →
    arm ∈ before.table.arms
  kept : ∀ timer arming, IsKept timer arming before.now (before.tasksOf timer) →
    let later := step.rearm timer before.now arming
    IsKept timer later after.now (after.tasksOf timer) ∧
      momentsOf timer (before.postings step) =
        (List.range' before.now step.duration).filter later.IsDue

/-- Some timers are cancelled. -/
theorem performs_retain (sound : scheduler.IsSound) (keep : Timer → Bool) {step : Step}
    (instant : step.duration = 0) (silent : scheduler.postings step = [])
    (follows : follow? scheduler.table (scheduler.perform step).1 step =
      some (scheduler.table.retain keep))
    (rearms : ∀ timer arming, step.rearm timer scheduler.now arming =
      if keep timer then arming else .none) :
    Performs scheduler step (scheduler.retain keep) where
  sound := sound.retain keep
  now := by rw [instant]; rfl
  follows := follows
  ticket := Nat.le_refl _
  arms arm listed _ := List.mem_of_mem_filter listed
  kept timer arming kept := by
    dsimp only
    rw [rearms, tasksOf_retain, instant, silent]
    refine ⟨?_, rfl⟩
    cases keep timer with
    | true => exact kept
    | false => exact .spent fun _ _ due => due

theorem performs (sound : scheduler.IsSound) (step : Step) :
    Performs scheduler step (scheduler.perform step).2 := by
  cases step with
  | schedule other rule =>
      refine ⟨sound.schedule other rule, rfl, rfl, Nat.le_succ _, fun arm listed earlier => ?arms,
        fun timer arming kept => ?kept⟩
      case arms =>
        rcases List.mem_append.mp listed with old | new
        · exact List.mem_of_mem_filter old
        · rw [List.mem_singleton.mp new] at earlier
          exact absurd earlier (Nat.lt_irrefl _)
      case kept =>
        have tasks := tasksOf_schedule sound other timer rule
        refine ⟨?_, rfl⟩
        rw [perform, tasks, Step.rearm]
        by_cases same : other = timer
        · rw [if_pos same, if_pos same, ← same]
          exact isKept_taskOf? _ _ _ _
        · rw [if_neg same, if_neg same]
          exact kept
  | cancel other =>
      rw [perform, cancel_eq sound]
      refine performs_retain sound _ rfl rfl rfl fun timer arming => ?_
      by_cases same : other = timer
      · simp [Step.rearm, same]
      · simp [Step.rearm, same, Ne.symm same]
  | cancelAll =>
      rw [perform, cancelAll_eq sound]
      exact performs_retain sound _ rfl rfl
        (congrArg some scheduler.table.cancelAll_eq_retain) fun _ _ => rfl
  | advance milliseconds =>
      obtain ⟨passes, now⟩ := passes_advance sound milliseconds
      refine ⟨passes.sound, now, ?follows, Nat.le_of_eq passes.ticket.symm,
        fun arm listed _ => passes.arms listed, fun timer arming kept => ?kept⟩
      case follows =>
        rw [← map_snd_postings]
        exact passes.fires
      case kept =>
        obtain ⟨keptAfter, moments⟩ := passes.kept timer arming kept
        rw [now, Nat.add_sub_cancel_left] at moments
        exact ⟨keptAfter, moments⟩

/-! ## Runs -/

/-- What steps do to the table, to the time and to each timer. -/
structure PerformsAll (before : Scheduler) (steps : List Step) (after : Scheduler) : Prop where
  sound : after.IsSound
  now : after.now = before.now + elapsed steps
  follows : followAll? steps before before.table = some after.table
  ticket : before.table.nextTicket ≤ after.table.nextTicket
  arms : ∀ arm ∈ after.table.arms, arm.ticket < before.table.nextTicket →
    arm ∈ before.table.arms
  kept : ∀ timer arming, IsKept timer arming before.now (before.tasksOf timer) →
    (∃ later, IsKept timer later after.now (after.tasksOf timer)) ∧
      momentsOf timer (trace steps before) = dueMoments timer steps before.now arming

theorem performsAll (sound : scheduler.IsSound) (steps : List Step) :
    PerformsAll scheduler steps (performAll steps scheduler).2 := by
  induction steps generalizing scheduler with
  | nil =>
      exact ⟨sound, rfl, rfl, Nat.le_refl _, fun arm listed _ => listed,
        fun timer arming kept => ⟨⟨arming, kept⟩, rfl⟩⟩
  | cons step steps ih =>
      have first := performs sound step
      have rest := ih first.sound
      refine ⟨rest.sound, ?now, ?follows, Nat.le_trans first.ticket rest.ticket,
        fun arm listed earlier => ?arms, fun timer arming kept => ?kept⟩
      case now =>
        rw [performAll, rest.now, first.now, elapsed, Nat.add_assoc]
      case follows =>
        rw [followAll?, first.follows, Option.bind_some]
        exact rest.follows
      case arms =>
        have later := rest.arms arm listed (Nat.lt_of_lt_of_le earlier first.ticket)
        exact first.arms arm later earlier
      case kept =>
        obtain ⟨keptNext, now⟩ := first.kept timer arming kept
        obtain ⟨keptAfter, later⟩ := rest.kept timer _ keptNext
        refine ⟨keptAfter, ?_⟩
        rw [trace, momentsOf_append, now, later, first.now, dueMoments]

/-- The scheduler after steps from the start. -/
def after (steps : List Step) : Scheduler := (performAll steps {}).2

theorem performsAll_initial (steps : List Step) : PerformsAll {} steps (after steps) :=
  performsAll isSound_initial steps

theorem after_append (before rest : List Step) :
    after (before ++ rest) = (performAll rest (after before)).2 :=
  performAll_append before rest {}

theorem now_after (steps : List Step) : (after steps).now = elapsed steps :=
  (performsAll_initial steps).now.trans (Nat.zero_add _)

theorem isKept_initial (timer : Timer) : IsKept timer .none 0 (tasksOf {} timer) :=
  .spent fun _ _ due => due

/-- Once a timer was armed or cancelled, it does not matter what was before. -/
theorem momentsOf_trace_after (timer : Timer) (before : List Step) {last : Step} {arming : Arming}
    (rearmed : ∀ earlier, last.rearm timer (elapsed before) earlier = arming)
    (instant : last.duration = 0) (rest : List Step) :
    momentsOf timer (trace rest (after (before ++ [last]))) =
      dueMoments timer rest (elapsed before) arming := by
  have past := performsAll_initial before
  obtain ⟨earlier, kept⟩ := (past.kept timer .none (isKept_initial timer)).1
  have step := performs past.sound last
  have keptNext := (step.kept timer earlier kept).1
  rw [now_after, rearmed] at keptNext
  have now : ((after before).perform last).2.now = elapsed before := by
    rw [step.now, instant, now_after]
    rfl
  have moments := ((performsAll step.sound rest).kept timer arming keptNext).2
  rw [now] at moments
  rw [after_append]
  exact moments

theorem dueMoments_of_left {timer : Timer} {arming : Arming} {steps : List Step}
    (left : ∀ step ∈ steps, ∀ now, step.rearm timer now arming = arming) (now : Nat) :
    dueMoments timer steps now arming =
      (List.range' now (elapsed steps)).filter arming.IsDue := by
  induction steps generalizing now with
  | nil => rfl
  | cons step steps ih =>
      obtain ⟨first, rest⟩ := List.forall_mem_cons.mp left
      rw [dueMoments, first now, ih rest, ← List.filter_append, List.range'_append_1, elapsed]

theorem rearm_of_spared {step : Step} (unarmed : ¬step.Arms timer)
    (uncancelled : ¬step.Cancels timer) (now : Nat) (arming : Arming) :
    step.rearm timer now arming = arming := by
  cases step with
  | schedule other rule => exact if_neg unarmed
  | cancel other => exact if_neg uncancelled
  | cancelAll => exact absurd trivial uncancelled
  | advance milliseconds => rfl

theorem rearm_none {step : Step} (unarmed : ¬step.Arms timer) (now : Nat) :
    step.rearm timer now .none = .none := by
  cases step with
  | schedule other rule => exact if_neg unarmed
  | cancel other => exact ite_self _
  | _ => rfl

theorem rearm_of_cancels {step : Step} (cancels : step.Cancels timer) (now : Nat)
    (arming : Arming) : step.rearm timer now arming = .none := by
  cases step with
  | cancel other => exact if_pos cancels
  | cancelAll => rfl
  | _ => exact cancels.elim

/-- The turn of a task takes away its own arm at most. -/
theorem mem_arms_turn (before rest : List Step) {task : TimerTask} {arm : TimerArm}
    (held : task ∈ (after before).tasks) (listed : arm ∈ (after (before ++ rest)).table.arms)
    (other : arm ≠ task.arm) :
    arm ∈ ((after (before ++ rest)).turn task).2.table.arms := by
  have sound := (performsAll_initial before).sound
  have stands : task.arm ∈ (after before).table.arms := sound.backed task held
  have apart : arm.ticket ≠ task.ticket := by
    intro same
    have given : task.ticket < (after before).table.nextTicket := sound.table.given _ stands
    rw [after_append] at listed
    have old := (performsAll sound rest).arms arm listed (same ▸ given)
    exact other (sound.table.eq_of_ticket old stands same)
  rw [turn_eq]
  exact (mem_arms_foldl [task]).mpr ⟨listed, by simpa using fun _ => apart⟩

/-- After a timer was armed, and till it is armed again or cancelled, it is posted when it is
due. -/
theorem momentsOf_armed (timer : Timer) (before rest : List Step) (rule : TimerRule)
    (spared : ∀ step ∈ rest, ¬step.Arms timer ∧ ¬step.Cancels timer) :
    momentsOf timer (trace rest (after (before ++ [.schedule timer rule]))) =
      (List.range' (elapsed before) (elapsed rest)).filter
        (Arming.since (elapsed before) rule).IsDue := by
  have rearmed (earlier : Arming) :
      (Step.schedule timer rule).rearm timer (elapsed before) earlier =
        .since (elapsed before) rule := if_pos rfl
  rw [momentsOf_trace_after timer before rearmed rfl]
  exact dueMoments_of_left (fun step listed now =>
    rearm_of_spared (spared step listed).1 (spared step listed).2 now _) _

theorem momentsOf_once (timer : Timer) (before rest : List Step) (delay : Nat)
    (spared : ∀ step ∈ rest, ¬step.Arms timer ∧ ¬step.Cancels timer) :
    momentsOf timer (trace rest (after (before ++ [.schedule timer (.once delay)]))) =
      if delay < elapsed rest then [elapsed before + delay] else [] := by
  have isDue :
      (fun moment => decide (Arming.IsDue (.since (elapsed before) (.once delay)) moment)) =
        fun moment => moment == elapsed before + delay := rfl
  have within : elapsed before + delay ∈ List.range' (elapsed before) (elapsed rest) ↔
      delay < elapsed rest := by
    rw [List.mem_range'_1]
    omega
  rw [momentsOf_armed timer before rest _ spared, isDue, List.filter_beq,
    (List.nodup_range' 1).count]
  by_cases passes : delay < elapsed rest
  · simp [within, passes]
  · simp [within, passes]

theorem momentsOf_cancelled (timer : Timer) (before rest : List Step) {last : Step}
    (cancels : last.Cancels timer) (unarmed : ∀ step ∈ rest, ¬step.Arms timer) :
    momentsOf timer (trace rest (after (before ++ [last]))) = [] := by
  have instant : last.duration = 0 := by
    cases last with
    | advance milliseconds => exact cancels.elim
    | _ => rfl
  rw [momentsOf_trace_after timer before (rearm_of_cancels cancels _) instant,
    dueMoments_of_left fun step listed now => rearm_none (unarmed step listed) now]
  exact List.filter_eq_nil_iff.mpr fun _ _ => of_decide_eq_true rfl

theorem momentsOf_unarmed (timer : Timer) {steps : List Step}
    (unarmed : ∀ step ∈ steps, ¬step.Arms timer) : momentsOf timer (trace steps {}) = [] := by
  rw [((performsAll_initial steps).kept timer .none (isKept_initial timer)).2,
    dueMoments_of_left fun step listed now => rearm_none (unarmed step listed) now]
  exact List.filter_eq_nil_iff.mpr fun _ _ => of_decide_eq_true rfl

/-- Timers elapse one by one as they are due.  A timer that was armed and then left alone is
posted once after its delay, or at each multiple of its period; one that is not armed is not
posted.  The table is that in which each timer that is posted elapses.  The turn of a task takes
away no arm but the one that it was started for. -/
theorem timers_are_posted_when_due :
    (∀ steps, (trace steps {}).map Prod.snd = (performAll steps {}).1 ∧
      (after steps).now = elapsed steps ∧
      followAll? steps {} {} = some (after steps).table ∧
      ∀ timer, momentsOf timer (trace steps {}) = dueMoments timer steps 0 .none) ∧
    (∀ timer before rest, (∀ step ∈ rest, ¬Step.Arms timer step ∧ ¬Step.Cancels timer step) →
      (∀ delay,
        momentsOf timer (trace rest (after (before ++ [.schedule timer (.once delay)]))) =
          if delay < elapsed rest then [elapsed before + delay] else []) ∧
      ∀ period,
        momentsOf timer (trace rest (after (before ++ [.schedule timer (.every period)]))) =
          (List.range' (elapsed before) (elapsed rest)).filter fun moment =>
            elapsed before < moment ∧ period ∣ moment - elapsed before) ∧
    (∀ timer rest, (∀ step ∈ rest, ¬Step.Arms timer step) →
      momentsOf timer (trace rest {}) = [] ∧
      ∀ before last, Step.Cancels timer last →
        momentsOf timer (trace rest (after (before ++ [last]))) = []) ∧
    ∀ before rest, ∀ task ∈ (after before).tasks,
      task.arm ∈ (after before).table.arms ∧
      ∀ arm ∈ (after (before ++ rest)).table.arms, arm ≠ task.arm →
        arm ∈ ((after (before ++ rest)).turn task).2.table.arms := by
  refine ⟨fun steps => ?_, fun timer before rest spared => ?_, fun timer rest unarmed => ?_,
    fun before rest task held => ?_⟩
  · have all := performsAll_initial steps
    exact ⟨map_snd_trace steps {}, now_after steps, all.follows,
      fun timer => (all.kept timer .none (isKept_initial timer)).2⟩
  · exact ⟨fun delay => momentsOf_once timer before rest delay spared,
      fun period => momentsOf_armed timer before rest (.every period) spared⟩
  · exact ⟨momentsOf_unarmed timer unarmed,
      fun before last cancels => momentsOf_cancelled timer before rest cancels unarmed⟩
  · exact ⟨(performsAll_initial before).sound.backed task held,
      fun arm listed other => mem_arms_turn before rest held listed other⟩

/-- A timer is armed anew before it is due, while another one elapses twice and is cancelled.  The
task of the first arm would not take away the second. -/
theorem rearmed_timer_is_posted_once :
    let before : List Step :=
      [.schedule .restart (.once 5), .schedule .probeInterval (.every 4), .advance 3]
    let again := Step.schedule .restart (.once 10)
    let rest : List Step := [.advance 6, .cancel .probeInterval, .advance 20]
    let first : TimerTask := ⟨.restart, .once 5, 0, 5⟩
    momentsOf .restart (trace rest (after (before ++ [again]))) = [13] ∧
      momentsOf .probeInterval (trace (before ++ again :: rest) {}) = [4, 8] ∧
      momentsOf .probeInterval
        (trace [.advance 20] (after (before ++ [.advance 6, .cancel .probeInterval]))) = [] ∧
      ⟨.restart, .once 10, 2⟩ ∈ ((after (before ++ [again])).turn first).2.table.arms ∧
      (after (before ++ again :: rest)).table.arms = [] := by
  intro before again rest first
  obtain ⟨all, armed, unarmed, kept⟩ := timers_are_posted_when_due
  have spared : ∀ step ∈ rest, ¬step.Arms .restart ∧ ¬step.Cancels .restart := by
    simp [rest, Step.Arms, Step.Cancels]
  obtain ⟨once, -⟩ := armed .restart before rest spared
  obtain ⟨-, -, -, moments⟩ := all (before ++ again :: rest)
  obtain ⟨-, cancelled⟩ := unarmed .probeInterval [.advance 20] (by simp [Step.Arms])
  have none := cancelled (before ++ [.advance 6]) (.cancel .probeInterval) rfl
  rw [List.append_assoc] at none
  obtain ⟨-, others⟩ := kept before [again] first (by decide +kernel)
  refine ⟨(once 10).trans (by decide), (moments .probeInterval).trans (by decide +kernel), none,
    others _ (by decide +kernel) (by decide), by decide +kernel⟩

end Scheduler

end BrowserRelay
