import BrowserRelay.Timers.Tasks
import Mathlib.Data.List.Nodup

/-!
# Tasks and their arms

Each task was started for an arm that stands in the table, and no other task was started for it.
Arming a timer anew and cancelling it end the task of its earlier arm.  At any moment the tasks
that are due then have their turns, and each of the others waits until a later one.
-/

namespace BrowserRelay

/-! ## Tables -/

/-- Each timer has one arm, and each arm a ticket of its own that was given out already. -/
structure TimerTable.IsSound (table : TimerTable) : Prop where
  timers : (table.arms.map TimerArm.timer).Nodup
  tickets : (table.arms.map TimerArm.ticket).Nodup
  given : ∀ arm ∈ table.arms, arm.ticket < table.nextTicket

namespace TimerTable

variable {table : TimerTable} {arm other : TimerArm}

/-- The table without the arm that has a ticket. -/
def forget (table : TimerTable) (ticket : Nat) : TimerTable :=
  { table with arms := table.arms.filter fun arm => arm.ticket ≠ ticket }

/-- The table with the arms of some timers only. -/
def retain (table : TimerTable) (keep : Timer → Bool) : TimerTable :=
  { table with arms := table.arms.filter fun arm => keep arm.timer }

/-- The table with a new arm. -/
def start (table : TimerTable) (timer : Timer) (rule : TimerRule) : TimerTable :=
  { arms := table.arms ++ [⟨timer, rule, table.nextTicket⟩], nextTicket := table.nextTicket + 1 }

theorem cancel_eq_retain (table : TimerTable) (timer : Timer) :
    table.cancel timer = table.retain fun other => other ≠ timer := rfl

theorem cancelAll_eq_retain (table : TimerTable) :
    table.cancelAll = table.retain fun _ => false := by
  simp [cancelAll, retain]

namespace IsSound

theorem eq_of_ticket (sound : table.IsSound) (first : arm ∈ table.arms)
    (second : other ∈ table.arms) (same : arm.ticket = other.ticket) : arm = other :=
  List.inj_on_of_nodup_map sound.tickets first second same

theorem eq_of_timer (sound : table.IsSound) (first : arm ∈ table.arms)
    (second : other ∈ table.arms) (same : arm.timer = other.timer) : arm = other :=
  List.inj_on_of_nodup_map sound.timers first second same

theorem filter (sound : table.IsSound) (keep : TimerArm → Bool) :
    IsSound { table with arms := table.arms.filter keep } where
  timers := sound.timers.sublist (List.filter_sublist.map _)
  tickets := sound.tickets.sublist (List.filter_sublist.map _)
  given arm listed := sound.given arm (List.mem_of_mem_filter listed)

theorem start {timer : Timer} (sound : table.IsSound)
    (unarmed : ∀ arm ∈ table.arms, arm.timer ≠ timer) (rule : TimerRule) :
    (table.start timer rule).IsSound where
  timers := by
    simpa [TimerTable.start, List.nodup_append] using ⟨sound.timers, unarmed⟩
  tickets := by
    have fresh (arm : TimerArm) (listed : arm ∈ table.arms) : arm.ticket ≠ table.nextTicket :=
      Nat.ne_of_lt (sound.given arm listed)
    simpa [TimerTable.start, List.nodup_append] using ⟨sound.tickets, fresh⟩
  given arm listed := by
    rcases List.mem_append.mp listed with old | new
    · exact Nat.lt_succ_of_lt (sound.given arm old)
    · rw [List.mem_singleton.mp new]
      exact Nat.lt_succ_self _

end IsSound

end TimerTable

/-! ## Turns -/

namespace TimerTask

variable {task later : TimerTask} {moment : Nat}

/-- The arm that a task was started for. -/
def arm (task : TimerTask) : TimerArm := ⟨task.timer, task.rule, task.ticket⟩

/-- What a task is after its turn at a moment, unless it is done then. -/
def next? (moment : Nat) (task : TimerTask) : Option TimerTask :=
  if task.due ≤ moment then
    match task.rule with
    | .once _ => none
    | .every period => some { task with due := task.due + period }
  else some task

theorem arm_of_next? (next : task.next? moment = some later) : later.arm = task.arm := by
  unfold next? at next
  split at next
  · split at next
    · simp at next
    · obtain rfl := Option.some.inj next
      rfl
  · obtain rfl := Option.some.inj next
    rfl

theorem lt_of_next? (next : task.next? moment = some later) (notPast : moment ≤ task.due)
    (moves : task.rule ≠ .every 0) : moment < later.due := by
  unfold next? at next
  split at next
  · split at next
    · simp at next
    case h_2 period rule =>
      obtain rfl := Option.some.inj next
      have some : period ≠ 0 := fun none => moves (none ▸ rule)
      show moment < task.due + period
      omega
  case isFalse early =>
    obtain rfl := Option.some.inj next
    exact Nat.lt_of_not_le early

theorem next?_of_lt (early : moment < task.due) : task.next? moment = some task :=
  if_neg (Nat.not_le.mpr early)

end TimerTask

namespace Scheduler

variable {scheduler : Scheduler} {table : TimerTable} {task : TimerTask} {line : List TimerTask}
  {moment : Nat}

/-- The tasks that wait and those that are ready. -/
def tasks (scheduler : Scheduler) : List TimerTask :=
  scheduler.waiting ++ scheduler.ready

/-- What the turn of a task leaves of the table. -/
def tableAfter (moment : Nat) (table : TimerTable) (task : TimerTask) : TimerTable :=
  if task.next? moment = none then table.forget task.ticket else table

theorem turn_eq (scheduler : Scheduler) (task : TimerTask) :
    scheduler.turn task =
      (if task.due ≤ scheduler.now then [task.timer] else [],
        { scheduler with
          table := tableAfter scheduler.now scheduler.table task
          waiting := scheduler.waiting ++ (task.next? scheduler.now).toList }) := by
  by_cases due : task.due ≤ scheduler.now
  · cases rule : task.rule <;>
      simp [turn, afterPosting, tableAfter, TimerTask.next?, TimerTable.forget, due, rule]
  · simp [turn, tableAfter, TimerTask.next?, due]

theorem turns_eq (line : List TimerTask) (scheduler : Scheduler) :
    turns line scheduler =
      ((line.filter fun task => task.due ≤ scheduler.now).map TimerTask.timer,
        { scheduler with
          table := line.foldl (tableAfter scheduler.now) scheduler.table
          waiting := scheduler.waiting ++ line.filterMap (TimerTask.next? scheduler.now) }) := by
  induction line generalizing scheduler with
  | nil => simp [turns]
  | cons task line ih =>
      rw [turns, turn_eq]
      dsimp only
      rw [ih]
      by_cases due : task.due ≤ scheduler.now <;> cases next : task.next? scheduler.now <;>
        simp [due, next]

theorem settle_eq (scheduler : Scheduler) :
    scheduler.settle =
      ((scheduler.ready.filter fun task => task.due ≤ scheduler.now).map TimerTask.timer,
        { scheduler with
          table := scheduler.ready.foldl (tableAfter scheduler.now) scheduler.table
          waiting := scheduler.waiting ++ scheduler.ready.filterMap
            (TimerTask.next? scheduler.now)
          ready := [] }) :=
  turns_eq _ _

/-- The turns leave the arms of those tasks that are not done. -/
theorem mem_arms_foldl (line : List TimerTask) {arm : TimerArm} :
    arm ∈ (line.foldl (tableAfter moment) table).arms ↔
      arm ∈ table.arms ∧ ∀ task ∈ line, task.next? moment = none → arm.ticket ≠ task.ticket := by
  induction line generalizing table with
  | nil => simp
  | cons task line ih =>
      rw [List.foldl_cons, ih]
      by_cases done : task.next? moment = none <;>
        simp [tableAfter, TimerTable.forget, done, and_assoc]

theorem nextTicket_foldl (line : List TimerTask) (table : TimerTable) :
    (line.foldl (tableAfter moment) table).nextTicket = table.nextTicket := by
  induction line generalizing table with
  | nil => rfl
  | cons task line ih =>
      rw [List.foldl_cons, ih, tableAfter]
      split <;> rfl

theorem isSound_tableAfter (sound : table.IsSound) (task : TimerTask) :
    (tableAfter moment table task).IsSound := by
  unfold tableAfter
  split
  · exact sound.filter _
  · exact sound

theorem isSound_foldl (sound : table.IsSound) (line : List TimerTask) :
    (line.foldl (tableAfter moment) table).IsSound := by
  induction line generalizing table with
  | nil => exact sound
  | cons task line ih => exact ih (isSound_tableAfter sound task)

end Scheduler

/-! ## Timers that elapse -/

/-- Let timers elapse one after the other, each of which has to be armed. -/
def TimerTable.fireAll? (table : TimerTable) : List Timer → Option TimerTable
  | [] => some table
  | timer :: timers =>
      match table.fire timer with
      | (true, fired) => fired.fireAll? timers
      | (false, _) => none

theorem TimerTable.fireAll?_append (table : TimerTable) (first second : List Timer) :
    table.fireAll? (first ++ second) =
      (table.fireAll? first).bind fun fired => fired.fireAll? second := by
  induction first generalizing table with
  | nil => rfl
  | cons timer first ih =>
      rw [List.cons_append, fireAll?, fireAll?]
      split
      · exact ih _
      · rfl

namespace Scheduler

variable {scheduler : Scheduler} {table : TimerTable} {task : TimerTask} {line : List TimerTask}
  {moment : Nat}

/-- The turn of a task that is due leaves the table that its timer does when it elapses. -/
theorem fire_of_due (sound : table.IsSound) (stands : task.arm ∈ table.arms)
    (due : task.due ≤ moment) :
    table.fire task.timer = (true, tableAfter moment table task) := by
  have own (arm : TimerArm) (listed : arm ∈ table.arms) :
      arm.timer = task.timer ↔ arm = task.arm :=
    ⟨sound.eq_of_timer listed stands, fun same => same ▸ rfl⟩
  have found : table.arm? task.timer = some task.arm := by
    cases found : table.arm? task.timer with
    | none =>
        have apart : task.arm.timer ≠ task.timer := by
          simpa using List.find?_eq_none.mp found _ stands
        exact absurd rfl apart
    | some arm =>
        have same : arm.timer = task.timer := by simpa using List.find?_some found
        rw [(own arm (List.mem_of_find?_eq_some found)).mp same]
  cases rule : task.rule with
  | once delay =>
      have cancelled : table.cancel task.timer = table.forget task.ticket := by
        refine congrArg (TimerTable.mk · _) (List.filter_congr fun arm listed => ?_)
        have byTicket : arm.ticket = task.ticket ↔ arm = task.arm :=
          ⟨sound.eq_of_ticket listed stands, fun same => same ▸ rfl⟩
        rw [decide_eq_decide, not_iff_not, own arm listed, byTicket]
      simp [TimerTable.fire, found, TimerTask.arm, rule, tableAfter, TimerTask.next?, due,
        cancelled]
  | every period =>
      simp [TimerTable.fire, found, TimerTask.arm, rule, tableAfter, TimerTask.next?, due]

/-- The turns of tasks leave the table that their timers do when they elapse. -/
theorem fireAll?_of_turns (sound : table.IsSound) (backed : ∀ task ∈ line, task.arm ∈ table.arms)
    (once : (line.map TimerTask.ticket).Nodup) :
    table.fireAll? ((line.filter fun task => task.due ≤ moment).map TimerTask.timer) =
      some (line.foldl (tableAfter moment) table) := by
  induction line generalizing table with
  | nil => rfl
  | cons task line ih =>
      obtain ⟨stands, others⟩ := List.forall_mem_cons.mp backed
      obtain ⟨apart, once⟩ := List.nodup_cons.mp once
      have kept : ∀ other ∈ line, other.arm ∈ (tableAfter moment table task).arms := by
        intro other listed
        have differ : other.ticket ≠ task.ticket := fun same =>
          apart (same ▸ List.mem_map_of_mem listed)
        exact (mem_arms_foldl [task]).mpr ⟨others other listed, by simp [TimerTask.arm, differ]⟩
      have rest := ih (isSound_tableAfter sound task) kept once
      rw [List.foldl_cons, ← rest]
      by_cases due : task.due ≤ moment
      · rw [List.filter_cons_of_pos (by simpa using due), List.map_cons, TimerTable.fireAll?,
          fire_of_due sound stands due]
      · rw [List.filter_cons_of_neg (by simpa using due), tableAfter,
          TimerTask.next?_of_lt (Nat.lt_of_not_le due), if_neg (Option.some_ne_none _)]

/-! ## Schedulers -/

/-- Each task was started for an arm in the table, and it alone.  Those that wait are due later,
and those that are ready have not been due before. -/
structure IsSound (scheduler : Scheduler) : Prop where
  table : scheduler.table.IsSound
  backed : ∀ task ∈ scheduler.tasks, task.arm ∈ scheduler.table.arms
  once : (scheduler.tasks.map TimerTask.ticket).Nodup
  moves : ∀ task ∈ scheduler.tasks, task.rule ≠ .every 0
  waiting : ∀ task ∈ scheduler.waiting, scheduler.now < task.due
  ready : ∀ task ∈ scheduler.ready, scheduler.now ≤ task.due

theorem isSound_initial : IsSound {} := by
  constructor <;> simp [tasks]
  constructor <;> simp

/-- The scheduler with the arms of some timers only, and their tasks. -/
def retain (scheduler : Scheduler) (keep : Timer → Bool) : Scheduler :=
  { scheduler with
    table := scheduler.table.retain keep
    waiting := scheduler.waiting.filter fun task => keep task.timer
    ready := scheduler.ready.filter fun task => keep task.timer }

/-- The scheduler with a new arm and its task. -/
def start (scheduler : Scheduler) (timer : Timer) (rule : TimerRule) : Scheduler :=
  { scheduler with
    table := scheduler.table.start timer rule
    ready := scheduler.ready ++
      (taskOf? scheduler.now ⟨timer, rule, scheduler.table.nextTicket⟩).toList }

theorem tasks_retain (scheduler : Scheduler) (keep : Timer → Bool) :
    (scheduler.retain keep).tasks = scheduler.tasks.filter fun task => keep task.timer :=
  (List.filter_append _ _).symm

theorem tasks_start (scheduler : Scheduler) (timer : Timer) (rule : TimerRule) :
    (scheduler.start timer rule).tasks =
      scheduler.tasks ++ (taskOf? scheduler.now ⟨timer, rule, scheduler.table.nextTicket⟩).toList :=
  (List.append_assoc _ _ _).symm

/-- Where some arms are left out and others are new, the tasks of the former are ended, and those
of the latter are started. -/
theorem withTable_eq (sound : scheduler.IsSound) (keep : Timer → Bool) (arms : List TimerArm)
    (fresh : ∀ arm ∈ arms, scheduler.table.nextTicket ≤ arm.ticket) (nextTicket : Nat) :
    scheduler.withTable ⟨(scheduler.table.retain keep).arms ++ arms, nextTicket⟩ =
      { scheduler.retain keep with
        table := ⟨(scheduler.table.retain keep).arms ++ arms, nextTicket⟩
        ready := (scheduler.retain keep).ready ++ arms.filterMap (taskOf? scheduler.now) } := by
  have given (arm : TimerArm) (listed : arm ∈ scheduler.table.arms) :
      ¬scheduler.table.nextTicket ≤ arm.ticket :=
    Nat.not_le.mpr (sound.table.given arm listed)
  have armed {line : List TimerTask} (among : line ⊆ scheduler.tasks) :
      (line.filter fun task => ((scheduler.table.retain keep).arms ++ arms).any fun arm =>
        arm.ticket = task.ticket) = line.filter fun task => keep task.timer := by
    refine List.filter_congr fun task listed => ?_
    have stands := sound.backed task (among listed)
    rw [Bool.eq_iff_iff, List.any_eq_true]
    constructor
    · rintro ⟨arm, found, same⟩
      have same : arm.ticket = task.ticket := by simpa using same
      rcases List.mem_append.mp found with kept | new
      · obtain ⟨old, kept⟩ := List.mem_filter.mp kept
        rwa [sound.table.eq_of_ticket old stands same] at kept
      · have later := fresh arm new
        rw [same] at later
        exact absurd later (given task.arm stands)
    · intro kept
      exact ⟨task.arm, List.mem_append_left _ (List.mem_filter.mpr ⟨stands, kept⟩),
        decide_eq_true rfl⟩
  have started : (((scheduler.table.retain keep).arms ++ arms).filter fun arm =>
      scheduler.table.nextTicket ≤ arm.ticket) = arms := by
    rw [List.filter_append, List.filter_eq_nil_iff.mpr, List.nil_append, List.filter_eq_self]
    · simpa using fresh
    · intro arm listed
      simpa using given arm (List.mem_of_mem_filter listed)
  simp only [withTable, started, retain, armed (List.subset_append_left _ _),
    armed (List.subset_append_right _ _)]

theorem withTable_retain (sound : scheduler.IsSound) (keep : Timer → Bool) :
    scheduler.withTable (scheduler.table.retain keep) = scheduler.retain keep := by
  have same := withTable_eq sound keep [] (List.forall_mem_nil _) scheduler.table.nextTicket
  simp only [List.append_nil, List.filterMap_nil] at same
  exact same

theorem cancel_eq (sound : scheduler.IsSound) (timer : Timer) :
    scheduler.cancel timer = scheduler.retain fun other => other ≠ timer := by
  rw [cancel, TimerTable.cancel_eq_retain, withTable_retain sound]

theorem cancelAll_eq (sound : scheduler.IsSound) :
    scheduler.cancelAll = scheduler.retain fun _ => false := by
  rw [cancelAll, TimerTable.cancelAll_eq_retain, withTable_retain sound]

theorem schedule_eq (sound : scheduler.IsSound) (timer : Timer) (rule : TimerRule) :
    scheduler.schedule timer rule =
      (scheduler.retain fun other => other ≠ timer).start timer rule := by
  have same := withTable_eq sound (fun other => other ≠ timer)
    [⟨timer, rule, scheduler.table.nextTicket⟩] (by simp) (scheduler.table.nextTicket + 1)
  rw [List.filterMap_cons] at same
  refine same.trans ?_
  cases made : taskOf? scheduler.now ⟨timer, rule, scheduler.table.nextTicket⟩ <;>
    simp [start, retain, TimerTable.start, TimerTable.retain, made]

theorem IsSound.retain (sound : scheduler.IsSound) (keep : Timer → Bool) :
    (scheduler.retain keep).IsSound where
  table := sound.table.filter _
  backed task listed := by
    rw [tasks_retain] at listed
    obtain ⟨old, kept⟩ := List.mem_filter.mp listed
    exact List.mem_filter.mpr ⟨sound.backed task old, kept⟩
  once := by
    rw [tasks_retain]
    exact sound.once.sublist (List.filter_sublist.map _)
  moves task listed := by
    rw [tasks_retain] at listed
    exact sound.moves task (List.mem_of_mem_filter listed)
  waiting task listed := sound.waiting task (List.mem_of_mem_filter listed)
  ready task listed := sound.ready task (List.mem_of_mem_filter listed)

theorem arm_of_taskOf? {arm : TimerArm} (started : taskOf? moment arm = some task) :
    task.arm = arm ∧ task.rule ≠ .every 0 ∧ moment ≤ task.due := by
  obtain ⟨timer, rule, ticket⟩ := arm
  unfold taskOf? at started
  split at started
  · obtain rfl := Option.some.inj started
    simp_all [TimerTask.arm]
  · simp at started
  · obtain rfl := Option.some.inj started
    simp_all [TimerTask.arm]

theorem IsSound.start {timer : Timer} (sound : scheduler.IsSound)
    (unarmed : ∀ arm ∈ scheduler.table.arms, arm.timer ≠ timer) (rule : TimerRule) :
    (scheduler.start timer rule).IsSound := by
  let arm : TimerArm := ⟨timer, rule, scheduler.table.nextTicket⟩
  have cases {task : TimerTask} (listed : task ∈ (scheduler.start timer rule).tasks) :
      task ∈ scheduler.tasks ∨ taskOf? scheduler.now arm = some task := by
    rw [tasks_start] at listed
    exact (List.mem_append.mp listed).imp_right Option.mem_toList.mp
  constructor
  case table => exact sound.table.start unarmed rule
  case backed =>
    intro task listed
    rcases cases listed with old | new
    · exact List.mem_append_left _ (sound.backed task old)
    · rw [(arm_of_taskOf? new).1]
      exact List.mem_append_right _ (List.mem_singleton.mpr rfl)
  case once =>
    rw [tasks_start, List.map_append, List.nodup_append]
    refine ⟨sound.once, ?_, fun ticket old other new same => ?_⟩
    · cases taskOf? scheduler.now arm <;> simp
    · obtain ⟨task, listed, rfl⟩ := List.mem_map.mp old
      obtain ⟨started, made, rfl⟩ := List.mem_map.mp new
      have ticket : started.ticket = scheduler.table.nextTicket :=
        congrArg TimerArm.ticket (arm_of_taskOf? (Option.mem_toList.mp made)).1
      have given : task.ticket < scheduler.table.nextTicket :=
        sound.table.given _ (sound.backed task listed)
      exact Nat.ne_of_lt given (same.trans ticket)
  case moves =>
    intro task listed
    exact (cases listed).elim (sound.moves task) fun new => (arm_of_taskOf? new).2.1
  case waiting => exact sound.waiting
  case ready =>
    intro task listed
    rcases List.mem_append.mp listed with old | new
    · exact sound.ready task old
    · exact (arm_of_taskOf? (Option.mem_toList.mp new)).2.2

theorem IsSound.schedule (sound : scheduler.IsSound) (timer : Timer) (rule : TimerRule) :
    (scheduler.schedule timer rule).IsSound := by
  rw [schedule_eq sound]
  refine (sound.retain _).start (fun arm listed => ?_) rule
  simpa using (List.mem_filter.mp listed).2

/-! ## Moments -/

/-- After the turns no task is ready, and each task has done what it does at the moment. -/
theorem tasks_settle (sound : scheduler.IsSound) :
    scheduler.settle.2.tasks = scheduler.tasks.filterMap (TimerTask.next? scheduler.now) := by
  have still : scheduler.waiting.filterMap (TimerTask.next? scheduler.now) = scheduler.waiting := by
    rw [List.filterMap_congr fun task listed => TimerTask.next?_of_lt (sound.waiting task listed)]
    exact List.filterMap_some
  rw [settle_eq, tasks, tasks, List.filterMap_append, still, List.append_nil]

theorem posted_settle (sound : scheduler.IsSound) :
    scheduler.settle.1 =
      (scheduler.tasks.filter fun task => task.due ≤ scheduler.now).map TimerTask.timer := by
  have none : (scheduler.waiting.filter fun task => task.due ≤ scheduler.now) = [] := by
    simpa using sound.waiting
  rw [settle_eq, tasks, List.filter_append, none, List.nil_append]

theorem mem_arms_settle (sound : scheduler.IsSound) {arm : TimerArm} :
    arm ∈ scheduler.settle.2.table.arms ↔
      arm ∈ scheduler.table.arms ∧
        ∀ task ∈ scheduler.tasks, task.next? scheduler.now = none → arm.ticket ≠ task.ticket := by
  have still (task : TimerTask) (listed : task ∈ scheduler.waiting) :
      task.next? scheduler.now ≠ none := by
    rw [TimerTask.next?_of_lt (sound.waiting task listed)]
    exact Option.some_ne_none _
  rw [settle_eq]
  refine (mem_arms_foldl scheduler.ready).trans (and_congr_right fun stands => ⟨?_, ?_⟩)
  · intro apart task listed done
    rcases List.mem_append.mp listed with waits | ready
    · exact absurd done (still task waits)
    · exact apart task ready done
  · exact fun apart task ready => apart task (List.mem_append_right _ ready)

theorem tickets_next? (moment : Nat) (line : List TimerTask) :
    ((line.filterMap (TimerTask.next? moment)).map TimerTask.ticket).Sublist
      (line.map TimerTask.ticket) := by
  induction line with
  | nil => exact .slnil
  | cons task line ih =>
      cases next : task.next? moment with
      | none =>
          rw [List.filterMap_cons_none next]
          exact ih.cons _
      | some later =>
          have same : later.ticket = task.ticket :=
            congrArg TimerArm.ticket (TimerTask.arm_of_next? next)
          rw [List.filterMap_cons_some next, List.map_cons, List.map_cons, same]
          exact ih.cons_cons _

theorem IsSound.settle (sound : scheduler.IsSound) :
    scheduler.settle.2.IsSound ∧ scheduler.settle.2.ready = [] := by
  have ready : scheduler.settle.2.ready = [] := by rw [settle_eq]
  have now : scheduler.settle.2.now = scheduler.now := by rw [settle_eq]
  have notPast (task : TimerTask) (listed : task ∈ scheduler.tasks) : scheduler.now ≤ task.due :=
    (List.mem_append.mp listed).elim (fun waits => Nat.le_of_lt (sound.waiting task waits))
      (sound.ready task)
  have earlier {later : TimerTask} (listed : later ∈ scheduler.settle.2.tasks) :
      ∃ task ∈ scheduler.tasks, task.next? scheduler.now = some later := by
    rw [tasks_settle sound] at listed
    exact List.mem_filterMap.mp listed
  refine ⟨⟨?table, fun later listed => ?backed, ?once, fun later listed => ?moves,
    fun later listed => ?waiting, ?ready⟩, ready⟩
  case table =>
    rw [settle_eq]
    exact isSound_foldl sound.table _
  case backed =>
    obtain ⟨task, listed, next⟩ := earlier listed
    rw [TimerTask.arm_of_next? next, mem_arms_settle sound]
    refine ⟨sound.backed task listed, fun other among done same => ?_⟩
    obtain rfl := List.inj_on_of_nodup_map sound.once listed among same
    simp [next] at done
  case once =>
    rw [tasks_settle sound]
    exact sound.once.sublist (tickets_next? _ _)
  case moves =>
    obtain ⟨task, listed, next⟩ := earlier listed
    have same : later.rule = task.rule := congrArg TimerArm.rule (TimerTask.arm_of_next? next)
    rw [same]
    exact sound.moves task listed
  case waiting =>
    obtain ⟨task, listed, next⟩ := earlier (List.mem_append_left _ listed)
    rw [now]
    exact TimerTask.lt_of_next? next (notPast task listed) (sound.moves task listed)
  case ready =>
    rw [ready]
    exact List.forall_mem_nil _

/-- The timers that are posted at a moment elapse in the table. -/
theorem fireAll?_settle (sound : scheduler.IsSound) :
    scheduler.table.fireAll? scheduler.settle.1 = some scheduler.settle.2.table := by
  rw [settle_eq]
  refine fireAll?_of_turns sound.table
    (fun task listed => sound.backed task (List.mem_append_right _ listed)) ?_
  exact sound.once.sublist ((List.sublist_append_right _ _).map _)

theorem wake_eq (scheduler : Scheduler) (moment : Nat) :
    scheduler.wake moment =
      { scheduler with
        waiting := scheduler.waiting.filter fun task => !decide (task.due ≤ moment)
        ready := scheduler.ready ++ scheduler.waiting.filter fun task => task.due ≤ moment
        now := moment } := by
  rw [wake, List.partition_eq_filter_filter]
  rfl

theorem tasks_wake (scheduler : Scheduler) (moment : Nat) :
    (scheduler.wake moment).tasks.Perm scheduler.tasks := by
  have parts := List.filter_append_perm (fun task => decide (task.due ≤ moment)) scheduler.waiting
  rw [wake_eq, tasks, tasks]
  refine (List.perm_append_comm.append_left _).trans ?_
  rw [← List.append_assoc]
  exact (List.perm_append_comm.trans parts).append_right _

theorem IsSound.wake (sound : scheduler.IsSound) (settled : scheduler.ready = [])
    (reached : ∀ task ∈ scheduler.waiting, moment ≤ task.due) :
    (scheduler.wake moment).IsSound := by
  have same := scheduler.tasks_wake moment
  have table : (scheduler.wake moment).table = scheduler.table := by rw [wake_eq]
  constructor
  case table => exact table ▸ sound.table
  case backed => exact fun task listed => table ▸ sound.backed task (same.mem_iff.mp listed)
  case once => exact (same.map _).nodup_iff.mpr sound.once
  case moves => exact fun task listed => sound.moves task (same.mem_iff.mp listed)
  case waiting =>
    intro task listed
    rw [wake_eq] at listed ⊢
    simpa using (List.mem_filter.mp listed).2
  case ready =>
    intro task listed
    rw [wake_eq, settled, List.nil_append] at listed
    rw [wake_eq]
    exact reached task (List.mem_of_mem_filter listed)

end Scheduler

end BrowserRelay
