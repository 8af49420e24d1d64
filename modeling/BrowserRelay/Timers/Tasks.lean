import BrowserRelay.Timers.Table

/-!
# Timers that elapse as time goes on

Behind each armed timer runs a task that waits until it is due and then posts the
timer.  The tasks take turns: one that is ready has its turn after those that were
ready before it, and in its turn it posts its timer if that is due and begins to
wait otherwise.  Time passes only when no task is ready.  The task of a timer that
fires once forgets its arm when it has posted, but only if the table still holds
the arm that the task was started for.
-/

namespace BrowserRelay

/-- A task that waits for its timer to be due. -/
structure TimerTask where
  timer : Timer
  rule : TimerRule
  ticket : Nat
  due : Nat
  deriving DecidableEq

/-- The armed timers; the tasks that wait, in the order in which they began to; the
tasks that are ready for their turns, in the order of the turns; and the time, in
milliseconds. -/
structure Scheduler where
  table : TimerTable := {}
  waiting : List TimerTask := []
  ready : List TimerTask := []
  now : Nat := 0
  deriving DecidableEq

namespace Scheduler

/-- The task for an arm made now.  A period of no length never elapses, and has no
task. -/
def taskOf? (now : Nat) (arm : TimerArm) : Option TimerTask :=
  match arm.rule with
  | .once delay => some ⟨arm.timer, arm.rule, arm.ticket, now + delay⟩
  | .every 0 => none
  | .every (period + 1) => some ⟨arm.timer, arm.rule, arm.ticket, now + (period + 1)⟩

/-- Change the table: the tasks of arms that are gone are ended, and the task of each
new arm is ready. -/
def withTable (scheduler : Scheduler) (table : TimerTable) : Scheduler :=
  let isArmed (task : TimerTask) : Bool := table.arms.any fun arm => arm.ticket = task.ticket
  let started := table.arms.filter fun arm => scheduler.table.nextTicket ≤ arm.ticket
  { scheduler with
    table := table
    waiting := scheduler.waiting.filter isArmed
    ready := scheduler.ready.filter isArmed ++ started.filterMap (taskOf? scheduler.now) }

def schedule (scheduler : Scheduler) (timer : Timer) (rule : TimerRule) : Scheduler :=
  scheduler.withTable (scheduler.table.schedule timer rule)

def cancel (scheduler : Scheduler) (timer : Timer) : Scheduler :=
  scheduler.withTable (scheduler.table.cancel timer)

def cancelAll (scheduler : Scheduler) : Scheduler :=
  scheduler.withTable scheduler.table.cancelAll

/-- What a task does once it has posted: a task that fires once is done, and its
arm is forgotten if it is still the one in the table; another waits for its next
multiple. -/
def afterPosting (scheduler : Scheduler) (task : TimerTask) : Scheduler :=
  match task.rule with
  | .once _ =>
      let arms := scheduler.table.arms.filter fun arm => arm.ticket ≠ task.ticket
      { scheduler with table := { scheduler.table with arms := arms } }
  | .every period =>
      let next := { task with due := task.due + period }
      { scheduler with waiting := scheduler.waiting ++ [next] }

/-- The turn of a task: what it posts, and the scheduler after it. -/
def turn (scheduler : Scheduler) (task : TimerTask) : List Timer × Scheduler :=
  if task.due ≤ scheduler.now then ([task.timer], scheduler.afterPosting task)
  else ([], { scheduler with waiting := scheduler.waiting ++ [task] })

def turns : List TimerTask → Scheduler → List Timer × Scheduler
  | [], scheduler => ([], scheduler)
  | task :: tasks, scheduler =>
      let (posted, scheduler) := scheduler.turn task
      let (later, scheduler) := turns tasks scheduler
      (posted ++ later, scheduler)

def settle (scheduler : Scheduler) : List Timer × Scheduler :=
  turns scheduler.ready { scheduler with ready := [] }

/-- The moment at which the next task that waits is due. -/
def nextDue? (scheduler : Scheduler) : Option Nat :=
  (scheduler.waiting.map TimerTask.due).min?

/-- Let it be a moment: the tasks that are due by then become ready. -/
def wake (scheduler : Scheduler) (moment : Nat) : Scheduler :=
  let (due, waiting) := scheduler.waiting.partition fun task => task.due ≤ moment
  { scheduler with waiting := waiting, ready := scheduler.ready ++ due, now := moment }

/-- Let time pass up to a moment at most, with turns whenever tasks are ready.  Time
passes at most as often as `fuel` says, by a millisecond or more each time. -/
def advanceTo : (fuel : Nat) → (moment : Nat) → Scheduler → List Timer × Scheduler
  | 0, _, scheduler => ([], scheduler)
  | fuel + 1, moment, scheduler =>
      let (posted, scheduler) := scheduler.settle
      match scheduler.nextDue? with
      | none => (posted, scheduler.wake moment)
      | some due =>
          if due < moment then
            let (later, scheduler) := advanceTo fuel moment (scheduler.wake due)
            (posted ++ later, scheduler)
          else (posted, scheduler.wake moment)

/-- Let time pass.  The tasks that are due exactly at the end are ready then, and
have had no turn yet; while no time passes no task has a turn. -/
def advance (scheduler : Scheduler) (milliseconds : Nat) : List Timer × Scheduler :=
  advanceTo milliseconds (scheduler.now + milliseconds) scheduler

end Scheduler

end BrowserRelay
