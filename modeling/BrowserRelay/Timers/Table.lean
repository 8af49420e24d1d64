import BrowserRelay.Message.RequestId

/-!
# The table of armed timers

Every timer has a key, and each key is armed at most once; arming it again
replaces the earlier arm.  Each arm has a ticket of its own, so that an arm can be
told from earlier ones of the same key.
-/

namespace BrowserRelay

/-- The timers of the relay. -/
inductive Timer where
  | firstProbe
  | probeInterval
  | startupDeadline
  | restart
  | callDeadline (id : RequestId)
  | shutdownGrace
  deriving DecidableEq

/-- When an armed timer fires: once after a delay, or at every multiple of a
period; both are given in milliseconds. -/
inductive TimerRule where
  | once (delay : Nat)
  | every (period : Nat)
  deriving DecidableEq

/-- An armed timer. -/
structure TimerArm where
  timer : Timer
  rule : TimerRule
  ticket : Nat
  deriving DecidableEq

/-- The armed timers, oldest arm first, and the ticket of the next arm. -/
structure TimerTable where
  arms : List TimerArm := []
  nextTicket : Nat := 0
  deriving DecidableEq

namespace TimerTable

/-- The arm of a timer. -/
def arm? (table : TimerTable) (timer : Timer) : Option TimerArm :=
  table.arms.find? fun arm => arm.timer = timer

def isArmed (table : TimerTable) (timer : Timer) : Bool :=
  (table.arm? timer).isSome

def cancel (table : TimerTable) (timer : Timer) : TimerTable :=
  { table with arms := table.arms.filter fun arm => arm.timer ≠ timer }

def schedule (table : TimerTable) (timer : Timer) (rule : TimerRule) : TimerTable :=
  { arms := (table.cancel timer).arms ++ [⟨timer, rule, table.nextTicket⟩]
    nextTicket := table.nextTicket + 1 }

def cancelAll (table : TimerTable) : TimerTable :=
  { table with arms := [] }

/-- Let a timer elapse: whether it was armed, and the table after it.  A timer that
fires once is disarmed. -/
def fire (table : TimerTable) (timer : Timer) : Bool × TimerTable :=
  match table.arm? timer with
  | none => (false, table)
  | some ⟨_, .once _, _⟩ => (true, table.cancel timer)
  | some ⟨_, .every _, _⟩ => (true, table)

end TimerTable

end BrowserRelay
