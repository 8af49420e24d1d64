import BrowserRelay.Relay.EventLoop
import BrowserRelay.Timers.Tasks

/-!
# The inbox of the event loop

Events wait in an inbox in the order in which they arrive, whether they come from the
client, from the service or from a timer that elapsed.  Disarming a timer does not
take back an event that waits already.
-/

namespace BrowserRelay

/-- An event loop with its inbox and the scheduler of its timers. -/
structure Inbox where
  loop : EventLoop
  scheduler : Scheduler
  waiting : List Event := []

namespace Inbox

/-- The inbox of a loop that has just started. -/
def ofLoop (loop : EventLoop) : Inbox :=
  { loop := loop, scheduler := ({} : Scheduler).withTable loop.gateway.timers }

def arrive (inbox : Inbox) (events : List Event) : Inbox :=
  { inbox with waiting := inbox.waiting ++ events }

/-- Let time pass up to a moment, without any timer elapsing. -/
def waitUntil (inbox : Inbox) (moment : Nat) : Inbox :=
  let scheduler := { inbox.scheduler with now := max inbox.scheduler.now moment }
  { inbox with scheduler := scheduler }

/-- Give the timers that are ready their turns; those that elapse arrive. -/
def settle (inbox : Inbox) : Inbox :=
  let (posted, scheduler) := inbox.scheduler.settle
  let gateway := inbox.loop.gateway.withHost
    { inbox.loop.gateway.toHost with timers := scheduler.table }
  { loop := { inbox.loop with gateway := gateway }
    scheduler := scheduler
    waiting := inbox.waiting ++ posted.map .timer }

/-- Let it be a moment, at which the timers that are due by then elapse. -/
def elapse (inbox : Inbox) (moment : Nat) : Inbox :=
  ({ inbox with scheduler := inbox.scheduler.wake moment }).settle

def deliver (setup : Setup) (inbox : Inbox) : Inbox :=
  match inbox.waiting with
  | [] => inbox
  | event :: waiting =>
      let loop := inbox.loop.handle setup event
      { loop := loop
        scheduler := inbox.scheduler.withTable loop.gateway.timers
        waiting := waiting }

def nextDue? (inbox : Inbox) : Option Nat :=
  inbox.scheduler.nextDue?

end Inbox

end BrowserRelay
