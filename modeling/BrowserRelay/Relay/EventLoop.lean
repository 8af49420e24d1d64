import BrowserRelay.Relay.Gateway

/-!
# The event loop

The loop hands one event after the other to the gateway.  When the client has closed
its input the loop goes on only as long as something waits for the service and the
time of grace lasts.  However it ends, it ends the service process and disarms all
timers, and handles no event after that.
-/

namespace BrowserRelay

/-- A gateway at work, whether the client has closed its input, and whether the loop
has ended. -/
structure EventLoop where
  gateway : Gateway
  isClosing : Bool := false
  isEnded : Bool := false

namespace EventLoop

/-- Start to work: the service is started at once if the settings say so, and a
failure to do so is only noted. -/
def start (setup : Setup) (outside : Outside) : EventLoop :=
  let gateway := Gateway.initial setup outside
  if setup.settings.service.eagerStart then
    match gateway.startService setup with
    | (.ok _, gateway) => ⟨gateway, false, false⟩
    | (.error failure, gateway) =>
        ⟨gateway.note .failure "service.eager_start_failed" [("error", .string failure.message)],
          false, false⟩
  else ⟨gateway, false, false⟩

def finish (loop : EventLoop) : EventLoop :=
  { loop with gateway := loop.gateway.terminate, isEnded := true }

/-- The client has closed its input: the loop ends unless something waits for the
service, which then has the time of grace. -/
def closeClient (setup : Setup) (loop : EventLoop) : EventLoop :=
  let gateway := loop.gateway.note .info "client.closed"
    [("pending", .ofNat loop.gateway.pending.length),
      ("queued", .ofNat loop.gateway.queue.length)]
  if gateway.isIdle then ({ loop with gateway := gateway }).finish
  else
    { loop with
      gateway := gateway.withHost
        (gateway.toHost.schedule .shutdownGrace (.once setup.settings.service.shutdownGrace))
      isClosing := true }

/-- Hand an event to the gateway, and end the loop if nothing is waited for any
more. -/
def pass (setup : Setup) (loop : EventLoop) (event : Event) : EventLoop :=
  let handled := { loop with gateway := loop.gateway.handleEvent setup event }
  if handled.isClosing && handled.gateway.isIdle then handled.finish else handled

def handle (setup : Setup) (loop : EventLoop) (event : Event) : EventLoop :=
  if loop.isEnded then loop
  else
    match event with
    | .clientClosed => loop.closeClient setup
    | .shutdown => loop.finish
    | .timer .shutdownGrace => loop.finish
    | event => loop.pass setup event

def run (setup : Setup) (loop : EventLoop) (events : List Event) : EventLoop :=
  events.foldl (handle setup) loop

end EventLoop

end BrowserRelay
