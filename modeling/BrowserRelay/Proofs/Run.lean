import BrowserRelay.Relay.Gateway

/-!
# Runs of the gateway

A run is made of steps that come in any order and number.  The service may be asked for,
any event may be handled, whether or not it was to be expected, a timer may elapse, and in
between the clock, the files and the outcomes to come may become any others.

From the steps alone it can be told which messages of the client are accepted, and which of
them are taken in to be passed on.
-/

namespace BrowserRelay

/-- Other edges at which the same was done so far. -/
def Outside.change (outside other : Outside) : Outside :=
  { other with
    launched := outside.launched
    written := outside.written
    killed := outside.killed
    replies := outside.replies
    emissions := outside.emissions
    journal := outside.journal }

/-- One thing that happens to a gateway. -/
inductive Step where
  /-- The service is asked for ahead of the first request. -/
  | start
  /-- An event is handled.  The event of a timer is handled whether or not it is armed,
  and does not disarm it. -/
  | event (event : Event)
  /-- A timer elapses, if it is armed, and its event is handled. -/
  | elapse (timer : Timer)
  /-- From now on the clock, the files and the outcomes to come are others. -/
  | meanwhile (outside : Outside)

namespace Gateway

/-- What one step does. -/
def step (setup : Setup) (gateway : Gateway) : Step → Gateway
  | .start => (gateway.startService setup).2
  | .event event => gateway.handleEvent setup event
  | .elapse timer =>
      match gateway.timers.fire timer with
      | (false, _) => gateway
      | (true, timers) => ({ gateway with timers := timers }).handleEvent setup (.timer timer)
  | .meanwhile outside => { gateway with outside := gateway.outside.change outside }

/-- The gateway after further steps. -/
def run (setup : Setup) (gateway : Gateway) (steps : List Step) : Gateway :=
  steps.foldl (step setup) gateway

/-- The gateway after steps from the start. -/
def after (setup : Setup) (outside : Outside) (steps : List Step) : Gateway :=
  (initial setup outside).run setup steps

@[simp]
theorem run_nil (setup : Setup) (gateway : Gateway) : gateway.run setup [] = gateway :=
  rfl

@[simp]
theorem run_cons (setup : Setup) (gateway : Gateway) (first : Step) (steps : List Step) :
    gateway.run setup (first :: steps) = (gateway.step setup first).run setup steps :=
  rfl

theorem run_append (setup : Setup) (gateway : Gateway) (first second : List Step) :
    gateway.run setup (first ++ second) = (gateway.run setup first).run setup second :=
  List.foldl_append

theorem after_concat (setup : Setup) (outside : Outside) (steps : List Step) (step : Step) :
    after setup outside (steps ++ [step]) = (after setup outside steps).step setup step :=
  run_append setup (initial setup outside) steps [step]

/-- What holds of a gateway and is kept by every step holds after every run. -/
theorem run_induction {setup : Setup} {Holds : Gateway → Prop}
    (keeps : ∀ gateway step, Holds gateway → Holds (gateway.step setup step))
    {gateway : Gateway} (holds : Holds gateway) (steps : List Step) :
    Holds (gateway.run setup steps) := by
  induction steps generalizing gateway with
  | nil => exact holds
  | cons first steps ih => exact ih (keeps gateway first holds)

/-! ## What becomes of the messages of the client -/

/-- The message that a step hands to the gateway to be passed on, if it does: a line that
can be read, whose identifier is not refused if it is a request, and which is not a call of
the relay's own tool. -/
def accepted? (setup : Setup) (gateway : Gateway) : Step → Option ClientMessage
  | .event (.clientLine line) =>
      if Text.isBlankText line then none
      else
        match ClientMessage.parse line with
        | .error _ => none
        | .ok message =>
            if (message.answerId.bind (gateway.idRefusal setup)).isSome then none
            else if message.toolName = some setup.settings.tool.name then none
            else some message
  | _ => none

/-- Whether there is a process for a message, or one can be started for it. -/
def isServed (setup : Setup) (gateway : Gateway) (message : ClientMessage) : Bool :=
  (gateway.ensureStarted setup message.answerId).1.isOk

/-- The identifiers of the requests that are accepted in the course of steps. -/
def acceptedIds (setup : Setup) : Gateway → List Step → List RequestId
  | _, [] => []
  | gateway, first :: steps =>
      ((gateway.accepted? setup first).bind ClientMessage.answerId).toList ++
        acceptedIds setup (gateway.step setup first) steps

/-- The trimmed line that a step takes in to be passed on, if it does.  A message that
finds no process is turned away. -/
def forwardedLine? (setup : Setup) (gateway : Gateway) : Step → Option String
  | .event (.clientLine line) =>
      match gateway.accepted? setup (.event (.clientLine line)) with
      | none => none
      | some message => if gateway.isServed setup message then some (Text.trim line) else none
  | _ => none

/-- The trimmed lines that are taken in to be passed on in the course of steps. -/
def forwardedLines (setup : Setup) : Gateway → List Step → List String
  | _, [] => []
  | gateway, first :: steps =>
      (gateway.forwardedLine? setup first).toList ++
        forwardedLines setup (gateway.step setup first) steps

end Gateway

end BrowserRelay
