import BrowserRelay.Recording.ActionLog
import BrowserRelay.Recording.Emission
import BrowserRelay.Relay.Exchange
import BrowserRelay.ToolList

/-!
# The gateway

The gateway handles one event after the other: lines from the client, lines and
ends of the service process, and timers.  It answers every request of the client
once, records the browser actions that it passes on, and answers calls of the
relay's own tool with a replay script.
-/

namespace BrowserRelay

/-- What the gateway reacts to. -/
inductive Event where
  | clientLine (line : String)
  | clientClosed
  | serviceOutput (generation : Nat) (line : String)
  | serviceError (generation : Nat) (line : String)
  | serviceExited (generation : Nat) (code : Option Int)
  | serviceFailed (generation : Nat) (detail : String)
  | timer (timer : Timer)
  | shutdown
  deriving DecidableEq

/-- The exchange with the recorded actions, the present page, and the request that
started the present process while it waits for it. -/
structure Gateway extends Exchange where
  actions : List RecordedAction := []
  pageUrl : String := ""
  startupTrigger : Option RequestId := none

namespace Gateway

/-- Change the exchange. -/
def withExchange (gateway : Gateway) (exchange : Exchange) : Gateway :=
  { gateway with toExchange := exchange }

def withHost (gateway : Gateway) (host : Host) : Gateway :=
  { gateway with toHost := host }

def note (gateway : Gateway) (level : LogLevel) (type : String)
    (payload : List (String × Json)) : Gateway :=
  gateway.withHost (gateway.toHost.note level type payload)

def enter (gateway : Gateway) (deed : Deed) : Gateway :=
  gateway.withExchange (gateway.toExchange.enter deed)

/-- Send a line to the client that answers no request it had accepted. -/
def tell (gateway : Gateway) (line : String) : Gateway :=
  { gateway.enter (.told line) with outside := gateway.outside.reply line }

def answer (gateway : Gateway) (id : RequestId) (answer : Answer) : Gateway :=
  { gateway.enter (.answered id answer) with outside := gateway.outside.reply (answer.line id) }

def cancelDeadline (gateway : Gateway) (id : RequestId) : Gateway :=
  gateway.withHost (gateway.toHost.cancel (.callDeadline id))

/-- Answer a call with a failure; it is no longer waited for. -/
def failCall (gateway : Gateway) (id : RequestId) (failure : Failure) : Gateway :=
  (gateway.cancelDeadline id).answer id (.failed failure)

/-- The gateway at the start, with the actions that an earlier run left behind. -/
def initial (setup : Setup) (outside : Outside) : Gateway :=
  let path := setup.settings.recording.actionLogPath
  let (actions, failure, files) := ActionLog.load outside.files path
  let loaded := { outside with files := files }
  let noted :=
    match failure with
    | none => loaded
    | some failure =>
        loaded.note .warning "recording.load_failed"
          [("path", .string path), ("error", .string failure.message)]
  { outside := noted, actions := actions }

def isIdle (gateway : Gateway) : Bool :=
  gateway.pending.isEmpty && gateway.queue.isEmpty

/-! ## Starting the service -/

/-- Start the service unless there is a process already. -/
def startService (setup : Setup) (gateway : Gateway) :
    Except Failure StartOutcome × Gateway :=
  match gateway.toHost.start setup with
  | (.ok (.spawned generation), host) =>
      (.ok (.spawned generation),
        gateway.withExchange (gateway.toExchange.withHost host).resetHealth)
  | (.ok (.alreadyRunning ready), host) => (.ok (.alreadyRunning ready), gateway.withHost host)
  | (.error failure, host) => (.error failure, gateway.withHost host)

/-- Make sure that there is a process, and remember the request that started it. -/
def ensureStarted (setup : Setup) (gateway : Gateway) (trigger : Option RequestId) :
    Except Failure Unit × Gateway :=
  if gateway.hasProcess then (.ok (), gateway)
  else
    match gateway.startService setup with
    | (.ok (.spawned _), started) => (.ok (), { started with startupTrigger := trigger })
    | (.ok (.alreadyRunning _), started) => (.ok (), started)
    | (.error failure, started) => (.error failure, started)

/-! ## Answering with failures -/

def failCalls (gateway : Gateway) (calls : List PendingCall) (failure : Failure) : Gateway :=
  calls.foldl (fun gateway call => gateway.failCall call.id failure) gateway

/-- Answer waiting requests with a failure; notifications are dropped. -/
def failEntries (gateway : Gateway) (entries : List QueuedRequest) (failure : Failure) :
    Gateway :=
  entries.foldl
    (fun gateway entry =>
      match entry.id with
      | none => gateway
      | some id => gateway.failCall id failure)
    gateway

/-- Answer every waiting request with a failure, since nothing will serve them. -/
def failQueued (gateway : Gateway) (failure : Failure) : Gateway :=
  let stranded := gateway.queue
  let emptied := { gateway with queue := [], startupTrigger := none }
  if stranded.isEmpty then emptied
  else
    (emptied.note .failure "client.queue.failed"
      [("count", .ofNat stranded.length), ("error", .string failure.message)]).failEntries
      stranded failure

/-- What the callers of a process that was given up are told. -/
def connectionReset : Failure := .serviceWrite "browser service connection was reset"

def resetHealth (gateway : Gateway) : Gateway :=
  gateway.withExchange gateway.toExchange.resetHealth

/-- The JSON value of an identifier that may be missing. -/
def idJson (id : Option RequestId) : Json := .ofOption (id.map RequestId.toJson)

/-- Answer those that an attempt to pass a request on leaves without an answer. -/
def settle (gateway : Gateway) : Exchange.DispatchOutcome → Gateway
  | .queued => gateway
  | .sent => gateway
  | .retrying orphaned => gateway.resetHealth.failCalls orphaned connectionReset
  | .respawnFailed failure orphaned =>
      (gateway.resetHealth.failCalls orphaned connectionReset).failQueued failure
  | .abandoned entry failure orphaned =>
      let noted :=
        (gateway.resetHealth.failCalls orphaned failure).note .failure
          "client.request.abandoned"
          [("id", idJson entry.id), ("attempts", .ofNat entry.attempts),
            ("error", .string failure.message)]
      match entry.id with
      | none => noted
      | some id => noted.failCall id failure

def settleAll (gateway : Gateway) (outcomes : List Exchange.DispatchOutcome) : Gateway :=
  outcomes.foldl settle gateway

/-! ## Lines from the client -/

/-- Why a request's identifier is refused, if it is: it belongs to the probes, or a
call with it is still in flight. -/
def idRefusal (setup : Setup) (gateway : Gateway) (id : RequestId) : Option Failure :=
  if Exchange.isProbeId setup id then
    some (.invalidRequest ("id prefix " ++ setup.settings.health.idPrefix ++ " is reserved"))
  else if gateway.toExchange.isPending id || RequestQueue.contains gateway.queue id then
    some (.invalidRequest ("request id " ++ id.display ++ " is already in flight"))
  else none

/-- The plan for the response to a message.  A page is opened by the browser method
and by the tool of the same purpose. -/
def responsePlan (message : ClientMessage) : ResponsePlan :=
  let url? :=
    match message.methodName with
    | "browser/navigate" => message.params.get? "url"
    | "tools/call" =>
        if message.toolName = some "browser_navigate" then
          message.toolArguments.bind fun arguments => arguments.get? "url"
        else none
    | _ => none
  if message.methodName = "tools/list" then .mergeTools
  else
    match url?.bind Json.asString? with
    | some url => .navigate url
    | none => .relay

/-- Record the action that a message asks for, if it is a browser action. -/
def record (setup : Setup) (gateway : Gateway) (message : ClientMessage) : Gateway :=
  match RecordedAction.ofMessage? message setup.settings.tool.name with
  | none => gateway
  | some action =>
      let noted :=
        if action.kind = .passthrough then
          gateway.note .warning "recording.passthrough"
            [("method", .string message.methodName),
              ("error", .string (Failure.unsupportedAction message.methodName).message)]
        else gateway
      let actions := ActionLog.recorded noted.actions action
      let (result, files) :=
        ActionLog.persist noted.outside.files setup.settings.recording.actionLogPath actions
          noted.outside.clock
      let recorded :=
        { noted with actions := actions, outside := { noted.outside with files := files } }
      match result with
      | .ok () => recorded
      | .error failure =>
          recorded.note .warning "recording.write_failed"
            [("method", .string message.methodName), ("error", .string failure.message)]

def clearRecording (setup : Setup) (gateway : Gateway) : Gateway :=
  let (result, files) :=
    ActionLog.persist gateway.outside.files setup.settings.recording.actionLogPath []
      gateway.outside.clock
  let cleared :=
    { gateway with actions := [], outside := { gateway.outside with files := files } }
  match result with
  | .ok () => cleared
  | .error failure =>
      cleared.note .warning "recording.clear_failed" [("error", .string failure.message)]

def scriptPath (setup : Setup) (gateway : Gateway) : String :=
  Path.join setup.settings.script.outputDirectory
    (setup.settings.script.fileStem ++ "-" ++ toString gateway.outside.nowMillis ++ ".js")

/-- Answer a call of the relay's own tool: emit a script of what was recorded, and
forget the recording on success. -/
def generateScript (setup : Setup) (gateway : Gateway) (id : Option RequestId) : Gateway :=
  let emission : Emission :=
    ⟨gateway.pageUrl, gateway.actions, gateway.scriptPath setup⟩
  let (report, outside) := emission.emit setup.launch gateway.outside
  let emitted := { gateway with outside := outside }
  let settled := if report.isSuccess then emitted.clearRecording setup else emitted
  match id with
  | none => settled
  | some id => settled.tell (Envelope.successLine id report.toolResult)

/-- Pass an entry on, and answer those that this leaves without an answer. -/
def passOn (setup : Setup) (gateway : Gateway) (entry : QueuedRequest) : Gateway :=
  let (outcome, exchange) := gateway.toExchange.dispatch setup entry
  (gateway.withExchange exchange).settle outcome

/-- Accept a message: if it is a request, an answer is owed to it from now on. -/
def accept (gateway : Gateway) (message : ClientMessage) : Gateway :=
  match message.answerId with
  | none => gateway
  | some id => gateway.enter (.accepted id)

/-- Pass a message on to the service, starting it if need be. -/
def forward (setup : Setup) (gateway : Gateway) (message : ClientMessage) : Gateway :=
  let id := message.answerId
  match (gateway.accept message).ensureStarted setup id with
  | (.error failure, unstarted) =>
      let answered :=
        match id with
        | none => unstarted
        | some id => unstarted.answer id (.failed failure)
      answered.failQueued failure
  | (.ok (), started) =>
      let recorded := started.record setup message
      let timed :=
        match id with
        | none => recorded
        | some id =>
            recorded.withHost
              (recorded.toHost.schedule (.callDeadline id)
                (.once setup.settings.service.callTimeout))
      let noted :=
        timed.note .debug "client.request"
          [("method", .string message.methodName), ("id", idJson id),
            ("ready", .bool timed.isReady)]
      let entry : QueuedRequest := ⟨id, message.raw, responsePlan message, 0⟩
      (noted.enter (.forwarded entry)).passOn setup entry

/-- Handle a message of the client whose identifier is not refused. -/
def acceptMessage (setup : Setup) (gateway : Gateway) (message : ClientMessage) : Gateway :=
  if message.toolName = some setup.settings.tool.name then
    gateway.generateScript setup message.id
  else gateway.forward setup message

def handleMessage (setup : Setup) (gateway : Gateway) (message : ClientMessage) : Gateway :=
  match message.answerId with
  | none => gateway.acceptMessage setup message
  | some id =>
      match gateway.idRefusal setup id with
      | none => gateway.acceptMessage setup message
      | some failure =>
          (gateway.note .warning "client.rejected"
            [("id", id.toJson), ("error", .string failure.message)]).tell
            (Envelope.errorLineFor (some id) failure)

/-- Handle a line of the client.  Blank lines are ignored. -/
def handleClientLine (setup : Setup) (gateway : Gateway) (line : String) : Gateway :=
  if Text.isBlankText line then gateway
  else
    match ClientMessage.parse line with
    | .error failure =>
        (gateway.note .warning "client.rejected"
          [("error", .string failure.message),
            ("line", .string (LogEvent.loggableLine line))]).tell
            (Envelope.errorLineFor none failure)
    | .ok message => gateway.handleMessage setup message

/-! ## Lines and ends of the service process -/

/-- Pass waiting requests on to a service that has become ready. -/
def drainQueue (setup : Setup) (gateway : Gateway) : Gateway :=
  let (outcomes, exchange) := gateway.toExchange.drain setup
  (gateway.withExchange exchange).settleAll outcomes

/-- What the client gets as the response to a call: the line of the service, to which
the relay's own tool is added if it is a list of tools. -/
def responseText (setup : Setup) (plan : ResponsePlan) (message : ServiceMessage)
    (raw : String) : String :=
  match plan with
  | .relay => raw
  | .mergeTools =>
      let tool :=
        ToolList.localTool setup.settings.tool.name setup.settings.tool.description
      (ToolList.merge message.value tool).compact
  | .navigate _ => raw

/-- Take the page of a call for the present one if its response is a success. -/
def visit (gateway : Gateway) (plan : ResponsePlan) (message : ServiceMessage) : Gateway :=
  match plan with
  | .relay => gateway
  | .mergeTools => gateway
  | .navigate url =>
      if message.isSuccess then
        { gateway.note .info "page.navigated" [("url", .string url)] with pageUrl := url }
      else gateway

def complete (setup : Setup) (gateway : Gateway) (call : PendingCall)
    (message : ServiceMessage) (raw : String) : Gateway :=
  (gateway.visit call.plan message).answer call.id
    (.response (responseText setup call.plan message raw))

def handleServiceOutput (setup : Setup) (gateway : Gateway) (line : String) : Gateway :=
  let (output, exchange) := gateway.toExchange.classify setup line
  let classified := gateway.withExchange exchange
  match output with
  | .probe =>
      let (becameReady, exchange) := classified.toExchange.onProbeResponse setup
      let answered := classified.withExchange exchange
      if becameReady then ({ answered with startupTrigger := none }).drainQueue setup
      else answered
  | .matched call message raw => (classified.cancelDeadline call.id).complete setup call message raw
  | .unmatched raw => classified.tell raw
  | .late id => classified.note .info "child.response.late" [("id", id.toJson)]
  | .garbage failure =>
      classified.note .debug "child.stdout.unparsed"
        [("error", .string failure.message), ("line", .string (LogEvent.loggableLine line))]

def onServiceOutput (setup : Setup) (gateway : Gateway) (generation : Nat) (line : String) :
    Gateway :=
  if gateway.isCurrent generation then gateway.handleServiceOutput setup line
  else
    gateway.note .debug "child.stdout.stale"
      [("generation", .ofNat generation), ("line", .string (LogEvent.loggableLine line))]

/-- Handle a line on the error stream of the process of a generation. -/
def onServiceError (gateway : Gateway) (generation : Nat) (line : String) : Gateway :=
  gateway.note .info "child.stderr"
    [("generation", .ofNat generation), ("line", .string (LogEvent.loggableLine line))]

def failGeneration (gateway : Gateway) (generation : Nat) (detail : String) : Gateway :=
  let reset := gateway.resetHealth
  let (orphaned, exchange) := reset.toExchange.takeGeneration generation
  (reset.withExchange exchange).failCalls orphaned (.serviceExit detail)

/-- How the end of a process is described to its callers. -/
def exitDetail : Option Int → String
  | some code => "code " ++ toString code
  | none => "a signal"

def onServiceExited (setup : Setup) (gateway : Gateway) (generation : Nat)
    (code : Option Int) : Gateway :=
  match gateway.toHost.onExit setup generation code with
  | (.stale, _) => gateway
  | (_, host) => (gateway.withHost host).failGeneration generation (exitDetail code)

/-- Handle the failure of the process of a generation. -/
def onServiceFailed (gateway : Gateway) (generation : Nat) (detail : String) : Gateway :=
  match gateway.toHost.onFailed generation detail with
  | (.stale, _) => gateway
  | (_, host) => (gateway.withHost host).failGeneration generation detail

/-! ## Timers -/

def onProbeTimer (setup : Setup) (gateway : Gateway) : Gateway :=
  let (outcome, exchange) := gateway.toExchange.probe setup
  let probed := gateway.withExchange exchange
  match outcome with
  | .startRequested => probed.resetHealth
  | .startFailed failure => probed.failQueued failure
  | _ => probed

/-- The service did not become ready in time.  The request that started it is told
so if it still waits; others wait on. -/
def onStartupDeadline (setup : Setup) (gateway : Gateway) : Gateway :=
  match gateway.state with
  | .starting =>
      let timeout := setup.settings.service.startupTimeout
      let noted :=
        gateway.note .failure "service.startup_timeout"
          [("timeout_ms", .ofNat timeout), ("queued", .ofNat gateway.queue.length)]
      match gateway.startupTrigger with
      | none => noted
      | some id =>
          let taken := { noted with startupTrigger := none }
          if RequestQueue.contains taken.queue id then
            ({ taken with queue := RequestQueue.remove taken.queue id }).failCall id
              (.startupTimeout timeout)
          else taken
  | _ => gateway

def onRestart (setup : Setup) (gateway : Gateway) : Gateway :=
  if gateway.hasProcess then gateway
  else
    match gateway.toHost.start setup with
    | (.ok _, host) => (gateway.withHost host).resetHealth
    | (.error failure, host) => (gateway.withHost host).failQueued failure

/-- Take a call whose time is over out of the tables or the queue, if it is there. -/
def takeExpired (gateway : Gateway) (id : RequestId) : Option Gateway :=
  match gateway.toExchange.expire id with
  | (some _, exchange) => some (gateway.withExchange exchange)
  | (none, _) =>
      if RequestQueue.contains gateway.queue id then
        some { gateway with queue := RequestQueue.remove gateway.queue id }
      else none

def onCallDeadline (setup : Setup) (gateway : Gateway) (id : RequestId) : Gateway :=
  match gateway.takeExpired id with
  | none => gateway
  | some taken =>
      let timeout := setup.settings.service.callTimeout
      let trigger := if taken.startupTrigger = some id then none else taken.startupTrigger
      (({ taken with startupTrigger := trigger }).note .warning "client.request.timeout"
        [("id", id.toJson), ("timeout_ms", .ofNat timeout)]).answer id
        (.failed (.timeout timeout))

def onTimer (setup : Setup) (gateway : Gateway) : Timer → Gateway
  | .firstProbe => gateway.onProbeTimer setup
  | .probeInterval => gateway.onProbeTimer setup
  | .startupDeadline => gateway.onStartupDeadline setup
  | .restart => gateway.onRestart setup
  | .callDeadline id => gateway.onCallDeadline setup id
  | .shutdownGrace => gateway

/-! ## Events -/

def handleEvent (setup : Setup) (gateway : Gateway) : Event → Gateway
  | .clientLine line => gateway.handleClientLine setup line
  | .serviceOutput generation line => gateway.onServiceOutput setup generation line
  | .serviceError generation line => gateway.onServiceError generation line
  | .serviceExited generation code => gateway.onServiceExited setup generation code
  | .serviceFailed generation detail => gateway.onServiceFailed generation detail
  | .timer timer => gateway.onTimer setup timer
  | .clientClosed => gateway
  | .shutdown => gateway

/-- End the process and disarm all timers.  What still waits is not answered. -/
def terminate (gateway : Gateway) : Gateway :=
  let noted :=
    gateway.note .info "gateway.terminate"
      [("pending", .ofNat gateway.pending.length), ("queued", .ofNat gateway.queue.length)]
  noted.withHost noted.toHost.terminate

end Gateway

end BrowserRelay
