import BrowserRelay.Proofs.Passage
import BrowserRelay.Proofs.Recording
import BrowserRelay.Proofs.ServiceSide

/-!
# What the relay remembers for its scripts

A script is made of the recorded actions and the present page, and named after the time.  Messages
that are passed on add to the recording, responses to navigations change the page, and a script
that was saved ends the recording.  Nothing else that happens changes any of this, and nothing else
emits a script.
-/

namespace BrowserRelay

/-! ## What neither emits a script nor turns the clock -/

namespace Outside

/-- The emissions so far, and the clock. -/
def scene (outside : Outside) : List Emission × Int := (outside.emissions, outside.clock)

theorem Serves.scene {before after : Outside} (serves : before.Serves after) :
    after.scene = before.scene := by
  rw [serves.edges]
  rfl

theorem scene_reply {outside : Outside} (line : String) :
    (outside.reply line).scene = outside.scene := by
  unfold reply
  split <;> rfl

end Outside

/-! ## What changes nothing that is remembered -/

/-- The recorded actions, the present page, the emissions so far and the clock. -/
structure Memory where
  actions : List RecordedAction
  pageUrl : String
  emissions : List Emission
  clock : Int

namespace Memory

def record (memory : Memory) (action : Option RecordedAction) : Memory :=
  { memory with actions := memory.actions ++ action.toList }

def visit (memory : Memory) (page : Option String) : Memory :=
  { memory with pageUrl := page.getD memory.pageUrl }

/-- Emit a script.  Once it is saved, the recording begins anew. -/
def emit (memory : Memory) (target : String) (saved : Bool) : Memory :=
  { memory with
    actions := if saved then [] else memory.actions
    emissions := memory.emissions ++ [⟨memory.pageUrl, memory.actions, target⟩] }

end Memory

/-- The page that a call opens if it is responded to with a message. -/
def ResponsePlan.openedPage? (plan : ResponsePlan) (message : ServiceMessage) : Option String :=
  match plan with
  | .navigate url => if message.isSuccess then some url else none
  | _ => none

namespace Gateway

variable {setup : Setup} {gateway : Gateway}

def memory (gateway : Gateway) : Memory :=
  ⟨gateway.actions, gateway.pageUrl, gateway.outside.emissions, gateway.outside.clock⟩

theorem memory_withExchange {exchange : Exchange}
    (serves : gateway.outside.Serves exchange.outside) :
    (gateway.withExchange exchange).memory = gateway.memory := by
  obtain ⟨emissions, clock⟩ := Prod.mk.inj serves.scene
  simp only [memory, withExchange, emissions, clock]

theorem memory_withHost {host : Host} (serves : gateway.outside.Serves host.outside) :
    (gateway.withHost host).memory = gateway.memory :=
  memory_withExchange serves

theorem memory_tell (line : String) : (gateway.tell line).memory = gateway.memory := by
  obtain ⟨emissions, clock⟩ := Prod.mk.inj (gateway.outside.scene_reply line)
  simp only [memory, tell, emissions, clock]
  rfl

theorem memory_answer (id : RequestId) (answer : Answer) :
    (gateway.answer id answer).memory = gateway.memory := by
  obtain ⟨emissions, clock⟩ := Prod.mk.inj (gateway.outside.scene_reply (answer.line id))
  simp only [memory, Gateway.answer, emissions, clock]
  rfl

theorem memory_failCall (id : RequestId) (failure : Failure) :
    (gateway.failCall id failure).memory = gateway.memory :=
  memory_answer id _

theorem memory_failCalls (calls : List PendingCall) (failure : Failure) :
    (gateway.failCalls calls failure).memory = gateway.memory := by
  induction calls generalizing gateway with
  | nil => rfl
  | cons call calls ih => exact ih.trans (memory_failCall call.id failure)

theorem memory_failEntries (entries : List QueuedRequest) (failure : Failure) :
    (gateway.failEntries entries failure).memory = gateway.memory := by
  induction entries generalizing gateway with
  | nil => rfl
  | cons entry entries ih =>
      rw [failEntries, List.foldl_cons]
      cases entry.id with
      | none => exact ih
      | some id => exact ih.trans (memory_failCall id failure)

theorem memory_failQueued (failure : Failure) :
    (gateway.failQueued failure).memory = gateway.memory := by
  unfold failQueued
  dsimp only
  split
  · rfl
  · exact memory_failEntries gateway.queue failure

theorem memory_startService (setup : Setup) :
    (gateway.startService setup).2.memory = gateway.memory := by
  have started := gateway.toHost.serves_start setup
  unfold startService
  split
  all_goals
    rename_i result
    rw [result] at started
    exact memory_withHost started

theorem memory_ensureStarted (setup : Setup) (trigger : Option RequestId) :
    (gateway.ensureStarted setup trigger).2.memory = gateway.memory := by
  have started := gateway.memory_startService setup
  unfold ensureStarted
  split
  · rfl
  · split
    all_goals
      rename_i result
      rw [result] at started
      exact started

theorem memory_settle (outcome : Exchange.DispatchOutcome) :
    (gateway.settle outcome).memory = gateway.memory := by
  cases outcome with
  | queued => rfl
  | sent => rfl
  | retrying orphaned => exact memory_failCalls orphaned connectionReset
  | respawnFailed failure orphaned =>
      exact (memory_failQueued failure).trans (memory_failCalls orphaned connectionReset)
  | abandoned entry failure orphaned =>
      have others : (gateway.resetHealth.failCalls orphaned failure).memory = gateway.memory :=
        memory_failCalls orphaned failure
      unfold settle
      dsimp only
      split
      · exact others
      · exact (memory_failCall _ failure).trans others

theorem memory_settleAll (outcomes : List Exchange.DispatchOutcome) :
    (gateway.settleAll outcomes).memory = gateway.memory := by
  induction outcomes generalizing gateway with
  | nil => rfl
  | cons outcome outcomes ih => exact ih.trans (memory_settle outcome)

theorem memory_passOn (entry : QueuedRequest) :
    (gateway.passOn setup entry).memory = gateway.memory :=
  (memory_settle _).trans (memory_withExchange (gateway.toExchange.serves_dispatch setup entry))

theorem memory_drainQueue : (gateway.drainQueue setup).memory = gateway.memory :=
  (memory_settleAll _).trans (memory_withExchange (gateway.toExchange.serves_drainUpTo setup _))

theorem memory_failGeneration (generation : Nat) (detail : String) :
    (gateway.failGeneration generation detail).memory = gateway.memory :=
  memory_failCalls _ _

theorem memory_onServiceExited (generation : Nat) (code : Option Int) :
    (gateway.onServiceExited setup generation code).memory = gateway.memory := by
  cases current : gateway.isCurrent generation with
  | false => rw [onServiceExited_stale setup code current]
  | true =>
      rw [onServiceExited_current setup code current]
      exact (memory_failGeneration _ _).trans
        (memory_withHost (gateway.toHost.serves_onExit setup generation code))

theorem memory_onServiceFailed (generation : Nat) (detail : String) :
    (gateway.onServiceFailed generation detail).memory = gateway.memory := by
  cases current : gateway.isCurrent generation with
  | false => rw [onServiceFailed_stale detail current]
  | true =>
      rw [onServiceFailed_current detail current]
      exact (memory_failGeneration _ _).trans
        (memory_withHost (gateway.toHost.serves_onFailed generation detail))

theorem memory_onProbeTimer : (gateway.onProbeTimer setup).memory = gateway.memory := by
  have probed := memory_withExchange (gateway.toExchange.serves_probe setup)
  unfold onProbeTimer
  dsimp only
  split
  · exact probed
  · exact (memory_failQueued _).trans probed
  · exact probed

theorem memory_onStartupDeadline : (gateway.onStartupDeadline setup).memory = gateway.memory := by
  unfold onStartupDeadline
  split
  · dsimp only
    split
    · rfl
    · split
      · exact memory_failCall _ _
      · rfl
  · rfl

theorem memory_onRestart : (gateway.onRestart setup).memory = gateway.memory := by
  have started := memory_withHost (gateway.toHost.serves_start setup)
  unfold onRestart
  split
  · rfl
  · split
    · rename_i result
      rw [result] at started
      exact started
    · rename_i result
      rw [result] at started
      exact (memory_failQueued _).trans started

theorem memory_onTimer (timer : Timer) :
    (gateway.onTimer setup timer).memory = gateway.memory := by
  cases timer with
  | firstProbe => exact memory_onProbeTimer
  | probeInterval => exact memory_onProbeTimer
  | startupDeadline => exact memory_onStartupDeadline
  | restart => exact memory_onRestart
  | callDeadline id =>
      unfold onTimer onCallDeadline
      dsimp only
      split
      · rfl
      case h_2 taken result =>
        rw [takeExpired_eq result]
        exact memory_answer id _
  | shutdownGrace => rfl

/-! ## What changes it -/

theorem memory_record (setup : Setup) (gateway : Gateway) (message : ClientMessage) :
    (gateway.record setup message).memory =
      gateway.memory.record (derivedAction? setup message) := by
  cases derived : derivedAction? setup message with
  | none =>
      rw [record_none derived]
      simp [Memory.record, memory]
  | some action =>
      obtain ⟨journal, recorded⟩ := record_some gateway derived
      rw [recorded]
      rfl

theorem memory_forwardStarted (setup : Setup) (started : Gateway) (message : ClientMessage) :
    (forwardStarted setup started message).memory =
      started.memory.record (derivedAction? setup message) := by
  rw [← memory_record]
  unfold forwardStarted
  dsimp only
  rw [memory_passOn]
  split <;> rfl

theorem memory_accept (message : ClientMessage) :
    (gateway.accept message).memory = gateway.memory := by
  unfold accept
  split <;> rfl

/-- A message that is taken in is recorded, and one that is turned away is not. -/
theorem memory_forward (setup : Setup) (gateway : Gateway) (message : ClientMessage) :
    (gateway.forward setup message).memory =
      if gateway.isServed setup message then
        gateway.memory.record (derivedAction? setup message)
      else gateway.memory := by
  have served : ((gateway.accept message).ensureStarted setup message.answerId).1.isOk =
      gateway.isServed setup message := by
    rw [isServed, isOk_ensureStarted, isOk_ensureStarted, toHost_accept]
  have kept := (gateway.accept message).memory_ensureStarted setup message.answerId
  rw [memory_accept] at kept
  cases starting : (gateway.accept message).ensureStarted setup message.answerId with
  | mk result started =>
    rw [starting] at served kept
    cases result with
    | ok _ =>
        have isServed : gateway.isServed setup message = true := served.symm
        rw [forward_started starting, memory_forwardStarted, kept, isServed, if_pos rfl]
    | error failure =>
        have unserved : gateway.isServed setup message = false := served.symm
        simp only [forward, starting, unserved, Bool.false_eq_true, if_false]
        rw [memory_failQueued]
        split
        · exact kept
        · exact (memory_answer _ _).trans kept

theorem memory_generateScript (setup : Setup) (gateway : Gateway) (id : Option RequestId) :
    (gateway.generateScript setup id).memory =
      gateway.memory.emit (gateway.scriptPath setup)
        (gateway.emissionReport setup).isSuccess := by
  obtain ⟨journal, generated⟩ := gateway.generateScript_eq setup id
  rw [generated]
  cases id with
  | none => rfl
  | some id => exact memory_tell _

theorem memory_complete (call : PendingCall) (message : ServiceMessage) (raw : String) :
    (gateway.complete setup call message raw).memory =
      gateway.memory.visit (call.plan.openedPage? message) := by
  unfold complete
  rw [memory_answer]
  cases plan : call.plan with
  | relay => rfl
  | mergeTools => rfl
  | navigate url =>
      cases success : message.isSuccess <;>
        simp [visit, ResponsePlan.openedPage?, success, Memory.visit, memory, note, withHost,
          Host.note, Outside.note]

/-- Only the response to a pending call opens a page. -/
theorem memory_handleServiceOutput (setup : Setup) (gateway : Gateway) (line : String) :
    (gateway.handleServiceOutput setup line).memory =
      gateway.memory.visit ((response? setup line).bind fun response =>
        (CallTable.find? gateway.pending response.id).bind fun call =>
          call.plan.openedPage? response.message) := by
  cases isResponse : ServiceMessage.response? line with
  | none =>
      simp only [response?, isResponse, Option.bind_none]
      rcases gateway.toExchange.classify_other setup isResponse with
        ⟨raw, unmatched⟩ | ⟨failure, garbage⟩
      · unfold handleServiceOutput
        simp only [unmatched]
        exact memory_tell raw
      · unfold handleServiceOutput
        simp only [garbage]
        rfl
  | some response =>
      obtain ⟨id, message⟩ := response
      cases isProbe : Exchange.isProbeId setup id with
      | true =>
          simp only [response?, isResponse, Option.bind_some, isProbe, if_true, Option.bind_none,
            handleServiceOutput, Exchange.classify_probe _ isResponse isProbe]
          have answered := memory_withExchange
            ((gateway.withExchange gateway.toExchange).toExchange.serves_onProbeResponse setup)
          split
          · exact memory_drainQueue.trans answered
          · exact answered
      | false =>
          simp only [response?, isResponse, Option.bind_some, isProbe, Bool.false_eq_true, if_false,
            handleServiceOutput, Exchange.classify_response _ isResponse isProbe]
          cases found : CallTable.find? gateway.pending id with
          | some call => exact memory_complete call message _
          | none =>
              cases timedOut : gateway.expired.any fun call => call.id = id with
              | true => rfl
              | false => exact memory_tell _

end Gateway

end BrowserRelay
