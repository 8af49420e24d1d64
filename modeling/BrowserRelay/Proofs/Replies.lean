import BrowserRelay.Proofs.Recording
import BrowserRelay.Proofs.ServiceSide

/-!
# What the client is sent

Lines are sent to the client only together with a deed that stands in the ledger.  In every step
the client is sent the lines that come with the deeds of the step, one after the other.  The relay
words them as compact JSON, but for those that it passes on from the process.
-/

namespace BrowserRelay

/-- The line that the client is sent with a deed. -/
def Deed.reply? : Deed → Option String
  | answered id answer => some (answer.line id)
  | told line => some line
  | _ => none

/-- A line of compact JSON. -/
def Json.IsCompact (line : String) : Prop := ∃ value : Json, line = value.compact

/-- A line of the process that can be read is passed on trimmed. -/
def ServiceMessage.Relays (line raw : String) : Prop :=
  raw = Text.trim line ∧ ∃ message, ServiceMessage.parse line = .ok message

/-- The lines that come with a deed are compact, but that the client may get a relayed one. -/
def Deed.IsWorded (relayed : String → Prop) : Deed → Prop
  | answered _ (.response line) => Json.IsCompact line ∨ relayed line
  | told line => Json.IsCompact line ∨ relayed line
  | probed _ _ line => Json.IsCompact line
  | _ => True

theorem Deed.IsWorded.of_reply? {relayed : String → Prop} {deed : Deed} {line : String}
    (worded : deed.IsWorded relayed) (reply : deed.reply? = some line) :
    Json.IsCompact line ∨ relayed line := by
  cases deed with
  | answered id answer =>
      obtain rfl := Option.some.inj reply
      cases answer with
      | response line => exact worded
      | failed failure => exact .inl ⟨_, rfl⟩
  | told told =>
      obtain rfl := Option.some.inj reply
      exact worded
  | _ => simp [reply?] at reply

namespace Outside

/-- Send lines to the client, one after the other. -/
def replyAll (outside : Outside) (lines : List String) : Outside :=
  lines.foldl reply outside

/-- What the client was sent, and how sending further lines turns out. -/
def voice (outside : Outside) : List String × Outcomes :=
  (outside.replies, outside.replyOutcomes)

theorem voice_reply (outside : Outside) (line : String) :
    (outside.reply line).voice =
      (outside.replies ++ (if outside.replyOutcomes.next = none then [line] else []),
        outside.replyOutcomes.later) := by
  cases outcome : outside.replyOutcomes.next with
  | none => simp [reply, outcome, voice]
  | some failure => simp [reply, outcome, voice, note]

theorem voice_replyAll_congr {outside other : Outside} (same : outside.voice = other.voice)
    (lines : List String) : (outside.replyAll lines).voice = (other.replyAll lines).voice := by
  induction lines generalizing outside other with
  | nil => exact same
  | cons line lines ih =>
      obtain ⟨replies, outcomes⟩ := Prod.mk.inj same
      exact ih (by rw [voice_reply, voice_reply, replies, outcomes])

/-- If no reply fails, the client gets all lines. -/
theorem voice_replyAll (outside : Outside) (success : outside.replyOutcomes = [])
    (lines : List String) :
    (outside.replyAll lines).voice = (outside.replies ++ lines, []) := by
  induction lines generalizing outside with
  | nil => simp [replyAll, voice, success]
  | cons line lines ih =>
      have said := outside.voice_reply line
      rw [success] at said
      obtain ⟨replies, outcomes⟩ := Prod.mk.inj said
      have rest := ih (outside.reply line) outcomes
      rw [replies] at rest
      rw [← List.singleton_append, ← List.append_assoc]
      exact rest

/-- The client is sent lines, as far as they reach it, and the run log gets notes; nothing else
becomes different at the edges. -/
structure Says (before : Outside) (lines : List String) (later : Outside) : Prop where
  edges : later = { before with
    replies := later.replies
    replyOutcomes := later.replyOutcomes
    journal := later.journal }
  voice : later.voice = (before.replyAll lines).voice

namespace Says

theorem trans {before middle later : Outside} {lines further : List String}
    (first : before.Says lines middle) (second : middle.Says further later) :
    before.Says (lines ++ further) later where
  edges := by
    rw [second.edges, first.edges]
  voice := by
    have joined : before.replyAll (lines ++ further) =
        (before.replyAll lines).replyAll further := List.foldl_append
    rw [joined, second.voice]
    exact voice_replyAll_congr first.voice further

theorem note (outside : Outside) (level : LogLevel) (type : String)
    (payload : List (String × Json)) : outside.Says [] (outside.note level type payload) :=
  ⟨rfl, rfl⟩

theorem reply (outside : Outside) (line : String) : outside.Says [line] (outside.reply line) where
  edges := by
    unfold Outside.reply
    split <;> rfl
  voice := rfl

end Says

theorem Serves.voice {before after : Outside} (serves : before.Serves after) :
    after.voice = before.voice := by
  rw [serves.edges]
  rfl

end Outside

/-! ## Exchanges -/

/-- From one exchange to another, deeds were done, worded as they are to be, and the client was
sent the lines that come with them. -/
def Exchange.Tells (relayed : String → Prop) (before after : Exchange) : Prop :=
  ∃ deeds, after.ledger = before.ledger ++ deeds ∧
    after.outside.voice = (before.outside.replyAll (deeds.filterMap Deed.reply?)).voice ∧
    ∀ deed ∈ deeds, deed.IsWorded relayed

namespace Exchange

variable {relayed : String → Prop}

namespace Tells

theorem same {before after : Exchange} (ledger : after.ledger = before.ledger)
    (voice : after.outside.voice = before.outside.voice) : Tells relayed before after :=
  ⟨[], by simp [ledger], voice, List.forall_mem_nil _⟩

theorem refl (exchange : Exchange) : Tells relayed exchange exchange := .same rfl rfl

theorem trans {before middle after : Exchange} (tells : Tells relayed before middle)
    (further : Tells relayed middle after) : Tells relayed before after := by
  obtain ⟨first, ledger, voice, worded⟩ := tells
  obtain ⟨second, ledgerLater, voiceLater, wordedLater⟩ := further
  refine ⟨first ++ second, by rw [ledgerLater, ledger, List.append_assoc], ?_,
    List.forall_mem_append.mpr ⟨worded, wordedLater⟩⟩
  rw [voiceLater, Outside.voice_replyAll_congr voice, Outside.replyAll, Outside.replyAll,
    Outside.replyAll, List.filterMap_append, List.foldl_append]

theorem of_same {before middle after : Exchange} (tells : Tells relayed middle after)
    (ledger : middle.ledger = before.ledger) (voice : middle.outside.voice = before.outside.voice) :
    Tells relayed before after :=
  (Tells.same ledger voice).trans tells

theorem silent {before after : Exchange} (deed : Deed) (silent : deed.reply? = none)
    (worded : deed.IsWorded relayed) (ledger : after.ledger = before.ledger ++ [deed])
    (voice : after.outside.voice = before.outside.voice) : Tells relayed before after :=
  ⟨[deed], ledger, by simp [silent, Outside.replyAll, voice],
    List.forall_mem_singleton.mpr worded⟩

end Tells

theorem tells_countMissed (setup : Setup) (exchange : Exchange) :
    exchange.Tells relayed (exchange.countMissed setup).2 :=
  .same (exchange.ledger_countMissed setup) (exchange.serves_countMissed setup).voice

theorem tells_sendProbe (setup : Setup) (exchange : Exchange) (demoted : Bool) :
    exchange.Tells relayed (exchange.sendProbe setup demoted).2 := by
  have voice := (exchange.serves_sendProbe setup demoted).voice
  unfold sendProbe at voice ⊢
  dsimp only at voice ⊢
  split
  case h_1 failure host failed =>
    rw [failed] at voice
    exact .same rfl voice
  case h_2 host done =>
    rw [done] at voice
    exact .silent (.probed _ _ _) rfl ⟨_, rfl⟩ rfl voice

theorem tells_start (setup : Setup) (exchange : Exchange) :
    exchange.Tells relayed (exchange.withHost (exchange.toHost.start setup).2) :=
  .same rfl (exchange.toHost.serves_start setup).voice

theorem tells_probe (setup : Setup) (exchange : Exchange) :
    exchange.Tells relayed (exchange.probe setup).2 := by
  have started : exchange.Tells relayed _ := exchange.tells_start setup
  unfold probe
  split
  · exact (exchange.tells_countMissed setup).trans (tells_sendProbe setup _ _)
  · split
    case h_1 outcome host result =>
      rw [result] at started
      exact started
    case h_2 failure host result =>
      rw [result] at started
      exact started

theorem tells_onProbeResponse (setup : Setup) (exchange : Exchange) :
    exchange.Tells relayed (exchange.onProbeResponse setup).2 :=
  .same (exchange.ledger_onProbeResponse setup) (exchange.serves_onProbeResponse setup).voice

theorem tells_dispatch (setup : Setup) (exchange : Exchange) (entry : QueuedRequest) :
    exchange.Tells relayed (exchange.dispatch setup entry).2 := by
  have voice := (exchange.serves_dispatch setup entry).voice
  unfold dispatch at voice ⊢
  split
  case isTrue ready =>
    rw [if_pos ready] at voice
    split
    case h_1 host result =>
      rw [result] at voice
      refine .silent (.written exchange.generation entry) rfl trivial ?_ voice
      unfold addPending
      split <;> rfl
    case h_2 failure host result =>
      rw [result] at voice
      exact .silent (.refused exchange.generation entry) rfl trivial
        (ledger_afterFailedWrite setup _ entry failure) voice
  case isFalse => exact .same rfl rfl

theorem tells_drainUpTo (setup : Setup) (count : Nat) (exchange : Exchange) :
    exchange.Tells relayed (exchange.drainUpTo setup count).2 := by
  induction count generalizing exchange with
  | zero => exact .refl exchange
  | succ count ih =>
      unfold drainUpTo
      split
      · split
        · exact .refl exchange
        · rename_i entry rest _
          have passed : Tells relayed _ _ :=
            tells_dispatch setup { exchange with queue := rest } entry
          exact ((Tells.same rfl rfl).trans passed).trans (ih _)
      · exact .refl exchange

theorem tells_classify (setup : Setup) (exchange : Exchange) (line : String) :
    exchange.Tells relayed (exchange.classify setup line).2 := by
  unfold classify
  split
  · exact .refl exchange
  · dsimp only
    split
    · split
      · exact .refl exchange
      · split
        · exact .same rfl rfl
        · split
          · exact .same rfl rfl
          · exact .refl exchange
    · exact .refl exchange

/-- The line that the client is to get of what the process said. -/
def ServiceOutput.raw? : ServiceOutput → Option String
  | matched _ _ raw => some raw
  | unmatched raw => some raw
  | _ => none

theorem relays_of_classify {setup : Setup} {exchange : Exchange} {line raw : String}
    (passed : (exchange.classify setup line).1.raw? = some raw) :
    ServiceMessage.Relays line raw := by
  unfold classify at passed
  split at passed
  · simp [ServiceOutput.raw?] at passed
  · rename_i message parsed
    refine ⟨?_, message, parsed⟩
    dsimp only at passed
    split at passed
    · split at passed
      · simp [ServiceOutput.raw?] at passed
      · split at passed
        · exact (Option.some.inj passed).symm
        · split at passed
          · simp [ServiceOutput.raw?] at passed
          · exact (Option.some.inj passed).symm
    · exact (Option.some.inj passed).symm

end Exchange

/-! ## Gateways -/

namespace Gateway

variable {setup : Setup} {relayed : String → Prop}

/-- From one gateway to another, deeds were done, worded as they are to be, and the client was
sent the lines that come with them. -/
abbrev Tells (relayed : String → Prop) (before after : Gateway) : Prop :=
  before.toExchange.Tells relayed after.toExchange

theorem tells_withExchange {before gateway : Gateway} {exchange : Exchange}
    (tells : before.toExchange.Tells relayed exchange) :
    before.Tells relayed (gateway.withExchange exchange) :=
  tells

theorem tells_tell (gateway : Gateway) {line : String}
    (worded : Json.IsCompact line ∨ relayed line) : gateway.Tells relayed (gateway.tell line) :=
  ⟨[.told line], rfl, rfl, List.forall_mem_singleton.mpr worded⟩

theorem tells_answer (gateway : Gateway) (id : RequestId) {answer : Answer}
    (worded : (Deed.answered id answer).IsWorded relayed) :
    gateway.Tells relayed (gateway.answer id answer) :=
  ⟨[.answered id answer], rfl, rfl, List.forall_mem_singleton.mpr worded⟩

theorem tells_answer_failed (gateway : Gateway) (id : RequestId) (failure : Failure) :
    gateway.Tells relayed (gateway.answer id (.failed failure)) :=
  gateway.tells_answer id (trivial : (Deed.answered id (.failed failure)).IsWorded relayed)

theorem tells_failCall (gateway : Gateway) (id : RequestId) (failure : Failure) :
    gateway.Tells relayed (gateway.failCall id failure) :=
  (tells_answer_failed (gateway.cancelDeadline id) id _).of_same rfl rfl

theorem tells_failCalls (gateway : Gateway) (calls : List PendingCall) (failure : Failure) :
    gateway.Tells relayed (gateway.failCalls calls failure) := by
  induction calls generalizing gateway with
  | nil => exact .refl _
  | cons call calls ih =>
      exact (gateway.tells_failCall call.id failure).trans (ih (gateway.failCall call.id failure))

theorem tells_failEntries (gateway : Gateway) (entries : List QueuedRequest)
    (failure : Failure) : gateway.Tells relayed (gateway.failEntries entries failure) := by
  induction entries generalizing gateway with
  | nil => exact .refl _
  | cons entry entries ih =>
      rw [failEntries, List.foldl_cons]
      cases entry.id with
      | none => exact ih gateway
      | some id => exact (gateway.tells_failCall id failure).trans (ih _)

theorem tells_failQueued (gateway : Gateway) (failure : Failure) :
    gateway.Tells relayed (gateway.failQueued failure) := by
  unfold failQueued
  dsimp only
  split
  · exact .same rfl rfl
  · exact (tells_failEntries _ gateway.queue failure).of_same rfl rfl

theorem tells_startService (setup : Setup) (gateway : Gateway) :
    gateway.Tells relayed (gateway.startService setup).2 := by
  have started : gateway.toExchange.Tells relayed _ := gateway.toExchange.tells_start setup
  unfold startService
  split
  all_goals
    rename_i result
    rw [result] at started
    exact started

theorem tells_ensureStarted (setup : Setup) (gateway : Gateway) (trigger : Option RequestId) :
    gateway.Tells relayed (gateway.ensureStarted setup trigger).2 := by
  have started : gateway.Tells relayed _ := gateway.tells_startService setup
  unfold ensureStarted
  split
  · exact .refl _
  · split
    all_goals
      rename_i result
      rw [result] at started
      exact started

theorem tells_settle (gateway : Gateway) (outcome : Exchange.DispatchOutcome) :
    gateway.Tells relayed (gateway.settle outcome) := by
  have reset : gateway.Tells relayed gateway.resetHealth := .same rfl rfl
  cases outcome with
  | queued => exact .refl _
  | sent => exact .refl _
  | retrying orphaned => exact reset.trans (tells_failCalls _ orphaned connectionReset)
  | respawnFailed failure orphaned =>
      exact (reset.trans (tells_failCalls _ orphaned connectionReset)).trans
        (tells_failQueued _ failure)
  | abandoned entry failure orphaned =>
      have others := reset.trans (tells_failCalls _ orphaned failure)
      unfold settle
      dsimp only
      split
      · exact others.trans (.same rfl rfl)
      · exact others.trans ((tells_failCall _ _ failure).of_same rfl rfl)

theorem tells_settleAll (gateway : Gateway) (outcomes : List Exchange.DispatchOutcome) :
    gateway.Tells relayed (gateway.settleAll outcomes) := by
  induction outcomes generalizing gateway with
  | nil => exact .refl _
  | cons outcome outcomes ih => exact (gateway.tells_settle outcome).trans (ih _)

/-! ### Lines of the client -/

theorem tells_record (setup : Setup) (gateway : Gateway) (message : ClientMessage) :
    gateway.Tells relayed (gateway.record setup message) := by
  obtain ⟨actions, files, journal, recorded⟩ := exists_record setup gateway message
  rw [recorded]
  exact .same rfl rfl

theorem tells_generateScript (setup : Setup) (gateway : Gateway) (id : Option RequestId) :
    gateway.Tells relayed (gateway.generateScript setup id) := by
  obtain ⟨journal, generated⟩ := gateway.generateScript_eq setup id
  have emitted : gateway.Tells relayed (gateway.afterEmission setup journal) := .same rfl rfl
  rw [generated]
  cases id with
  | none => exact emitted
  | some id => exact emitted.trans (tells_tell _ (.inl ⟨_, rfl⟩))

theorem tells_passOn (setup : Setup) (gateway : Gateway) (entry : QueuedRequest) :
    gateway.Tells relayed (gateway.passOn setup entry) :=
  (gateway.toExchange.tells_dispatch setup entry).trans (tells_settle (gateway.withExchange _) _)

theorem tells_forward (setup : Setup) (gateway : Gateway) (message : ClientMessage) :
    gateway.Tells relayed (gateway.forward setup message) := by
  have accepted : gateway.Tells relayed (gateway.accept message) := by
    unfold accept
    split
    · exact .refl _
    · exact .silent (.accepted _) rfl trivial rfl rfl
  have started := accepted.trans (tells_ensureStarted setup _ message.answerId)
  unfold forward
  dsimp only
  split
  case h_1 failure unstarted result =>
    rw [result] at started
    refine Exchange.Tells.trans ?_ (tells_failQueued _ failure)
    split
    · exact started
    · exact started.trans (tells_answer_failed unstarted _ _)
  case h_2 later result =>
    rw [result] at started
    refine Exchange.Tells.trans ?_ (tells_passOn setup _ _)
    refine (started.trans (later.tells_record setup message)).trans ?_
    split <;> exact .silent (.forwarded _) rfl trivial rfl rfl

theorem tells_acceptMessage (setup : Setup) (gateway : Gateway) (message : ClientMessage) :
    gateway.Tells relayed (gateway.acceptMessage setup message) := by
  unfold acceptMessage
  split
  · exact tells_generateScript setup gateway message.id
  · exact tells_forward setup gateway message

theorem tells_handleClientLine (setup : Setup) (gateway : Gateway) (line : String) :
    gateway.Tells relayed (gateway.handleClientLine setup line) := by
  unfold handleClientLine
  split
  · exact .refl _
  · split
    · exact (tells_tell (gateway.note _ _ _) (.inl ⟨_, rfl⟩)).of_same rfl rfl
    · unfold handleMessage
      split
      · exact tells_acceptMessage setup gateway _
      · split
        · exact tells_acceptMessage setup gateway _
        · exact (tells_tell (gateway.note _ _ _) (.inl ⟨_, rfl⟩)).of_same rfl rfl

/-! ### Lines and ends of processes, and timers -/

theorem tells_complete (setup : Setup) (gateway : Gateway) (call : PendingCall)
    (message : ServiceMessage) {raw : String} (passed : relayed raw) :
    gateway.Tells relayed (gateway.complete setup call message raw) := by
  have visited : gateway.Tells relayed (gateway.visit call.plan message) := by
    obtain ⟨page, journal, same⟩ := gateway.exists_visit call.plan message
    rw [same]
    exact .same rfl rfl
  have worded : Json.IsCompact (responseText setup call.plan message raw) ∨
      relayed (responseText setup call.plan message raw) := by
    cases call.plan with
    | relay => exact .inr passed
    | mergeTools => exact .inl ⟨_, rfl⟩
    | navigate url => exact .inr passed
  exact visited.trans (tells_answer _ _ worded)

theorem tells_drainQueue (setup : Setup) (gateway : Gateway) :
    gateway.Tells relayed (gateway.drainQueue setup) :=
  (gateway.toExchange.tells_drainUpTo setup gateway.queue.length).trans
    (tells_settleAll (gateway.withExchange _) _)

theorem tells_handleServiceOutput (setup : Setup) (gateway : Gateway) (line : String) :
    gateway.Tells (ServiceMessage.Relays line) (gateway.handleServiceOutput setup line) := by
  have start : gateway.Tells (ServiceMessage.Relays line)
      (gateway.withExchange (gateway.toExchange.classify setup line).2) :=
    tells_withExchange (gateway.toExchange.tells_classify setup line)
  have relays (raw : String)
      (passed : (gateway.toExchange.classify setup line).1.raw? = some raw) :
      ServiceMessage.Relays line raw := Exchange.relays_of_classify passed
  unfold handleServiceOutput
  generalize gateway.toExchange.classify setup line = classification at start relays ⊢
  obtain ⟨output, exchange⟩ := classification
  dsimp only at start relays ⊢
  generalize gateway.withExchange exchange = classified at start ⊢
  cases output with
  | probe =>
      have probed : gateway.Tells (ServiceMessage.Relays line)
          (classified.withExchange (classified.toExchange.onProbeResponse setup).2) :=
        tells_withExchange (start.trans (classified.toExchange.tells_onProbeResponse setup))
      dsimp only
      generalize classified.withExchange (classified.toExchange.onProbeResponse setup).2 =
        answered at probed ⊢
      split
      · exact probed.trans ((tells_drainQueue setup _).of_same rfl rfl)
      · exact probed
  | matched call message raw =>
      have calm : gateway.Tells (ServiceMessage.Relays line) (classified.cancelDeadline call.id) :=
        start.trans (.same rfl rfl)
      exact calm.trans (tells_complete setup _ call message (relays raw rfl))
  | unmatched raw => exact start.trans (classified.tells_tell (.inr (relays raw rfl)))
  | late id => exact start.trans (.same rfl rfl)
  | garbage failure => exact start.trans (.same rfl rfl)

theorem tells_failGeneration (gateway : Gateway) (generation : Nat) (detail : String) :
    gateway.Tells relayed (gateway.failGeneration generation detail) :=
  (tells_failCalls (withExchange _ _) _ _).of_same rfl rfl

theorem tells_onServiceExited (setup : Setup) (gateway : Gateway) (generation : Nat)
    (code : Option Int) :
    gateway.Tells relayed (gateway.onServiceExited setup generation code) := by
  have ended := (gateway.toHost.serves_onExit setup generation code).voice
  cases current : gateway.isCurrent generation with
  | false =>
      rw [onServiceExited_stale setup code current]
      exact .refl _
  | true =>
      rw [onServiceExited_current setup code current]
      exact (tells_failGeneration (gateway.withHost _) _ _).of_same rfl ended

theorem tells_onServiceFailed (gateway : Gateway) (generation : Nat) (detail : String) :
    gateway.Tells relayed (gateway.onServiceFailed generation detail) := by
  have ended := (gateway.toHost.serves_onFailed generation detail).voice
  cases current : gateway.isCurrent generation with
  | false =>
      rw [onServiceFailed_stale detail current]
      exact .refl _
  | true =>
      rw [onServiceFailed_current detail current]
      exact (tells_failGeneration (gateway.withHost _) _ _).of_same rfl ended

theorem tells_onProbeTimer (setup : Setup) (gateway : Gateway) :
    gateway.Tells relayed (gateway.onProbeTimer setup) := by
  have probed : gateway.toExchange.Tells relayed _ := gateway.toExchange.tells_probe setup
  unfold onProbeTimer
  dsimp only
  split
  · exact probed.trans (.same rfl rfl)
  · exact probed.trans (tells_failQueued (withExchange _ _) _)
  · exact probed

theorem tells_onStartupDeadline (setup : Setup) (gateway : Gateway) :
    gateway.Tells relayed (gateway.onStartupDeadline setup) := by
  unfold onStartupDeadline
  split
  · dsimp only
    split
    · exact .same rfl rfl
    · split
      · exact (tells_failCall _ _ _).of_same rfl rfl
      · exact .same rfl rfl
  · exact .refl _

theorem tells_onRestart (setup : Setup) (gateway : Gateway) :
    gateway.Tells relayed (gateway.onRestart setup) := by
  have started : gateway.toExchange.Tells relayed _ := gateway.toExchange.tells_start setup
  unfold onRestart
  split
  · exact .refl _
  · split
    · rename_i result
      rw [result] at started
      exact started.trans (.same rfl rfl)
    · rename_i result
      rw [result] at started
      exact started.trans (tells_failQueued (gateway.withHost _) _)

theorem tells_onCallDeadline (setup : Setup) (gateway : Gateway) (id : RequestId) :
    gateway.Tells relayed (gateway.onCallDeadline setup id) := by
  unfold onCallDeadline
  split
  · exact .refl _
  case h_2 taken result =>
    rw [takeExpired_eq result]
    exact (tells_answer_failed (note _ _ _ _) id _).of_same rfl rfl

theorem tells_onTimer (setup : Setup) (gateway : Gateway) (timer : Timer) :
    gateway.Tells relayed (gateway.onTimer setup timer) := by
  cases timer with
  | firstProbe => exact gateway.tells_onProbeTimer setup
  | probeInterval => exact gateway.tells_onProbeTimer setup
  | startupDeadline => exact gateway.tells_onStartupDeadline setup
  | restart => exact gateway.tells_onRestart setup
  | callDeadline id => exact gateway.tells_onCallDeadline setup id
  | shutdownGrace => exact .refl _

/-- A step with a line of the process may pass that line on. -/
def Relays : Step → String → Prop
  | .event (.serviceOutput _ line) => ServiceMessage.Relays line
  | _ => fun _ => False

theorem tells_handleEvent (setup : Setup) (gateway : Gateway) (event : Event) :
    gateway.Tells (Relays (.event event)) (gateway.handleEvent setup event) := by
  cases event with
  | clientLine line => exact gateway.tells_handleClientLine setup line
  | clientClosed => exact .refl _
  | serviceOutput generation line =>
      rw [handleEvent, onServiceOutput]
      split
      · exact gateway.tells_handleServiceOutput setup line
      · exact .same rfl rfl
  | serviceError generation line => exact .same rfl rfl
  | serviceExited generation code => exact gateway.tells_onServiceExited setup generation code
  | serviceFailed generation detail => exact gateway.tells_onServiceFailed generation detail
  | timer timer => exact gateway.tells_onTimer setup timer
  | shutdown => exact .refl _

theorem tells_step (setup : Setup) (gateway : Gateway) (step : Step)
    (live : ∀ other, step ≠ .meanwhile other) :
    gateway.Tells (Relays step) (gateway.step setup step) := by
  cases step with
  | start => exact gateway.tells_startService setup
  | event event => exact gateway.tells_handleEvent setup event
  | elapse timer =>
      unfold Gateway.step
      dsimp only
      split
      · exact .refl _
      · exact (tells_onTimer setup _ timer).of_same rfl rfl
  | meanwhile other => exact absurd rfl (live other)

/-- What `tells_step` says holds of whatever deeds the ledger has grown by. -/
theorem tells_deeds {gateway : Gateway} {step : Step} {deeds : List Deed}
    (grows : (gateway.step setup step).ledger = gateway.ledger ++ deeds) :
    (gateway.step setup step).outside.replies =
        (gateway.outside.replyAll (deeds.filterMap Deed.reply?)).replies ∧
      ∀ deed ∈ deeds, deed.IsWorded (Relays step) := by
  by_cases live : ∀ other, step ≠ .meanwhile other
  · obtain ⟨done, ledger, voice, worded⟩ := gateway.tells_step setup step live
    rw [List.append_cancel_left (grows.symm.trans ledger)]
    exact ⟨congrArg Prod.fst voice, worded⟩
  · obtain ⟨other, rfl⟩ : ∃ other, step = .meanwhile other := by simpa using live
    have same : gateway.ledger = gateway.ledger ++ deeds := grows
    rw [List.self_eq_append_right.mp same]
    exact ⟨rfl, List.forall_mem_nil _⟩

/-- What the client is sent in a step are the lines that come with the deeds of the step. -/
theorem replies_step {gateway : Gateway} {step : Step} {deeds : List Deed}
    (grows : (gateway.step setup step).ledger = gateway.ledger ++ deeds) :
    (gateway.step setup step).outside.replies =
      (gateway.outside.replyAll (deeds.filterMap Deed.reply?)).replies :=
  (tells_deeds grows).1

/-- The deeds of a step are worded as they are to be. -/
theorem worded_step {gateway : Gateway} {step : Step} {deeds : List Deed}
    (grows : (gateway.step setup step).ledger = gateway.ledger ++ deeds) :
    ∀ deed ∈ deeds, deed.IsWorded (Relays step) :=
  (tells_deeds grows).2

/-- If no reply fails, what the client was sent in a run are the lines that come with the deeds of
the run. -/
theorem replies_run (steps : List Step) (gateway : Gateway)
    (success : gateway.outside.replyOutcomes = [])
    (still : ∀ other, .meanwhile other ∈ steps → other.replyOutcomes = []) :
    ∃ deeds, (gateway.run setup steps).ledger = gateway.ledger ++ deeds ∧
      (gateway.run setup steps).outside.replies =
        gateway.outside.replies ++ deeds.filterMap Deed.reply? := by
  induction steps generalizing gateway with
  | nil => exact ⟨[], by simp, by simp⟩
  | cons first steps ih =>
      have stillLater (other : Outside) (listed : .meanwhile other ∈ steps) :=
        still other (List.mem_cons_of_mem _ listed)
      by_cases live : ∀ other, first ≠ .meanwhile other
      · obtain ⟨deeds, ledger, voice, -⟩ := gateway.tells_step setup first live
        rw [Outside.voice_replyAll _ success] at voice
        obtain ⟨replies, outcomes⟩ := Prod.mk.inj voice
        obtain ⟨later, ledgerLater, repliesLater⟩ := ih _ outcomes stillLater
        refine ⟨deeds ++ later, ?_, ?_⟩
        · rw [run_cons, ledgerLater, ledger, List.append_assoc]
        · rw [run_cons, repliesLater, replies, List.filterMap_append, List.append_assoc]
      · obtain ⟨other, rfl⟩ : ∃ other, first = .meanwhile other := by simpa using live
        exact ih (gateway.step setup (.meanwhile other)) (still other List.mem_cons_self) stillLater

end Gateway

end BrowserRelay
