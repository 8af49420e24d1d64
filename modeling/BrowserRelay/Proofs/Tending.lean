import BrowserRelay.Proofs.Calls

/-!
# Tending the timers

Seen from the timers little happens: a process is started, becomes ready, is taken for not ready
or is lost, a call comes in with its deadline, and calls leave and take their deadlines with
them.  Every step of the gateway is a course of such changes.  Only where the deadline of a call
is handled without having elapsed does the call leave it behind.
-/

namespace BrowserRelay

/-- A change of the timers together with the state of the service and the calls in flight.
`stale` are the calls that may leave their deadlines behind. -/
inductive Tending (setup : Setup) (stale : RequestId → Prop) : Traffic → Traffic → Prop
  /-- Calls leave, and their deadlines are disarmed. -/
  | left {before after : Traffic} (ids : List RequestId) (state : after.state = before.state)
      (calls : ∀ id, id ∈ after.inFlight ↔ id ∈ before.inFlight ∧ id ∉ ids)
      (armed : ∀ timer, after.armed timer =
        if timer ∈ ids.map Timer.callDeadline then none else before.armed timer) :
      Tending setup stale before after
  /-- A call leaves, and its deadline stays as it is. -/
  | overdue {before after : Traffic} {id : RequestId} (untimely : stale id)
      (state : after.state = before.state)
      (calls : ∀ other, other ∈ after.inFlight ↔ other ∈ before.inFlight ∧ other ≠ id)
      (armed : after.armed = before.armed) : Tending setup stale before after
  /-- A message is taken in, with a deadline if it is a call. -/
  | takenIn {before : Traffic} (entry : QueuedRequest) :
      Tending setup stale before (before.takeIn setup entry)
  /-- A process is started where there was none. -/
  | launched {before : Traffic} (idle : before.state = .noProcess) :
      Tending setup stale before (before.launch setup)
  /-- A process cannot be started where there was none. -/
  | launchFailed {before : Traffic} (idle : before.state = .noProcess) :
      Tending setup stale before before.failLaunch
  /-- The process becomes ready. -/
  | woken {before : Traffic} (starting : before.state = .starting) :
      Tending setup stale before (before.wake setup)
  /-- The process is taken for not ready. -/
  | demoted {before : Traffic} (ready : before.state = .ready) :
      Tending setup stale before before.demote
  /-- A probe cannot be written to the process. -/
  | probeRefused {before : Traffic} (running : before.state ≠ .noProcess) :
      Tending setup stale before (before.demote.disarm .probeInterval)
  /-- The process is gone; it may be started again after a while. -/
  | lost {before : Traffic} (backoff : Option Nat) (running : before.state ≠ .noProcess) :
      Tending setup stale before (before.release.armRestart backoff)
  /-- A timer that fires once has elapsed, and is not the deadline of a call. -/
  | elapsed {before : Traffic} {timer : Timer} {delay : Nat}
      (armed : before.armed timer = some (.once delay))
      (other : ∀ id, timer ≠ .callDeadline id) : Tending setup stale before (before.disarm timer)

/-- Changes one after the other. -/
abbrev Tendings (setup : Setup) (stale : RequestId → Prop) : Traffic → Traffic → Prop :=
  Relation.ReflTransGen (Tending setup stale)

theorem mem_rest_iff {all gone rest : List RequestId} (once : all.Nodup)
    (parts : all.Perm (gone ++ rest)) (id : RequestId) : id ∈ rest ↔ id ∈ all ∧ id ∉ gone := by
  have apart := (List.nodup_append.mp (parts.nodup once)).2.2
  rw [parts.mem_iff, List.mem_append]
  constructor
  · exact fun kept => ⟨.inr kept, fun left => apart id left id kept rfl⟩
  · exact fun either => either.1.resolve_left either.2

section Changes

variable {setup : Setup} {stale : RequestId → Prop} {before after traffic : Traffic}

/-! ## Single changes -/

namespace Tending

/-- Nothing changes for the timers. -/
theorem unchanged (state : after.state = before.state) (calls : after.inFlight = before.inFlight)
    (armed : after.armed = before.armed) : Tending setup stale before after :=
  .left [] state (by simp [calls]) (by simp [armed])

/-- Calls leave if they are taken out of those in flight, none of which is there twice. -/
theorem leave (ids : List RequestId) (once : before.inFlight.Nodup)
    (calls : before.inFlight.Perm (ids ++ after.inFlight)) (state : after.state = before.state)
    (armed : ∀ timer, after.armed timer =
      if timer ∈ ids.map Timer.callDeadline then none else before.armed timer) :
    Tending setup stale before after := by
  exact .left ids state (mem_rest_iff once calls) armed

end Tending

namespace Traffic

theorem armed_disarm_callDeadline (traffic : Traffic) (id : RequestId) (timer : Timer) :
    (traffic.disarm (.callDeadline id)).armed timer =
      if timer ∈ [id].map Timer.callDeadline then none else traffic.armed timer := by
  simp [disarm, Function.update_apply]

theorem inFlight_eq_of_waiting (present : traffic.IsPresent) {entry : QueuedRequest}
    {rest : List QueuedRequest} (waiting : traffic.queue = entry :: rest) :
    traffic.inFlight =
      traffic.presentIds ++ (entry.id.toList ++ rest.filterMap QueuedRequest.id) := by
  rw [inFlight_of_waiting waiting, presentIds_eq present.pending]

theorem tending_write {entry : QueuedRequest} {rest : List QueuedRequest}
    (accountable : traffic.IsAccountable) (waiting : traffic.queue = entry :: rest) :
    Tending setup stale traffic ({ traffic with queue := rest }.write entry) := by
  refine .unchanged rfl ?_ rfl
  rw [inFlight_of_waiting waiting]
  exact inFlight_addPending fun id request => accountable.unsent (by simp [waiting, request])

/-- Those who wait leave when nothing will serve them. -/
theorem tending_failQueue (traffic : Traffic) (accountable : traffic.IsAccountable)
    (failure : Failure) : Tending setup stale traffic (traffic.failQueue failure) := by
  refine .leave (traffic.queue.filterMap QueuedRequest.id) accountable.nodup ?_ rfl
    fun timer => rfl
  have left : (traffic.failQueue failure).inFlight = traffic.pending.map PendingCall.id :=
    List.append_nil _
  rw [left]
  exact List.perm_append_comm

/-- When no process can be started either, those who wait leave. -/
theorem tendings_failLaunch (accountable : traffic.IsAccountable) (failure : Failure)
    (idle : traffic.state = .noProcess) :
    Tendings setup stale traffic (traffic.failLaunch.failQueue failure) :=
  .tail (.single (.launchFailed idle))
    (traffic.failLaunch.tending_failQueue accountable failure)

/-- A call that is failed leaves. -/
theorem tending_startedLate {id : RequestId} (accountable : traffic.IsAccountable)
    (failure : Failure) (waiting : RequestQueue.contains traffic.queue id = true) :
    Tending setup stale traffic ((traffic.withdraw id).fail id failure) :=
  .leave [id] accountable.nodup (perm_inFlight_withdraw waiting) rfl
    ((traffic.withdraw id).armed_disarm_callDeadline id)

theorem tending_respond {id : RequestId} {call : PendingCall} (accountable : traffic.IsAccountable)
    (line : String) (found : CallTable.find? traffic.pending id = some call) :
    Tending setup stale traffic (traffic.respond id line) :=
  .leave [id] accountable.nodup (perm_inFlight_resolve accountable found) rfl
    ((traffic.resolve id).armed_disarm_callDeadline id)

/-! ## The process is lost -/

/-- The calls of a process that is lost leave. -/
theorem tendings_lost (ids : List RequestId) (backoff : Option Nat)
    (accountable : traffic.IsAccountable) (running : traffic.state ≠ .noProcess)
    (state : after.state = .noProcess) (calls : traffic.inFlight.Perm (ids ++ after.inFlight))
    (armed : ∀ timer, after.armed timer =
      if timer ∈ ids.map Timer.callDeadline then none
      else (traffic.release.armRestart backoff).armed timer) :
    Tendings setup stale traffic after := by
  have lost : Tendings setup stale traffic (traffic.release.armRestart backoff) :=
    .single (.lost backoff running)
  exact lost.tail (.leave ids accountable.nodup calls state armed)

theorem tendings_ended (present : traffic.IsPresent) (accountable : traffic.IsAccountable)
    (failure : Failure) (backoff : Option Nat) (running : traffic.state ≠ .noProcess) :
    Tendings setup stale traffic ((traffic.release.armRestart backoff).failPresent failure) := by
  refine tendings_lost traffic.presentIds backoff accountable running rfl (.of_eq ?_)
    fun timer => rfl
  have gone : (traffic.release.armRestart backoff).forget.pending = [] :=
    pending_forget present.pending
  have left : ((traffic.release.armRestart backoff).failPresent failure).inFlight =
      traffic.queue.filterMap QueuedRequest.id := inFlight_of_pending_nil gone
  rw [left, inFlight, ← presentIds_eq present.pending]

variable {entry : QueuedRequest} {rest : List QueuedRequest}

/-- A message that could not be written waits again; the calls of the process leave. -/
theorem tendings_retried (present : traffic.IsPresent) (accountable : traffic.IsAccountable)
    (failure : Failure) (ready : traffic.state = .ready)
    (waiting : traffic.queue = entry :: rest) :
    Tendings setup stale traffic
      ((({ traffic with queue := rest }.refuse entry).release.failPresent failure).requeue
        { entry with attempts := entry.attempts + 1 }) := by
  refine tendings_lost traffic.presentIds none accountable (by simp [ready]) rfl (.of_eq ?_)
    fun timer => rfl
  have gone : traffic.forget.pending = [] := pending_forget present.pending
  rw [inFlight_eq_of_waiting present waiting, inFlight_of_waiting rfl]
  exact congrArg (fun calls => traffic.presentIds ++ (calls.map PendingCall.id ++ _)) gone.symm

/-- A message that could not be written is given up; it leaves with the calls of the process. -/
theorem tendings_abandoned (present : traffic.IsPresent) (accountable : traffic.IsAccountable)
    (failure : Failure) (ready : traffic.state = .ready)
    (waiting : traffic.queue = entry :: rest) :
    Tendings setup stale traffic
      ((({ traffic with queue := rest }.refuse entry).release.failPresent failure).failAll
        entry.id.toList failure) := by
  let lost := ({ traffic with queue := rest }.refuse entry).release
  refine tendings_lost (traffic.presentIds ++ entry.id.toList) none accountable
    (by simp [ready]) rfl (.of_eq ?_) fun timer => ?_
  · have gone : lost.forget.pending = [] := pending_forget present.pending
    have left : ((lost.failPresent failure).failAll entry.id.toList failure).inFlight =
        rest.filterMap QueuedRequest.id := inFlight_of_pending_nil gone
    rw [left, inFlight_eq_of_waiting present waiting, List.append_assoc]
  · have armed : ((lost.failPresent failure).failAll entry.id.toList failure).armed timer =
        if timer ∈ entry.id.toList.map Timer.callDeadline then none
        else if timer ∈ traffic.presentIds.map Timer.callDeadline then none
        else traffic.release.armed timer := rfl
    rw [armed, List.map_append]
    by_cases own : timer ∈ entry.id.toList.map Timer.callDeadline <;> simp [own, armRestart]

end Traffic

end Changes

/-! ## Handlers -/

namespace Gateway

variable {setup : Setup} {stale : RequestId → Prop} {gateway : Gateway}

theorem tendings_passOn_ready (setup : Setup) (gateway : Gateway) (entry : QueuedRequest)
    (ready : gateway.state = .ready)
    (present : { gateway.traffic with queue := entry :: gateway.queue }.IsPresent)
    (accountable : { gateway.traffic with queue := entry :: gateway.queue }.IsAccountable) :
    Tendings setup stale { gateway.traffic with queue := entry :: gateway.queue }
      (gateway.passOn setup entry).traffic := by
  let waiting := { gateway.traffic with queue := entry :: gateway.queue }
  have atHead : waiting.queue = entry :: gateway.queue := rfl
  have isReady : waiting.state = .ready := ready
  cases outcome : gateway.outside.writeOutcomes.next with
  | none =>
      rw [(passOn_written setup gateway entry ready outcome).1]
      exact .single (Traffic.tending_write accountable atHead)
  | some failure =>
      rcases traffic_passOn_refused setup gateway entry ready outcome with
        ⟨tooOften, passed⟩ | ⟨again, passed | ⟨respawn, passed⟩⟩
      · rw [passed]
        exact Traffic.tendings_abandoned present accountable failure isReady atHead
      all_goals
        have retried : Tendings setup stale waiting _ :=
          Traffic.tendings_retried present accountable connectionReset isReady atHead
        rw [passed]
      · exact retried.tail (.launched rfl)
      · have requeued : Move setup waiting _ := .retried connectionReset isReady atHead again
        exact retried.trans
          (Traffic.tendings_failLaunch (requeued.isAccountable present accountable) respawn rfl)

theorem tendings_passOnWaiting (setup : Setup) (count : Nat) (gateway : Gateway)
    (present : gateway.traffic.IsPresent) (accountable : gateway.traffic.IsAccountable) :
    Tendings setup stale gateway.traffic (gateway.passOnWaiting setup count).traffic := by
  induction count generalizing gateway with
  | zero => exact .refl
  | succ count ih =>
      rcases passOnWaiting_cases setup count gateway with
        ⟨-, same⟩ | ⟨entry, rest, ready, waiting, onward⟩
      · rw [same]
      · let ahead : Gateway := { gateway with queue := rest }
        have start : { ahead.traffic with queue := entry :: ahead.queue } = gateway.traffic := by
          rw [show ahead.queue = rest from rfl, ← waiting]
          rfl
        have moves := (moves_passOn_ready setup ahead entry ready).1
        have passed : Tendings setup stale _ (ahead.passOn setup entry).traffic :=
          tendings_passOn_ready setup ahead entry ready (start ▸ present) (start ▸ accountable)
        rw [start] at moves passed
        rw [onward]
        exact passed.trans (ih _ (moves.isPresent present)
          (moves.isAccountable present accountable))

theorem tendings_onServiceExited (setup : Setup) (generation : Nat) (code : Option Int)
    (present : gateway.traffic.IsPresent) (accountable : gateway.traffic.IsAccountable) :
    Tendings setup stale gateway.traffic
      (gateway.onServiceExited setup generation code).traffic := by
  by_cases current : gateway.isCurrent generation = true
  · rw [traffic_onServiceExited setup code current]
    exact Traffic.tendings_ended present accountable _ _ (Host.isCurrent_iff.mp current).1
  · rw [onServiceExited_stale setup code (Bool.not_eq_true _ ▸ current)]

theorem tendings_onServiceFailed (generation : Nat) (detail : String)
    (present : gateway.traffic.IsPresent) (accountable : gateway.traffic.IsAccountable) :
    Tendings setup stale gateway.traffic (gateway.onServiceFailed generation detail).traffic := by
  by_cases current : gateway.isCurrent generation = true
  · rw [traffic_onServiceFailed detail current]
    exact Traffic.tendings_ended present accountable _ none (Host.isCurrent_iff.mp current).1
  · rw [onServiceFailed_stale detail (Bool.not_eq_true _ ▸ current)]

/-! ## Timers that elapse -/

theorem tendings_onProbeTimer (setup : Setup) (gateway : Gateway)
    (accountable : gateway.traffic.IsAccountable) :
    Tendings setup stale gateway.traffic (gateway.onProbeTimer setup).traffic := by
  by_cases idle : gateway.state = .noProcess
  · rcases traffic_onProbeTimer_idle setup idle with launched | ⟨failure, failed⟩
    · rw [launched]
      exact .single (.launched idle)
    · rw [failed]
      exact Traffic.tendings_failLaunch accountable failure idle
  · obtain ⟨counted, missed, running, outcome⟩ := gateway.toExchange.probe_cases setup idle
    have first : Tendings setup stale gateway.traffic counted := by
      rcases missed with ⟨-, rfl⟩ | ⟨⟨ready, -⟩, rfl⟩
      · exact .refl
      · exact .single (.demoted ready)
    rw [traffic_onProbeTimer_running setup idle]
    rcases outcome with ⟨-, id, line, probed⟩ | ⟨-, refused⟩
    · rw [probed]
      exact first.tail (.unchanged rfl rfl rfl)
    · rw [refused]
      exact first.tail (.probeRefused running)

theorem tendings_onRestart (setup : Setup) (gateway : Gateway)
    (accountable : gateway.traffic.IsAccountable) :
    Tendings setup stale gateway.traffic (gateway.onRestart setup).traffic := by
  by_cases idle : gateway.state = .noProcess
  · rcases traffic_onRestart_idle setup idle with launched | ⟨failure, failed⟩
    · rw [launched]
      exact .single (.launched idle)
    · rw [failed]
      exact Traffic.tendings_failLaunch accountable failure idle
  · rw [onRestart_running setup idle]

theorem tendings_onStartupDeadline (setup : Setup) (gateway : Gateway)
    (accountable : gateway.traffic.IsAccountable) :
    Tendings setup stale gateway.traffic (gateway.onStartupDeadline setup).traffic := by
  rcases gateway.traffic_onStartupDeadline setup with same | ⟨id, failure, -, waiting, late⟩
  · rw [same]
  · rw [late]
    exact .single (Traffic.tending_startedLate accountable failure waiting)

/-- When the deadline of a call is handled, the call leaves, and no timer is touched. -/
theorem onCallDeadline_leaves (setup : Setup) (gateway : Gateway) (id : RequestId)
    (accountable : gateway.traffic.IsAccountable) :
    let later := (gateway.onCallDeadline setup id).traffic
    later.state = gateway.traffic.state ∧ later.armed = gateway.traffic.armed ∧
      ∀ other, other ∈ later.inFlight ↔ other ∈ gateway.traffic.inFlight ∧ other ≠ id := by
  intro later
  have leaves {others : List RequestId} (calls : gateway.traffic.inFlight.Perm (id :: others))
      (other : RequestId) :
      other ∈ others ↔ other ∈ gateway.traffic.inFlight ∧ other ≠ id := by
    have gone : gateway.traffic.inFlight.Perm ([id] ++ others) := calls
    simpa using mem_rest_iff accountable.nodup gone other
  rcases gateway.traffic_onCallDeadline setup id with
    ⟨call, found, late⟩ | ⟨unsent, ⟨waiting, late⟩ | ⟨unknown, same⟩⟩
  · obtain rfl := (CallTable.mem_of_find? found).2
    rw [show later = _ from late]
    exact ⟨rfl, rfl, leaves (Traffic.perm_inFlight_resolve accountable found)⟩
  · rw [show later = _ from late]
    exact ⟨rfl, rfl, leaves (Traffic.perm_inFlight_withdraw waiting)⟩
  · rw [show later = _ from same]
    have free : gateway.traffic.IsFree id := ⟨unsent, unknown⟩
    have absent := Traffic.not_mem_inFlight free
    refine ⟨rfl, rfl, fun other => (and_iff_left_of_imp ?_).symm⟩
    rintro flying rfl
    exact absent flying

theorem tendings_onTimer (setup : Setup) (gateway : Gateway) (timer : Timer)
    (untimely : ∀ id, timer = .callDeadline id → stale id)
    (accountable : gateway.traffic.IsAccountable) :
    Tendings setup stale gateway.traffic (gateway.onTimer setup timer).traffic := by
  cases timer with
  | firstProbe => exact gateway.tendings_onProbeTimer setup accountable
  | probeInterval => exact gateway.tendings_onProbeTimer setup accountable
  | startupDeadline => exact gateway.tendings_onStartupDeadline setup accountable
  | restart => exact gateway.tendings_onRestart setup accountable
  | callDeadline id =>
      obtain ⟨state, armed, calls⟩ := gateway.onCallDeadline_leaves setup id accountable
      exact .single (.overdue (untimely id rfl) state calls armed)
  | shutdownGrace => exact .refl

/-- A timer that elapses is disarmed if it fires once; in particular a call takes its deadline
with it. -/
theorem tendings_elapse (setup : Setup) (gateway : Gateway) (timer : Timer)
    (once : ∀ id rule, gateway.traffic.armed (.callDeadline id) = some rule →
      ∃ delay, rule = .once delay)
    (accountable : gateway.traffic.IsAccountable) :
    Tendings setup stale gateway.traffic (gateway.step setup (.elapse timer)).traffic := by
  rcases gateway.step_elapse_cases setup timer with
    ⟨-, same⟩ | ⟨period, armed, same⟩ | ⟨delay, armed, same⟩
  · rw [same]
  · rw [same]
    refine gateway.tendings_onTimer setup timer ?_ accountable
    rintro id rfl
    obtain ⟨delay, never⟩ := once id _ armed
    simp at never
  · rw [same]
    let disarmed : Gateway := { gateway with timers := gateway.timers.cancel timer }
    have disarm : disarmed.traffic = gateway.traffic.disarm timer :=
      gateway.traffic_cancelled timer
    have stillAccountable : disarmed.traffic.IsAccountable := disarm ▸ accountable
    by_cases deadline : ∃ id, timer = .callDeadline id
    · obtain ⟨id, rfl⟩ := deadline
      obtain ⟨state, kept, calls⟩ := disarmed.onCallDeadline_leaves setup id stillAccountable
      rw [disarm] at state kept calls
      refine .single (.left [id] state (fun other => ?_) fun other => ?_)
      · rw [List.mem_singleton]
        exact calls other
      · exact (congrFun kept other).trans (gateway.traffic.armed_disarm_callDeadline id other)
    · have other (id : RequestId) : timer ≠ .callDeadline id := fun same => deadline ⟨id, same⟩
      have first : Tending setup stale gateway.traffic disarmed.traffic :=
        disarm ▸ .elapsed armed other
      exact .head first (disarmed.tendings_onTimer setup timer
        (fun id same => absurd same (other id)) stillAccountable)

/-! ## Lines of the client and of the process -/

theorem tendings_handleServiceOutput (setup : Setup) (gateway : Gateway) (line : String)
    (present : gateway.traffic.IsPresent) (accountable : gateway.traffic.IsAccountable) :
    Tendings setup stale gateway.traffic (gateway.handleServiceOutput setup line).traffic := by
  by_cases wakes : ∃ id message, ServiceMessage.response? line = some (id, message) ∧
      Exchange.isProbeId setup id = true ∧ gateway.state = .starting
  · obtain ⟨id, message, isResponse, isProbe, starting⟩ := wakes
    obtain ⟨later, woken, -, drained⟩ := handleServiceOutput_woken isResponse isProbe starting
    have first : Tending setup stale gateway.traffic later.traffic := woken ▸ .woken starting
    rw [drained, drainQueue_eq]
    exact .head first (later.tendings_passOnWaiting setup _
      (woken ▸ present.wake setup) (woken ▸ accountable))
  · rcases traffic_handleServiceOutput_cases setup gateway line
        (fun id message isResponse isProbe starting =>
          wakes ⟨id, message, isResponse, isProbe, starting⟩) with
      same | ⟨raw, same⟩ | ⟨id, call, text, found, same⟩ | ⟨id, same⟩
    all_goals rw [same]
    · exact .single (.unchanged rfl rfl rfl)
    · exact .single (Traffic.tending_respond accountable text found)
    · exact .single (.unchanged rfl rfl rfl)

theorem tendings_forwardStarted (setup : Setup) {started : Gateway} {message : ClientMessage}
    {middle : Traffic} (same : started.traffic = middle.accept message.answerId)
    (settled : middle.IsSettled) (present : middle.IsPresent)
    (accountable : middle.IsAccountable)
    (free : ∀ id, message.answerId = some id → middle.IsFree id) :
    Tendings setup stale middle (forwardStarted setup started message).traffic := by
  have taken : Tending setup stale middle (middle.takeIn setup message.entry) := .takenIn _
  rcases forwardStarted_cases setup same settled with
    ⟨gateway, ready, -, -, passed, start⟩ | ⟨-, waits⟩
  · have goesOn : Tendings setup stale _ (gateway.passOn setup message.entry).traffic :=
      tendings_passOn_ready setup gateway message.entry ready
        (start ▸ present.takeIn setup message.entry)
        (start ▸ accountable.takeIn setup message.entry free)
    rw [passed]
    exact .head taken (start ▸ goesOn)
  · rw [waits]
    exact .single taken

theorem tendings_forward (setup : Setup) (gateway : Gateway) (message : ClientMessage)
    (settled : gateway.traffic.IsSettled) (present : gateway.traffic.IsPresent)
    (accountable : gateway.traffic.IsAccountable)
    (free : ∀ id, message.answerId = some id → gateway.traffic.IsFree id) :
    Tendings setup stale gateway.traffic (gateway.forward setup message).traffic := by
  rcases ensureStarted_cases setup (gateway.accept message) message.answerId with
    ⟨started, result, -, same | ⟨idle, same⟩⟩ | ⟨failure, unstarted, result, idle, same⟩
  · rw [forward_started result]
    exact tendings_forwardStarted setup (same.trans (gateway.traffic_accept message)) settled
      present accountable free
  · rw [toHost_accept] at idle
    have accepted : started.traffic = (gateway.traffic.launch setup).accept message.answerId := by
      rw [same, traffic_accept]
      rfl
    have launch : Move setup gateway.traffic (gateway.traffic.launch setup) := .launched idle
    rw [forward_started result]
    exact .head (.launched idle) (tendings_forwardStarted setup accepted
      (launch.isSettled settled) (launch.isPresent present) accountable free)
  · rw [toHost_accept] at idle
    rw [traffic_forward_unstarted result same]
    have turnedAway : Tending setup stale gateway.traffic
        (gateway.traffic.turnAway message.answerId failure) := .unchanged rfl rfl rfl
    exact .head turnedAway
      (Traffic.tendings_failLaunch (accountable.turnAway failure free) failure idle)

theorem tendings_handleClientLine (setup : Setup) (gateway : Gateway) (line : String)
    (settled : gateway.traffic.IsSettled) (present : gateway.traffic.IsPresent)
    (accountable : gateway.traffic.IsAccountable) :
    Tendings setup stale gateway.traffic (gateway.handleClientLine setup line).traffic := by
  rcases gateway.handleClientLine_cases setup line with
    ⟨message, -, forwarded, free⟩ | ⟨-, same | ⟨told, same⟩⟩
  · rw [forwarded]
    exact gateway.tendings_forward setup message settled present accountable free
  · rw [same]
  · rw [same]
    exact .single (.unchanged rfl rfl rfl)

/-! ## Steps -/

/-- What one step does to the timers.  Only where the deadline of a call is handled without
having elapsed may the call leave it behind. -/
theorem tendings_step (setup : Setup) (gateway : Gateway) (step : Step)
    (untimely : ∀ id, step = .event (.timer (.callDeadline id)) → stale id)
    (once : ∀ id rule, gateway.traffic.armed (.callDeadline id) = some rule →
      ∃ delay, rule = .once delay)
    (settled : gateway.traffic.IsSettled) (present : gateway.traffic.IsPresent)
    (accountable : gateway.traffic.IsAccountable) :
    Tendings setup stale gateway.traffic (gateway.step setup step).traffic := by
  cases step with
  | start =>
      rcases startService_cases setup gateway with
        ⟨outcome, started, result, -, same | ⟨idle, same⟩⟩ |
          ⟨failure, unstarted, result, idle, same⟩
      all_goals simp only [Gateway.step, result, same]
      · exact .refl
      · exact .single (.launched idle)
      · exact .single (.launchFailed idle)
  | elapse timer => exact gateway.tendings_elapse setup timer once accountable
  | meanwhile outside => exact .refl
  | event event =>
      cases event with
      | clientLine line =>
          exact gateway.tendings_handleClientLine setup line settled present accountable
      | clientClosed => exact .refl
      | serviceOutput generation line =>
          simp only [Gateway.step, handleEvent, onServiceOutput]
          split
          case isTrue => exact gateway.tendings_handleServiceOutput setup line present accountable
          case isFalse => exact .refl
      | serviceError generation line => exact .refl
      | serviceExited generation code =>
          exact tendings_onServiceExited setup generation code present accountable
      | serviceFailed generation detail =>
          exact tendings_onServiceFailed generation detail present accountable
      | timer timer =>
          refine gateway.tendings_onTimer setup timer (fun id same => ?_) accountable
          exact untimely id (same ▸ rfl)
      | shutdown => exact .refl

end Gateway

end BrowserRelay
