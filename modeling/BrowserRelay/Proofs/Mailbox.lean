import BrowserRelay.Proofs.ArmedDeadlines

/-!
# Events that wait to be handled

Events wait in the order in which they arrive, whether they come from the client, from the process
or from a timer.  A timer that elapses puts its event behind all others, and disarming the timer
or arming it again does not take the event back.  So a deadline may be handled when it is no longer
that of the call in flight or of the process that is starting.  Which it is can be told from what
was done since the event was put there.
-/

namespace BrowserRelay

/-! ## Mail -/

/-- Whether an event is that of a timer. -/
def Event.isTimer : Event → Bool
  | timer _ => true
  | _ => false

/-- An event that waits to be handled.  If it is that of a timer, the arm that has elapsed is kept
with it; further which events stood ahead of it when it was put there, how many processes had been
started by then, and how many deeds done. -/
structure Mail where
  event : Event
  arm? : Option TimerArm
  ahead : List Event
  generation : Nat
  done : Nat
  deriving DecidableEq

/-- An event loop with the events that wait for it.  For the account only, it is kept which arm
limits the time of the call with an identifier, and of the latest start: the one that was there
after the event in which the request was accepted or the process started. -/
structure Mailbox where
  loop : EventLoop
  waiting : List Mail := []
  callArm : RequestId → Option TimerArm := fun _ => none
  startArm : Option TimerArm := none

/-- One thing that happens to a mailbox. -/
inductive Incident where
  /-- An event arrives from the client, the process or the system. -/
  | arrive (event : Event) (outer : event.isTimer = false)
  /-- A timer elapses, if it is armed, and its event arrives. -/
  | elapse (timer : Timer)
  /-- The event that has waited longest is handled. -/
  | deliver
  /-- From now on the clock, the files and the outcomes to come are others. -/
  | meanwhile (outside : Outside)

namespace Mailbox

/-- The mail that an event becomes when it is put behind all others. -/
def stamp (box : Mailbox) (event : Event) (arm? : Option TimerArm) : Mail where
  event := event
  arm? := arm?
  ahead := box.waiting.map Mail.event
  generation := box.loop.gateway.generation
  done := box.loop.gateway.ledger.length

def post (box : Mailbox) (event : Event) (arm? : Option TimerArm) : Mailbox :=
  { box with waiting := box.waiting ++ [box.stamp event arm?] }

/-- Hand an event to the loop. -/
def handle (setup : Setup) (box : Mailbox) (event : Event) : Mailbox :=
  let loop := box.loop.handle setup event
  { box with
    loop := loop
    callArm :=
      match box.loop.accepted? setup (.handle event) with
      | none => box.callArm
      | some id => Function.update box.callArm id (loop.gateway.timers.arm? (.callDeadline id))
    startArm :=
      if loop.gateway.generation = box.loop.gateway.generation then box.startArm
      else loop.gateway.timers.arm? .startupDeadline }

/-- Let a timer elapse.  It is disarmed if it fires once. -/
def elapse (setup : Setup) (box : Mailbox) (timer : Timer) : Mailbox :=
  { box with loop := box.loop.step setup (.elapse timer) }

/-- What one incident does. -/
def step (setup : Setup) (box : Mailbox) : Incident → Mailbox
  | .arrive event _ => box.post event none
  | .elapse timer =>
      match box.loop.gateway.timers.arm? timer with
      | none => box
      | some arm => (box.elapse setup timer).post (.timer timer) (some arm)
  | .deliver =>
      match box.waiting with
      | [] => box
      | mail :: waiting => ({ box with waiting := waiting }).handle setup mail.event
  | .meanwhile outside => { box with loop := box.loop.step setup (.meanwhile outside) }

/-- The mailbox of a loop that has just started. -/
def start (setup : Setup) (outside : Outside) : Mailbox where
  loop := EventLoop.start setup outside
  startArm := (EventLoop.start setup outside).gateway.timers.arm? .startupDeadline

/-- The mailbox after incidents from the start. -/
def after (setup : Setup) (outside : Outside) (incidents : List Incident) : Mailbox :=
  incidents.foldl (step setup) (start setup outside)

theorem after_concat (setup : Setup) (outside : Outside) (incidents : List Incident)
    (last : Incident) : after setup outside (incidents ++ [last]) =
      (after setup outside incidents).step setup last :=
  List.foldl_append

/-- Seen from the loop, its run is one of those in which any event may be handled. -/
theorem exists_loop_eq (setup : Setup) (outside : Outside) (incidents : List Incident) :
    ∃ steps, (after setup outside incidents).loop = EventLoop.after setup outside steps := by
  induction incidents using List.reverseRecOn with
  | nil => exact ⟨[], rfl⟩
  | append_singleton incidents last ih =>
      obtain ⟨steps, same⟩ := ih
      have further (step : LoopStep) : ∃ steps,
          (after setup outside incidents).loop.step setup step =
            EventLoop.after setup outside steps :=
        ⟨steps ++ [step], by rw [EventLoop.after_concat, same]⟩
      rw [after_concat]
      cases last with
      | arrive event outer => exact ⟨steps, same⟩
      | meanwhile other => exact further (.meanwhile other)
      | elapse timer =>
          unfold step
          dsimp only
          split
          · exact ⟨steps, same⟩
          · exact further (.elapse timer)
      | deliver =>
          unfold step
          dsimp only
          split
          · exact ⟨steps, same⟩
          case h_2 mail waiting _ => exact further (.handle mail.event)

theorem isSound_after (setup : Setup) (outside : Outside) (incidents : List Incident)
    (going : (after setup outside incidents).loop.isEnded = false) :
    EventLoop.IsSound (after setup outside incidents).loop.gateway := by
  obtain ⟨steps, same⟩ := exists_loop_eq setup outside incidents
  rw [same] at going ⊢
  exact EventLoop.isSound_after setup outside steps going

/-! ## The account of the arms -/

/-- What is known of an event that waits.  If it is that of a deadline, the arm that has elapsed
is gone, and it limits the time of the call in question, or of the latest start, just if no request
with its identifier was accepted, or no process started, since the event was put there. -/
structure Tracks (box : Mailbox) (mail : Mail) : Prop where
  generation : mail.generation ≤ box.loop.gateway.generation
  done : mail.done ≤ box.loop.gateway.ledger.length
  elapsed : ∀ timer, timer.isDeadline = true → mail.event = .timer timer →
    ∃ arm, mail.arm? = some arm ∧ arm.ticket < box.loop.gateway.timers.nextTicket ∧
      box.loop.gateway.timers.arm? timer ≠ some arm
  call : ∀ id, mail.event = .timer (.callDeadline id) →
    (box.callArm id = mail.arm? ↔ .accepted id ∉ box.loop.gateway.ledger.drop mail.done)
  start : mail.event = .timer .startupDeadline →
    (box.startArm = mail.arm? ↔ box.loop.gateway.generation = mail.generation)

/-- The deadlines that are armed are those on account, and every event that waits is tracked. -/
structure IsTracked (box : Mailbox) : Prop where
  meant : box.loop.gateway.traffic.IsMeant
  ticket : ∀ timer arm, timer.isDeadline = true → box.loop.gateway.timers.arm? timer = some arm →
    arm.ticket < box.loop.gateway.timers.nextTicket
  call : ∀ id arm, box.loop.gateway.timers.arm? (.callDeadline id) = some arm →
    box.callArm id = some arm
  start : ∀ arm, box.loop.gateway.timers.arm? .startupDeadline = some arm →
    box.startArm = some arm
  mail : ∀ mail ∈ box.waiting, box.Tracks mail

section Handling

variable {setup : Setup} {box : Mailbox}

theorem callArm_handle (setup : Setup) (box : Mailbox) (event : Event) (id : RequestId) :
    (box.handle setup event).callArm id =
      if box.loop.accepted? setup (.handle event) = some id then
        (box.handle setup event).loop.gateway.timers.arm? (.callDeadline id)
      else box.callArm id := by
  unfold handle
  cases box.loop.accepted? setup (.handle event) with
  | none => simp
  | some other =>
      by_cases same : other = id
      · subst same
        simp
      · simp [same, Function.update_of_ne (Ne.symm same)]

/-- An arm that has elapsed is not there again after an event was handled. -/
theorem elapsed_handle (setup : Setup) (event : Event) {timer : Timer} {arm : TimerArm}
    (deadline : timer.isDeadline = true)
    (past : arm.ticket < box.loop.gateway.timers.nextTicket)
    (gone : box.loop.gateway.timers.arm? timer ≠ some arm) :
    (box.handle setup event).loop.gateway.timers.arm? timer ≠ some arm := by
  intro again
  have apart : timer ≠ .shutdownGrace := Timer.ne_of_isDeadline deadline rfl
  cases (box.loop.rearms_handle setup event apart).1 with
  | same kept => exact gone (kept.symm.trans again)
  | disarmed none => exact absurd (none.symm.trans again) (by simp)
  | armed new made fresh =>
      obtain rfl := Option.some.inj (made.symm.trans again)
      have atLeast : box.loop.gateway.timers.nextTicket ≤ new.ticket := fresh
      omega

theorem Tracks.handle (setup : Setup) (event : Event) {mail : Mail}
    (sound : box.loop.isEnded = false → EventLoop.IsSound box.loop.gateway)
    (tracks : box.Tracks mail) : (box.handle setup event).Tracks mail := by
  obtain ⟨deeds, ledger, accepts⟩ := box.loop.ledger_handle setup event sound
  have apart : Timer.startupDeadline ≠ .shutdownGrace := by simp
  have proceeds := (box.loop.rearms_handle setup event apart).2
  have generation : box.loop.gateway.generation ≤
      (box.handle setup event).loop.gateway.generation := proceeds.generation
  have ticket : box.loop.gateway.timers.nextTicket ≤
      (box.handle setup event).loop.gateway.timers.nextTicket := proceeds.ticket
  have done : (box.handle setup event).loop.gateway.ledger.drop mail.done =
      box.loop.gateway.ledger.drop mail.done ++ deeds :=
    (congrArg (List.drop mail.done) ledger).trans (List.drop_append_of_le_length tracks.done)
  have elapsed (timer : Timer) (deadline : timer.isDeadline = true)
      (own : mail.event = .timer timer) : ∃ arm, mail.arm? = some arm ∧
        arm.ticket < (box.handle setup event).loop.gateway.timers.nextTicket ∧
        (box.handle setup event).loop.gateway.timers.arm? timer ≠ some arm := by
    obtain ⟨arm, listed, past, gone⟩ := tracks.elapsed timer deadline own
    exact ⟨arm, listed, by omega, elapsed_handle setup event deadline past gone⟩
  constructor
  · exact Nat.le_trans tracks.generation generation
  · have length := congrArg List.length ledger
    rw [List.length_append] at length
    calc
      mail.done ≤ box.loop.gateway.ledger.length := tracks.done
      _ ≤ box.loop.gateway.ledger.length + deeds.length := Nat.le_add_right _ _
      _ = (box.handle setup event).loop.gateway.ledger.length := length.symm
  · exact elapsed
  · intro id own
    obtain ⟨arm, listed, -, gone⟩ := elapsed (.callDeadline id) rfl own
    rw [callArm_handle, done, List.mem_append, accepts, not_or]
    split
    case isTrue accepted =>
      refine iff_of_false (fun again => ?_) fun neither => neither.2 accepted
      exact gone (again.trans listed)
    case isFalse unaccepted => rw [tracks.call id own, and_iff_left unaccepted]
  · intro own
    obtain ⟨arm, listed, -, gone⟩ := elapsed .startupDeadline rfl own
    have before := tracks.start own
    have atMost := tracks.generation
    by_cases same : (box.handle setup event).loop.gateway.generation = box.loop.gateway.generation
    · have kept : (box.handle setup event).startArm = box.startArm := if_pos same
      rw [kept, same]
      exact before
    · have renewed : (box.handle setup event).startArm =
          (box.handle setup event).loop.gateway.timers.arm? .startupDeadline := if_neg same
      rw [renewed]
      refine iff_of_false (fun again => gone (again.trans listed)) ?_
      omega

theorem IsTracked.handle (setup : Setup) (event : Event)
    (sound : box.loop.isEnded = false → EventLoop.IsSound box.loop.gateway)
    (tracked : box.IsTracked) : (box.handle setup event).IsTracked := by
  have rearms {timer : Timer} (deadline : timer.isDeadline = true) := by
    have apart : timer ≠ .shutdownGrace := Timer.ne_of_isDeadline deadline rfl
    exact box.loop.rearms_handle setup event apart
  constructor
  · exact EventLoop.isMeant_handle setup event sound tracked.meant
  · intro timer arm deadline armed
    obtain ⟨rearms, proceeds⟩ := rearms deadline
    cases rearms with
    | same kept =>
        exact Nat.lt_of_lt_of_le (tracked.ticket timer arm deadline (kept.symm.trans armed))
          proceeds.ticket
    | disarmed none => exact absurd (none.symm.trans armed) (by simp)
    | armed new made fresh given =>
        obtain rfl := Option.some.inj (made.symm.trans armed)
        exact given
  · intro id arm armed
    rw [callArm_handle]
    split
    case isTrue => exact armed
    case isFalse unaccepted =>
      have deadline : (Timer.callDeadline id).isDeadline = true := rfl
      cases (rearms deadline).1 with
      | same kept => exact tracked.call id arm (kept.symm.trans armed)
      | disarmed none => exact absurd (none.symm.trans armed) (by simp)
      | armed new made fresh given apart own => exact absurd (own id rfl) unaccepted
  · intro arm armed
    by_cases same : (box.handle setup event).loop.gateway.generation = box.loop.gateway.generation
    · have kept : (box.handle setup event).startArm = box.startArm := if_pos same
      have deadline : Timer.startupDeadline.isDeadline = true := rfl
      rw [kept]
      cases (rearms deadline).1 with
      | same kept => exact tracked.start arm (kept.symm.trans armed)
      | disarmed none => exact absurd (none.symm.trans armed) (by simp)
      | armed new made fresh given apart own started =>
          exact absurd same (Nat.ne_of_gt (started rfl))
    · have renewed : (box.handle setup event).startArm =
          (box.handle setup event).loop.gateway.timers.arm? .startupDeadline := if_neg same
      exact renewed.trans armed
  · exact fun mail listed => (tracked.mail mail listed).handle setup event sound

/-- Which other events wait plays no part. -/
theorem Tracks.beside {mail : Mail} (tracks : box.Tracks mail) (waiting : List Mail) :
    ({ box with waiting := waiting } : Mailbox).Tracks mail :=
  ⟨tracks.generation, tracks.done, tracks.elapsed, tracks.call, tracks.start⟩

/-- An event that is put behind the others is tracked from then on. -/
theorem IsTracked.post (tracked : box.IsTracked) {event : Event} {arm? : Option TimerArm}
    (tracks : box.Tracks (box.stamp event arm?)) : (box.post event arm?).IsTracked where
  meant := tracked.meant
  ticket := tracked.ticket
  call := tracked.call
  start := tracked.start
  mail mail listed := by
    rcases List.mem_append.mp listed with waits | new
    · exact (tracked.mail mail waits).beside _
    · rw [List.mem_singleton.mp new]
      exact tracks.beside _

/-- No arm comes to be there when a timer elapses. -/
theorem arm?_elapse {timer other : Timer} {arm : TimerArm}
    (armed : (box.elapse setup timer).loop.gateway.timers.arm? other = some arm) :
    box.loop.gateway.timers.arm? other = some arm := by
  have fires : (box.loop.gateway.timers.fire timer).2.arm? other = some arm := armed
  rcases box.loop.gateway.timers.fire_snd timer with same | cancelled
  · rwa [same] at fires
  · rw [cancelled, TimerTable.arm?_cancel] at fires
    by_cases same : other = timer
    · subst same
      simp at fires
    · rwa [Function.update_of_ne same] at fires

theorem IsTracked.elapse (tracked : box.IsTracked) (timer : Timer) :
    (box.elapse setup timer).IsTracked := by
  have ticket : (box.elapse setup timer).loop.gateway.timers.nextTicket =
      box.loop.gateway.timers.nextTicket := TimerTable.nextTicket_fire _ _
  constructor
  · refine tracked.meant.arm rfl fun other rule _ armed => ?_
    obtain ⟨arm, isArmed, rfl⟩ := Option.map_eq_some_iff.mp armed
    exact congrArg (Option.map TimerArm.rule) (arm?_elapse isArmed)
  · intro other arm deadline armed
    rw [ticket]
    exact tracked.ticket other arm deadline (arm?_elapse armed)
  · exact fun id arm armed => tracked.call id arm (arm?_elapse armed)
  · exact fun arm armed => tracked.start arm (arm?_elapse armed)
  · intro mail listed
    have tracks := tracked.mail mail listed
    refine ⟨tracks.generation, tracks.done, fun other deadline own => ?_, tracks.call, tracks.start⟩
    obtain ⟨arm, kept, past, gone⟩ := tracks.elapsed other deadline own
    exact ⟨arm, kept, ticket ▸ past, fun armed => gone (arm?_elapse armed)⟩

/-- The event of a deadline that has just elapsed is that of the present call or start. -/
theorem IsTracked.elapsed (tracked : box.IsTracked) {timer : Timer} {arm : TimerArm}
    (armed : box.loop.gateway.timers.arm? timer = some arm) :
    (box.elapse setup timer).Tracks
      ((box.elapse setup timer).stamp (.timer timer) (some arm)) := by
  constructor
  · exact Nat.le_refl _
  · exact Nat.le_refl _
  · intro other deadline own
    obtain rfl := Event.timer.inj own
    refine ⟨arm, rfl, ?_, ?_⟩
    · have ticket := TimerTable.nextTicket_fire box.loop.gateway.timers timer
      exact Nat.lt_of_lt_of_eq (tracked.ticket timer arm deadline armed) ticket.symm
    · -- A deadline fires once, so that its arm is gone.
      have rule : box.loop.gateway.traffic.armed timer = some arm.rule :=
        congrArg (Option.map TimerArm.rule) armed
      obtain ⟨delay, fires⟩ := tracked.meant.once timer arm.rule deadline rule
      have gone : (box.loop.gateway.timers.fire timer).2 =
          box.loop.gateway.timers.cancel timer := by
        obtain ⟨own, fired, number⟩ := arm
        obtain rfl : fired = .once delay := fires
        simp only [TimerTable.fire, armed]
      have unarmed : (box.elapse setup timer).loop.gateway.timers.arm? timer = none := by
        refine (congrArg (fun table => TimerTable.arm? table timer) gone).trans ?_
        rw [TimerTable.arm?_cancel, Function.update_self]
      rw [unarmed]
      exact Option.some_ne_none arm ∘ Eq.symm
  · intro id own
    obtain rfl := Event.timer.inj own
    have none : (box.elapse setup (.callDeadline id)).loop.gateway.ledger.drop
        ((box.elapse setup (.callDeadline id)).stamp (.timer (.callDeadline id)) (some arm)).done =
          [] := List.drop_length
    rw [none]
    exact iff_of_true (tracked.call id arm armed) List.not_mem_nil
  · intro own
    obtain rfl := Event.timer.inj own
    exact iff_of_true (tracked.start arm armed) rfl

theorem Tracks.arrived {event : Event} (outer : event.isTimer = false) :
    box.Tracks (box.stamp event none) where
  generation := Nat.le_refl _
  done := Nat.le_refl _
  elapsed timer _ own := by
    obtain rfl : event = .timer timer := own
    simp [Event.isTimer] at outer
  call id own := by
    obtain rfl : event = .timer (.callDeadline id) := own
    simp [Event.isTimer] at outer
  start own := by
    obtain rfl : event = .timer .startupDeadline := own
    simp [Event.isTimer] at outer

theorem IsTracked.step (tracked : box.IsTracked)
    (sound : box.loop.isEnded = false → EventLoop.IsSound box.loop.gateway)
    (incident : Incident) : (box.step setup incident).IsTracked := by
  cases incident with
  | arrive event outer => exact tracked.post (.arrived outer)
  | elapse timer =>
      unfold Mailbox.step
      dsimp only
      split
      case h_1 => exact tracked
      case h_2 arm armed => exact (tracked.elapse timer).post (tracked.elapsed armed)
  | deliver =>
      unfold Mailbox.step
      dsimp only
      split
      case h_1 => exact tracked
      case h_2 head rest waits =>
        have shorter : ({ box with waiting := rest } : Mailbox).IsTracked := by
          refine ⟨tracked.meant, tracked.ticket, tracked.call, tracked.start, ?_⟩
          intro mail listed
          have present : mail ∈ box.waiting := waits ▸ List.mem_cons_of_mem head listed
          exact (tracked.mail mail present).beside rest
        exact shorter.handle setup head.event sound
  | meanwhile outside =>
      refine ⟨tracked.meant, tracked.ticket, tracked.call, tracked.start, fun mail listed => ?_⟩
      have tracks := tracked.mail mail listed
      exact ⟨tracks.generation, tracks.done, tracks.elapsed, tracks.call, tracks.start⟩

end Handling

/-- At the start no deadline is armed but that of a start. -/
theorem armed_start (setup : Setup) (outside : Outside) :
    (start setup outside).loop.gateway.traffic.IsMeant ∧
      ∀ timer arm, timer.isDeadline = true →
        (start setup outside).loop.gateway.timers.arm? timer = some arm →
          arm.ticket < (start setup outside).loop.gateway.timers.nextTicket ∧
            ∀ id, timer ≠ .callDeadline id := by
  let initial := Gateway.initial setup outside
  have traffic := Gateway.traffic_initial setup outside
  have unarmed (timer : Timer) : initial.timers.arm? timer = none := by
    have nothing : (initial.timers.arm? timer).map TimerArm.rule = none :=
      congrFun (congrArg Traffic.armed traffic) timer
    exact Option.map_eq_none_iff.mp nothing
  have meant : initial.traffic.IsMeant := by
    have rules (timer : Timer) (rule : TimerRule) : initial.traffic.armed timer ≠ some rule := by
      rw [congrFun (congrArg Traffic.armed traffic) timer]
      simp
    exact ⟨fun timer rule _ armed => absurd armed (rules timer rule),
      fun rule armed => absurd armed (rules _ rule)⟩
  obtain ⟨gateway, journal, rfl | rfl, started⟩ := EventLoop.start_eq setup outside
  · have same : (start setup outside).loop.gateway = _ := started
    rw [same]
    exact ⟨meant, fun timer arm _ armed => absurd ((unarmed timer).symm.trans armed) (by simp)⟩
  · have same : (start setup outside).loop.gateway = _ := started
    rw [same]
    constructor
    · have sound := EventLoop.isSound_initial setup outside
      have tendings : Tendings setup (fun _ => True) initial.traffic
          (initial.step setup .start).traffic :=
        initial.tendings_step setup .start (fun _ _ => trivial)
          (fun id rule armed => meant.once _ rule rfl armed) sound.settled sound.present
          sound.accountable
      exact tendings.isMeant meant
    · intro timer arm deadline armed
      cases ((initial.chores_step setup .start).rearms timer).1 with
      | same kept => exact absurd ((unarmed timer).symm.trans (kept.symm.trans armed)) (by simp)
      | disarmed gone => exact absurd (gone.symm.trans armed) (by simp)
      | armed new made fresh given apart own =>
          obtain rfl := Option.some.inj (made.symm.trans armed)
          refine ⟨given, fun id call => ?_⟩
          simpa [Gateway.dutyIn, Gateway.accepted?] using own id call

theorem isTracked_start (setup : Setup) (outside : Outside) :
    (start setup outside).IsTracked := by
  obtain ⟨meant, arms⟩ := armed_start setup outside
  exact ⟨meant, fun timer arm deadline armed => (arms timer arm deadline armed).1,
    fun id arm armed => absurd rfl ((arms _ arm rfl armed).2 id), fun _ armed => armed,
    fun mail listed => absurd listed List.not_mem_nil⟩

/-- What is known of the events that wait, at any time of any run. -/
theorem isTracked_after (setup : Setup) (outside : Outside) (incidents : List Incident) :
    (after setup outside incidents).IsTracked := by
  induction incidents using List.reverseRecOn with
  | nil => exact isTracked_start setup outside
  | append_singleton incidents last ih =>
      rw [after_concat]
      exact ih.step (isSound_after setup outside incidents) last

end Mailbox

end BrowserRelay
