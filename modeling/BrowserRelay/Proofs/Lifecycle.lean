import BrowserRelay.Proofs.Deadlines
import BrowserRelay.Proofs.Stranded

/-!
# Timers of the process

A service that is ready is probed at a fixed interval, a process that runs is not started again,
and nobody watches over a process that is gone.  So once a process has exited cleanly or failed,
none is started until the service is asked for.
-/

namespace BrowserRelay

/-! ## The timers agree with the state -/

/-- The timers of the process agree with its state. -/
structure Traffic.IsWatched (setup : Setup) (traffic : Traffic) : Prop where
  ready : traffic.state = .ready →
    traffic.armed .probeInterval = some (.every setup.settings.health.interval) ∧
      traffic.armed .startupDeadline = none
  idle : traffic.state = .noProcess → traffic.armed .firstProbe = none ∧
    traffic.armed .probeInterval = none ∧ traffic.armed .startupDeadline = none
  periodic : ∀ rule, traffic.armed .probeInterval = some rule →
    rule = .every setup.settings.health.interval
  forever : traffic.armed .shutdownGrace = none

section Changes

variable {setup : Setup} {stale : RequestId → Prop} {before after traffic : Traffic}

namespace Traffic

theorem armed_disarm_none {timer other : Timer} (unarmed : traffic.armed other = none) :
    (traffic.disarm timer).armed other = none := by
  simp [disarm, Function.update_apply, unarmed]

/-- Calls come and go without touching the timers of the process. -/
theorem IsWatched.keep (watched : before.IsWatched setup) (state : after.state = before.state)
    (armed : ∀ timer, (∀ id, timer ≠ .callDeadline id) → after.armed timer = before.armed timer) :
    after.IsWatched setup where
  ready isReady := by
    rw [armed .probeInterval (by simp), armed .startupDeadline (by simp)]
    exact watched.ready (state ▸ isReady)
  idle gone := by
    rw [armed .firstProbe (by simp), armed .probeInterval (by simp),
      armed .startupDeadline (by simp)]
    exact watched.idle (state ▸ gone)
  periodic rule isArmed := by
    rw [armed .probeInterval (by simp)] at isArmed
    exact watched.periodic rule isArmed
  forever := by
    rw [armed .shutdownGrace (by simp)]
    exact watched.forever

theorem IsWatched.takeIn (watched : traffic.IsWatched setup) (entry : QueuedRequest) :
    (traffic.takeIn setup entry).IsWatched setup := by
  refine watched.keep rfl fun timer other => ?_
  cases request : entry.id with
  | none => simp [Traffic.takeIn, armDeadline, enter, request, accept]
  | some id =>
      simp [Traffic.takeIn, armDeadline, enter, request, accept, Function.update_of_ne (other id)]

/-- The timer that elapses is not the one that probes a service that is ready. -/
theorem IsWatched.elapse (watched : traffic.IsWatched setup) {timer : Timer} {delay : Nat}
    (armed : traffic.armed timer = some (.once delay)) :
    (traffic.disarm timer).IsWatched setup := by
  have interval : (traffic.disarm timer).armed .probeInterval = traffic.armed .probeInterval := by
    apply traffic.armed_disarm_of_ne
    rintro rfl
    have never := watched.periodic _ armed
    simp at never
  constructor
  · intro isReady
    obtain ⟨probed, started⟩ := watched.ready isReady
    exact ⟨interval.trans probed, armed_disarm_none started⟩
  · intro gone
    obtain ⟨first, probes, startup⟩ := watched.idle gone
    exact ⟨armed_disarm_none first, armed_disarm_none probes, armed_disarm_none startup⟩
  · intro rule isArmed
    exact watched.periodic rule (interval ▸ isArmed)
  · exact armed_disarm_none watched.forever

end Traffic

theorem Tending.isWatched (tending : Tending setup stale before after)
    (watched : before.IsWatched setup) : after.IsWatched setup := by
  have calm := watched.forever
  cases tending with
  | left ids state calls armed =>
      refine watched.keep state fun timer other => ?_
      rw [armed, if_neg]
      rintro listed
      obtain ⟨id, -, rfl⟩ := List.mem_map.mp listed
      exact other id rfl
  | overdue untimely state calls armed =>
      exact watched.keep state fun timer _ => congrFun armed timer
  | takenIn entry => exact watched.takeIn entry
  | launched idle =>
      obtain ⟨-, interval, -⟩ := watched.idle idle
      constructor <;> simp [Traffic.launch, Traffic.arm, Traffic.disarm, interval, calm]
  | launchFailed idle =>
      obtain ⟨first, interval, startup⟩ := watched.idle idle
      constructor <;>
        simp [Traffic.failLaunch, Traffic.disarm, idle, first, interval, startup, calm]
  | woken starting =>
      constructor <;> simp [Traffic.wake, Traffic.arm, Traffic.disarm, calm]
  | demoted ready =>
      exact ⟨by simp [Traffic.demote], by simp [Traffic.demote], watched.periodic, calm⟩
  | probeRefused running =>
      constructor <;> simp [Traffic.demote, Traffic.disarm, calm]
  | lost backoff running =>
      cases backoff <;> constructor <;>
        simp [Traffic.release, Traffic.armRestart, Traffic.disarm, calm]
  | elapsed armed other => exact watched.elapse armed

theorem Tendings.isWatched (tendings : Tendings setup stale before after)
    (watched : before.IsWatched setup) : after.IsWatched setup := by
  induction tendings with
  | refl => exact watched
  | tail _ tending ih => exact tending.isWatched ih

end Changes

/-! ## Without a process -/

/-- There is no process, and no timer is armed that starts or watches one. -/
structure Traffic.IsDown (traffic : Traffic) : Prop where
  idle : traffic.state = .noProcess
  deadlines : ∀ timer rule, traffic.armed timer = some rule → ∃ id, timer = .callDeadline id

/-- A process that is gone and is not started again takes all its timers with it. -/
theorem Traffic.IsWatched.isDown {setup : Setup} {traffic : Traffic}
    (watched : traffic.IsWatched setup) (running : traffic.state ≠ .noProcess)
    (calm : traffic.IsCalm) (failure : Failure) :
    ((traffic.release.armRestart none).failPresent failure).IsDown where
  idle := rfl
  deadlines timer rule armed := by
    have forever := watched.forever
    have restart := calm running
    cases timer with
    | callDeadline id => exact ⟨id, rfl⟩
    | _ =>
      simp [failPresent, failAll, forget, armRestart, release, disarm, forever, restart] at armed

theorem Outside.launched_reply (outside : Outside) (line : String) :
    (outside.reply line).launched = outside.launched := by
  simp only [reply]
  split <;> rfl

/-- Whether a step asks for the service. -/
def Step.asksForService : Step → Bool
  | .start => true
  | .event (.clientLine _) => true
  | _ => false

/-- Whether a step handles the event of a timer that has not elapsed. -/
def Step.isUntimely : Step → Bool
  | .event (.timer _) => true
  | _ => false

namespace Gateway

variable {setup : Setup} {gateway : Gateway}

theorem isWatched_after (setup : Setup) (outside : Outside) (steps : List Step) :
    (after setup outside steps).traffic.IsWatched setup := by
  have start : (initial setup outside).traffic.IsWatched setup := by
    rw [traffic_initial]
    constructor <;> simp
  exact (tendings_after setup outside steps fun id listed => listed).isWatched start

/-- From one gateway to another no process was started, nor was it tried. -/
structure StartsNone (before after : Gateway) : Prop where
  generation : after.generation = before.generation
  launched : after.outside.launched = before.outside.launched

theorem StartsNone.refl (gateway : Gateway) : gateway.StartsNone gateway :=
  ⟨rfl, rfl⟩

theorem StartsNone.trans {before middle after : Gateway} (none : before.StartsNone middle)
    (nor : middle.StartsNone after) : before.StartsNone after :=
  ⟨nor.generation.trans none.generation, nor.launched.trans none.launched⟩

theorem startsNone_failCalls (gateway : Gateway) (calls : List PendingCall) (failure : Failure) :
    gateway.StartsNone (gateway.failCalls calls failure) := by
  induction calls generalizing gateway with
  | nil => exact .refl gateway
  | cons call calls ih =>
      have first : gateway.StartsNone (gateway.failCall call.id failure) :=
        ⟨rfl, gateway.outside.launched_reply _⟩
      exact first.trans (ih _)

theorem startsNone_failGeneration (gateway : Gateway) (generation : Nat) (detail : String) :
    gateway.StartsNone (gateway.failGeneration generation detail) := by
  let bare := gateway.resetHealth.withExchange
    (gateway.resetHealth.toExchange.takeGeneration generation).2
  have taken : gateway.StartsNone bare := ⟨rfl, rfl⟩
  exact taken.trans (bare.startsNone_failCalls _ _)

theorem startsNone_onServiceExited (setup : Setup) (gateway : Gateway) (generation : Nat)
    (code : Option Int) :
    gateway.StartsNone (gateway.onServiceExited setup generation code) := by
  cases current : gateway.isCurrent generation with
  | false =>
      rw [onServiceExited_stale setup code current]
      exact .refl gateway
  | true =>
      have same : gateway.StartsNone
          (gateway.withHost (gateway.toHost.onExit setup generation code).2) := by
        rw [Host.onExit, if_pos current]
        split <;> exact ⟨rfl, rfl⟩
      rw [onServiceExited_current setup code current]
      exact same.trans (startsNone_failGeneration _ generation (exitDetail code))

theorem startsNone_onServiceFailed (gateway : Gateway) (generation : Nat) (detail : String) :
    gateway.StartsNone (gateway.onServiceFailed generation detail) := by
  cases current : gateway.isCurrent generation with
  | false =>
      rw [onServiceFailed_stale detail current]
      exact .refl gateway
  | true =>
      have same : gateway.StartsNone
          (gateway.withHost (gateway.toHost.onFailed generation detail).2) := by
        rw [Host.onFailed, if_pos current]
        exact ⟨rfl, rfl⟩
      rw [onServiceFailed_current detail current]
      exact same.trans (startsNone_failGeneration _ generation detail)

/-- The deadline of a call concerns no process. -/
theorem startsNone_onCallDeadline (setup : Setup) (gateway : Gateway) (id : RequestId) :
    gateway.StartsNone (gateway.onCallDeadline setup id) := by
  have same : (gateway.onCallDeadline setup id).traffic.generation = gateway.generation := by
    rcases gateway.traffic_onCallDeadline setup id with
      ⟨call, -, late⟩ | ⟨-, ⟨-, late⟩ | ⟨-, late⟩⟩ <;> rw [late] <;> rfl
  refine ⟨same, ?_⟩
  unfold onCallDeadline
  split
  case h_1 => rfl
  case h_2 taken result =>
    rw [takeExpired_eq result]
    exact Outside.launched_reply _ _

theorem isDown_onCallDeadline (setup : Setup) (id : RequestId) (down : gateway.traffic.IsDown) :
    (gateway.onCallDeadline setup id).traffic.IsDown := by
  rcases gateway.traffic_onCallDeadline setup id with
    ⟨call, -, late⟩ | ⟨-, ⟨-, late⟩ | ⟨-, late⟩⟩
  all_goals
    rw [late]
    exact ⟨down.idle, down.deadlines⟩

theorem not_isCurrent_of_down (down : gateway.traffic.IsDown) (generation : Nat) :
    gateway.isCurrent generation = false := by
  rw [← Bool.not_eq_true]
  exact fun current => (Host.isCurrent_iff.mp current).1 down.idle

/-- Without a process, the only timers that elapse are deadlines of calls, so nothing that is
not asked for starts one. -/
theorem down_step (setup : Setup) (gateway : Gateway) (step : Step)
    (down : gateway.traffic.IsDown) (unasked : step.asksForService = false)
    (timely : step.isUntimely = false) :
    gateway.StartsNone (gateway.step setup step) ∧ (gateway.step setup step).traffic.IsDown := by
  cases step with
  | start => simp [Step.asksForService] at unasked
  | elapse timer =>
      rcases gateway.step_elapse_cases setup timer with
        ⟨-, same⟩ | ⟨period, armed, same⟩ | ⟨delay, armed, same⟩
      · rw [same]
        exact ⟨.refl gateway, down⟩
      · obtain ⟨id, rfl⟩ := down.deadlines timer _ armed
        rw [same]
        exact ⟨gateway.startsNone_onCallDeadline setup id, isDown_onCallDeadline setup id down⟩
      · obtain ⟨id, rfl⟩ := down.deadlines timer _ armed
        let disarmed : Gateway :=
          { gateway with timers := gateway.timers.cancel (.callDeadline id) }
        have stillDown : disarmed.traffic.IsDown := by
          rw [gateway.traffic_cancelled]
          refine ⟨down.idle, fun other rule isArmed => ?_⟩
          by_cases itself : other = .callDeadline id
          · exact ⟨id, itself⟩
          · rw [gateway.traffic.armed_disarm_of_ne itself] at isArmed
            exact down.deadlines other rule isArmed
        have disarm : gateway.StartsNone disarmed := ⟨rfl, rfl⟩
        rw [same]
        exact ⟨disarm.trans (disarmed.startsNone_onCallDeadline setup id),
          isDown_onCallDeadline setup id stillDown⟩
  | meanwhile outside => exact ⟨⟨rfl, rfl⟩, down⟩
  | event event =>
      cases event with
      | clientLine line => simp [Step.asksForService] at unasked
      | clientClosed => exact ⟨.refl gateway, down⟩
      | serviceOutput generation line =>
          simp only [Gateway.step, handleEvent, onServiceOutput,
            not_isCurrent_of_down down generation, Bool.false_eq_true, if_false]
          exact ⟨⟨rfl, rfl⟩, down⟩
      | serviceError generation line => exact ⟨⟨rfl, rfl⟩, down⟩
      | serviceExited generation code =>
          simp only [Gateway.step, handleEvent,
            onServiceExited_stale setup code (not_isCurrent_of_down down generation)]
          exact ⟨.refl gateway, down⟩
      | serviceFailed generation detail =>
          simp only [Gateway.step, handleEvent,
            onServiceFailed_stale detail (not_isCurrent_of_down down generation)]
          exact ⟨.refl gateway, down⟩
      | timer timer => simp [Step.isUntimely] at timely
      | shutdown => exact ⟨.refl gateway, down⟩

theorem down_run (setup : Setup) (gateway : Gateway) (steps : List Step)
    (down : gateway.traffic.IsDown) (unasked : ∀ step ∈ steps, step.asksForService = false)
    (timely : ∀ step ∈ steps, step.isUntimely = false) :
    gateway.StartsNone (gateway.run setup steps) ∧ (gateway.run setup steps).traffic.IsDown := by
  induction steps generalizing gateway with
  | nil => exact ⟨.refl gateway, down⟩
  | cons first steps ih =>
      obtain ⟨none, stillDown⟩ :=
        gateway.down_step setup first down (unasked first (by simp)) (timely first (by simp))
      obtain ⟨nor, downAfter⟩ := ih _ stillDown
        (fun step listed => unasked step (List.mem_cons_of_mem _ listed))
        (fun step listed => timely step (List.mem_cons_of_mem _ listed))
      exact ⟨none.trans nor, downAfter⟩

/-! ## The end of a process -/

/-- The steps that end the process without it being started again. -/
inductive Stops (gateway : Gateway) : Step → Prop
  /-- The process exits cleanly. -/
  | exited {generation : Nat} (current : gateway.isCurrent generation = true) :
      Stops gateway (.event (.serviceExited generation (some 0)))
  /-- The process fails. -/
  | failed {generation : Nat} {detail : String} (current : gateway.isCurrent generation = true) :
      Stops gateway (.event (.serviceFailed generation detail))

theorem down_of_stops (setup : Setup) {step : Step} (watched : gateway.traffic.IsWatched setup)
    (calm : gateway.traffic.IsCalm) (stops : gateway.Stops step) :
    gateway.StartsNone (gateway.step setup step) ∧ (gateway.step setup step).traffic.IsDown := by
  cases stops with
  | @exited generation current =>
      refine ⟨gateway.startsNone_onServiceExited setup generation (some 0), ?_⟩
      simp only [Gateway.step, handleEvent, traffic_onServiceExited setup (some 0) current]
      exact watched.isDown (Host.isCurrent_iff.mp current).1 calm _
  | @failed generation detail current =>
      refine ⟨gateway.startsNone_onServiceFailed generation detail, ?_⟩
      simp only [Gateway.step, handleEvent, traffic_onServiceFailed detail current]
      exact watched.isDown (Host.isCurrent_iff.mp current).1 calm _

/-- The timers of the process agree with its state.  A service that is ready is probed at the
interval it was given, and its time to start is no longer measured; while there is a process,
none is to be started; while there is none, none is watched.  When the process exits cleanly or
fails, no timers are left but deadlines of calls, and from then on, as long as timers do nothing
but elapse, no process is started before the service is asked for. -/
theorem lifecycle_timers_follow_the_process (setup : Setup) (outside : Outside)
    (steps : List Step) :
    let gateway := after setup outside steps
    (gateway.state = .ready →
        gateway.timers.rule? .probeInterval = some (.every setup.settings.health.interval) ∧
          gateway.timers.isArmed .startupDeadline = false) ∧
      (gateway.hasProcess = true → gateway.timers.isArmed .restart = false) ∧
      (gateway.hasProcess = false →
        gateway.timers.isArmed .firstProbe = false ∧
          gateway.timers.isArmed .probeInterval = false ∧
          gateway.timers.isArmed .startupDeadline = false) ∧
      ∀ step, gateway.Stops step →
        let stopped := gateway.step setup step
        (∀ timer, stopped.timers.isArmed timer = true → ∃ id, timer = .callDeadline id) ∧
          ∀ further, (∀ step ∈ further, step.asksForService = false) →
            (∀ step ∈ further, step.isUntimely = false) →
            let later := stopped.run setup further
            later.hasProcess = false ∧ later.generation = gateway.generation ∧
              later.outside.launched = gateway.outside.launched := by
  intro gateway
  have watched : gateway.traffic.IsWatched setup := isWatched_after setup outside steps
  have calm : gateway.traffic.IsCalm := isCalm_after setup outside steps
  have unarmed (timer : Timer) (free : gateway.traffic.armed timer = none) :
      gateway.timers.isArmed timer = false := by
    have noRule : gateway.timers.rule? timer = none := free
    rw [TimerTable.isArmed_eq, noRule]
    rfl
  refine ⟨fun ready => ?_, fun running => ?_, fun gone => ?_, fun step stops => ?_⟩
  · exact ⟨(watched.ready ready).1, unarmed _ (watched.ready ready).2⟩
  · exact unarmed _ (calm (Host.hasProcess_iff.mp running))
  · obtain ⟨first, interval, startup⟩ := watched.idle (Host.hasProcess_eq_false_iff.mp gone)
    exact ⟨unarmed _ first, unarmed _ interval, unarmed _ startup⟩
  · obtain ⟨none, down⟩ := down_of_stops setup watched calm stops
    refine ⟨fun timer armed => ?_, fun further unasked timely => ?_⟩
    · rw [TimerTable.isArmed_eq, Option.isSome_iff_exists] at armed
      obtain ⟨rule, armed⟩ := armed
      exact down.deadlines timer rule armed
    · obtain ⟨nor, stillDown⟩ := down_run setup _ further down unasked timely
      have both := none.trans nor
      exact ⟨Host.hasProcess_eq_false_iff.mpr stillDown.idle, both.generation, both.launched⟩

end Gateway

end BrowserRelay
