import BrowserRelay.Proofs.Readiness
import BrowserRelay.Proofs.Recording

/-!
# The upkeep of the process

What the relay does about its process besides passing lines on: it starts and kills it, arms and
disarms timers, each arm with a ticket of its own, and probes it with ever higher stamps.  All of
this is made of few chores.  A chore that takes a stamp or arms the deadline of a call is done
only where a probe is due or the call is taken in.
-/

namespace BrowserRelay

theorem TimerTable.fire_fst (table : TimerTable) (timer : Timer) :
    (table.fire timer).1 = table.isArmed timer := by
  unfold fire isArmed
  cases table.arm? timer with
  | none => rfl
  | some arm =>
      obtain ⟨_, rule, _⟩ := arm
      cases rule <;> rfl

theorem TimerTable.fire_snd (table : TimerTable) (timer : Timer) :
    (table.fire timer).2 = table ∨ (table.fire timer).2 = table.cancel timer := by
  unfold fire
  split
  · exact .inl rfl
  · exact .inr rfl
  · exact .inl rfl

/-- The probe that is written to the process. -/
def Deed.probedId? : Deed → Option RequestId
  | probed _ id _ => some id
  | _ => none

/-- What the upkeep of the process is about. -/
structure Upkeep where
  state : ServiceState
  generation : Nat
  timers : TimerTable
  killed : List Nat
  health : Health
  ledger : List Deed

/-- The upkeep of an exchange. -/
def Exchange.upkeep (exchange : Exchange) : Upkeep where
  state := exchange.state
  generation := exchange.generation
  timers := exchange.timers
  killed := exchange.outside.killed
  health := exchange.health
  ledger := exchange.ledger

namespace Upkeep

def enter (upkeep : Upkeep) (deed : Deed) : Upkeep :=
  { upkeep with ledger := upkeep.ledger ++ [deed] }

def arm (upkeep : Upkeep) (timer : Timer) (rule : TimerRule) : Upkeep :=
  { upkeep with timers := upkeep.timers.schedule timer rule }

def disarm (upkeep : Upkeep) (timer : Timer) : Upkeep :=
  { upkeep with timers := upkeep.timers.cancel timer }

/-- A process is started. -/
def launch (setup : Setup) (upkeep : Upkeep) : Upkeep :=
  { ((upkeep.disarm .restart).arm .firstProbe (.once setup.settings.health.initialDelay)).arm
      .startupDeadline (.once setup.settings.service.startupTimeout) with
    state := .starting
    generation := upkeep.generation + 1 }

/-- A process cannot be started. -/
def failLaunch (upkeep : Upkeep) : Upkeep :=
  { upkeep.disarm .restart with generation := upkeep.generation + 1 }

/-- The process has become ready. -/
def wake (setup : Setup) (upkeep : Upkeep) : Upkeep :=
  ({ upkeep with state := .ready }.disarm .startupDeadline).arm .probeInterval
    (.every setup.settings.health.interval)

/-- The process is taken for not ready. -/
def demote (upkeep : Upkeep) : Upkeep :=
  { upkeep with state := .starting }

/-- The process is gone. -/
def release (upkeep : Upkeep) : Upkeep :=
  { upkeep with state := .noProcess }

/-- The process is killed. -/
def kill (upkeep : Upkeep) : Upkeep :=
  { upkeep.release with killed := upkeep.killed ++ [upkeep.generation] }

/-- A stamp is taken for a probe. -/
def stamp (upkeep : Upkeep) (latest : Nat) : Upkeep :=
  { upkeep with health := { upkeep.health with lastStamp := latest } }

/-- Probes are counted. -/
def count (upkeep : Upkeep) (awaiting : Bool) (missed : Nat) : Upkeep :=
  { upkeep with health := { upkeep.health with awaiting := awaiting, missed := missed } }

end Upkeep

/-- What is to be done besides what may be done at any time: take a stamp for a probe, arm the
deadline of a call, and disarm a timer that has elapsed. -/
structure Duty where
  stamp? : Option Nat := none
  call? : Option RequestId := none
  elapsed? : Option Timer := none

/-- What is done in one go. -/
inductive Chore (setup : Setup) (duty : Duty) : Upkeep → Upkeep → Prop
  /-- A deed is entered, and is no probe. -/
  | entered {upkeep : Upkeep} {deed : Deed} (other : deed.probedId? = none) :
      Chore setup duty upkeep (upkeep.enter deed)
  /-- A process is started where there was none. -/
  | launched {upkeep : Upkeep} (idle : upkeep.state = .noProcess) :
      Chore setup duty upkeep (upkeep.launch setup)
  /-- A process cannot be started where there was none. -/
  | launchFailed {upkeep : Upkeep} (idle : upkeep.state = .noProcess) :
      Chore setup duty upkeep upkeep.failLaunch
  /-- The process becomes ready. -/
  | woken {upkeep : Upkeep} (starting : upkeep.state = .starting) :
      Chore setup duty upkeep (upkeep.wake setup)
  /-- The process is taken for not ready. -/
  | demoted {upkeep : Upkeep} (running : upkeep.state ≠ .noProcess) :
      Chore setup duty upkeep upkeep.demote
  /-- The process is gone. -/
  | released {upkeep : Upkeep} (running : upkeep.state ≠ .noProcess) :
      Chore setup duty upkeep upkeep.release
  /-- The process is killed. -/
  | killed {upkeep : Upkeep} (running : upkeep.state ≠ .noProcess) :
      Chore setup duty upkeep upkeep.kill
  /-- A timer is disarmed, but the time of grace only if it has elapsed. -/
  | disarmed {upkeep : Upkeep} {timer : Timer}
      (allowed : timer = .shutdownGrace → duty.elapsed? = some timer) :
      Chore setup duty upkeep (upkeep.disarm timer)
  /-- The next start is planned. -/
  | restartArmed {upkeep : Upkeep} (rule : TimerRule) :
      Chore setup duty upkeep (upkeep.arm .restart rule)
  /-- The deadline of a call is armed. -/
  | deadlineArmed {upkeep : Upkeep} {id : RequestId} (rule : TimerRule)
      (own : duty.call? = some id) :
      Chore setup duty upkeep (upkeep.arm (.callDeadline id) rule)
  /-- The counts of the probes change. -/
  | counted {upkeep : Upkeep} (awaiting : Bool) (missed : Nat) :
      Chore setup duty upkeep (upkeep.count awaiting missed)
  /-- A stamp is taken for a probe that cannot be written. -/
  | stamped {upkeep : Upkeep} {stamp : Nat} (due : duty.stamp? = some stamp)
      (later : upkeep.health.lastStamp < stamp) :
      Chore setup duty upkeep (upkeep.stamp stamp)
  /-- A stamp is taken for a probe that is written to the process. -/
  | probed {upkeep : Upkeep} {stamp : Nat} (line : String) (due : duty.stamp? = some stamp)
      (later : upkeep.health.lastStamp < stamp) :
      Chore setup duty upkeep
        ((upkeep.stamp stamp).enter
          (.probed upkeep.generation (Exchange.probeId setup stamp) line))

/-- Chores one after the other. -/
abbrev Chores (setup : Setup) (duty : Duty) : Upkeep → Upkeep → Prop :=
  Relation.ReflTransGen (Chore setup duty)

/-- The later chores come first here, since they tell where the earlier ones lead. -/
theorem Chores.after {setup : Setup} {duty : Duty}
    {first middle last : Upkeep} (later : Chores setup duty middle last)
    (earlier : Chores setup duty first middle) : Chores setup duty first last :=
  earlier.trans later

theorem Outside.killed_kill (outside : Outside) (generation : Nat) :
    (outside.kill generation).2.killed = outside.killed ++ [generation] := by
  unfold kill
  split <;> rfl

theorem Outside.killed_reply (outside : Outside) (line : String) :
    (outside.reply line).killed = outside.killed := by
  unfold reply
  split <;> rfl

namespace Exchange

variable {setup : Setup} {duty : Duty}

/-! ## Starting and losing the process -/

theorem upkeep_start_launched (setup : Setup) {exchange : Exchange}
    (idle : exchange.state = .noProcess) (success : exchange.outside.launchOutcomes.next = none) :
    (exchange.withHost (exchange.toHost.start setup).2).upkeep = exchange.upkeep.launch setup := by
  simp only [Host.start, idle, Outside.launch, Host.cancel, success]
  rfl

theorem upkeep_start_failed (setup : Setup) {exchange : Exchange} {failure : Failure}
    (idle : exchange.state = .noProcess)
    (failing : exchange.outside.launchOutcomes.next = some failure) :
    (exchange.withHost (exchange.toHost.start setup).2).upkeep = exchange.upkeep.failLaunch := by
  simp only [Host.start, idle, Outside.launch, Host.cancel, failing, upkeep, withHost, Host.note,
    Outside.note, Upkeep.failLaunch, Upkeep.disarm]

theorem chores_start (setup : Setup) (exchange : Exchange) :
    Chores setup duty exchange.upkeep
      (exchange.withHost (exchange.toHost.start setup).2).upkeep := by
  by_cases idle : exchange.state = .noProcess
  · cases outcome : exchange.outside.launchOutcomes.next with
    | none => exact upkeep_start_launched setup idle outcome ▸ .single (.launched idle)
    | some failure => exact upkeep_start_failed setup idle outcome ▸ .single (.launchFailed idle)
  · obtain ⟨ready, started⟩ := start_running setup idle
    rw [started]
    exact .refl

theorem chores_cancelProbeTimers (exchange : Exchange) :
    Chores setup duty exchange.upkeep
      (exchange.withHost exchange.toHost.cancelProbeTimers).upkeep :=
  ((Relation.ReflTransGen.single (.disarmed (by simp))).tail (.disarmed (by simp))).tail
    (.disarmed (by simp))

theorem chores_release (exchange : Exchange) (running : exchange.state ≠ .noProcess) :
    Chores setup duty exchange.upkeep
      (exchange.withHost exchange.toHost.release).upkeep := by
  let gone := exchange.withHost { exchange.toHost with state := .noProcess }
  have released : Chore setup duty exchange.upkeep gone.upkeep := .released running
  exact .head released gone.chores_cancelProbeTimers

theorem chores_giveUp (exchange : Exchange) (running : exchange.state ≠ .noProcess) :
    Chores setup duty exchange.upkeep exchange.giveUp.2.upkeep := by
  have present : exchange.toHost.hasProcess = true := Host.hasProcess_iff.mpr running
  let killed := exchange.withHost
    { exchange.toHost with
      state := .noProcess
      outside := (exchange.outside.kill exchange.generation).2 }
  have done : killed.upkeep = exchange.upkeep.kill := by
    simp only [killed, upkeep, withHost, Outside.killed_kill]
    rfl
  have first : Chore setup duty exchange.upkeep killed.upkeep := done ▸ .killed running
  refine .head first ?_
  have rest : Chores setup duty killed.upkeep _ := killed.chores_cancelProbeTimers
  simp only [giveUp, Host.teardown, present, if_true]
  exact rest

/-! ## Probes -/

theorem chores_countMissed (setup : Setup) (exchange : Exchange) :
    Chores setup duty exchange.upkeep (exchange.countMissed setup).2.upkeep := by
  unfold countMissed
  split
  case isFalse => exact .refl
  case isTrue =>
    let missed := exchange.health.missed + 1
    let counted := { exchange with health := { exchange.health with missed := missed } }
    have first : Chore setup duty exchange.upkeep counted.upkeep := .counted _ missed
    dsimp only
    split
    case isFalse => exact .single first
    case isTrue tooMany =>
      have ready : exchange.state = .ready := by simpa [Host.isReady] using tooMany.2.2
      have running : counted.state ≠ .noProcess := by simp [counted, ready]
      have demoted : counted.toHost.markNotReady = { counted.toHost with state := .starting } :=
        Host.markNotReady_running _ running
      rw [demoted]
      exact .tail (.single first) (.demoted running)

theorem nextStamp_countMissed (setup : Setup) (exchange : Exchange) :
    (exchange.countMissed setup).2.nextStamp = exchange.nextStamp := by
  unfold countMissed
  split
  case isFalse => rfl
  case isTrue =>
    dsimp only
    split
    case isFalse => rfl
    case isTrue tooMany =>
      have ready : exchange.state = .ready := by simpa [Host.isReady] using tooMany.2.2
      have demoted : exchange.toHost.markNotReady = { exchange.toHost with state := .starting } :=
        Host.markNotReady_running _ (by simp [ready])
      simp only [demoted]
      rfl

theorem running_countMissed (setup : Setup) {exchange : Exchange}
    (running : exchange.state ≠ .noProcess) :
    (exchange.countMissed setup).2.state ≠ .noProcess := by
  rcases exchange.traffic_countMissed setup with ⟨-, same⟩ | ⟨-, same⟩
  · rwa [show (exchange.countMissed setup).2.state = exchange.state from
      congrArg Traffic.state same]
  · rw [show (exchange.countMissed setup).2.state = .starting from congrArg Traffic.state same]
    simp

theorem upkeep_sendProbe_written (setup : Setup) (exchange : Exchange) (demoted : Bool)
    (running : exchange.state ≠ .noProcess)
    (success : exchange.outside.writeOutcomes.next = none) :
    let id := probeId setup exchange.nextStamp
    let line := Envelope.requestLine id setup.settings.health.method none
    (exchange.sendProbe setup demoted).2.upkeep =
      ((exchange.upkeep.stamp exchange.nextStamp).enter
        (.probed exchange.generation id line)).count true exchange.health.missed := by
  have present : exchange.toHost.hasProcess = true := Host.hasProcess_iff.mpr running
  simp only [sendProbe, takeProbeId, Host.writeLine, present, if_true, Outside.writeLine, success]
  rfl

theorem upkeep_sendProbe_refused (setup : Setup) (exchange : Exchange) (demoted : Bool)
    {failure : Failure} (running : exchange.state ≠ .noProcess)
    (failing : exchange.outside.writeOutcomes.next = some failure) :
    (exchange.sendProbe setup demoted).2.upkeep =
      ((exchange.upkeep.stamp exchange.nextStamp).disarm .probeInterval).demote := by
  have present : exchange.toHost.hasProcess = true := Host.hasProcess_iff.mpr running
  simp only [sendProbe, takeProbeId, Host.writeLine, present, if_true, Outside.writeLine, failing]
  rw [Host.markNotReady_running]
  · rfl
  · exact running

theorem chores_sendProbe (setup : Setup) (exchange : Exchange) (demoted : Bool)
    (running : exchange.state ≠ .noProcess) (due : duty.stamp? = some exchange.nextStamp) :
    Chores setup duty exchange.upkeep (exchange.sendProbe setup demoted).2.upkeep := by
  have later : exchange.health.lastStamp < exchange.nextStamp := by
    unfold nextStamp
    omega
  cases outcome : exchange.outside.writeOutcomes.next with
  | none =>
      rw [upkeep_sendProbe_written setup exchange demoted running outcome]
      exact .tail (.single (.probed _ due later)) (.counted _ _)
  | some failure =>
      rw [upkeep_sendProbe_refused setup exchange demoted running outcome]
      exact .tail (.tail (.single (.stamped due later)) (.disarmed (by simp))) (.demoted running)

/-- A process that is probed takes the next stamp, whether or not the probe can be written. -/
theorem lastStamp_probe (setup : Setup) {exchange : Exchange}
    (running : exchange.state ≠ .noProcess) :
    (exchange.probe setup).2.health.lastStamp = exchange.nextStamp := by
  have present : exchange.hasProcess = true := Host.hasProcess_iff.mpr running
  have stays := running_countMissed setup running
  simp only [probe, present, if_true]
  rw [← nextStamp_countMissed setup exchange]
  cases outcome : (exchange.countMissed setup).2.outside.writeOutcomes.next with
  | none =>
      exact congrArg (fun upkeep : Upkeep => upkeep.health.lastStamp)
        (upkeep_sendProbe_written setup _ _ stays outcome)
  | some failure =>
      exact congrArg (fun upkeep : Upkeep => upkeep.health.lastStamp)
        (upkeep_sendProbe_refused setup _ _ stays outcome)

theorem chores_probe (setup : Setup) {exchange : Exchange}
    (running : exchange.state ≠ .noProcess) (due : duty.stamp? = some exchange.nextStamp) :
    Chores setup duty exchange.upkeep (exchange.probe setup).2.upkeep := by
  have present : exchange.hasProcess = true := Host.hasProcess_iff.mpr running
  have counted : Chores setup duty exchange.upkeep _ := exchange.chores_countMissed setup
  have sent : Chores setup duty (exchange.countMissed setup).2.upkeep _ :=
    (exchange.countMissed setup).2.chores_sendProbe setup (exchange.countMissed setup).1
      (running_countMissed setup running) (by rwa [nextStamp_countMissed])
  simp only [probe, present, if_true]
  exact counted.trans sent

theorem chores_onProbeResponse (setup : Setup) (exchange : Exchange) :
    Chores setup duty exchange.upkeep (exchange.onProbeResponse setup).2.upkeep := by
  have reset : Chore setup duty exchange.upkeep exchange.resetHealth.upkeep :=
    .counted false 0
  by_cases starting : exchange.state = .starting
  · have woken : (exchange.onProbeResponse setup).2.upkeep =
        exchange.resetHealth.upkeep.wake setup := by
      have ready : exchange.resetHealth.toHost.markReady =
          { exchange.toHost with state := .ready } := by
        have same : exchange.resetHealth.toHost.state = .starting := starting
        simp only [Host.markReady, same]
        rfl
      simp only [onProbeResponse, starting, ready]
      rfl
    rw [woken]
    exact .tail (.single reset) (.woken starting)
  · rw [onProbeResponse_other setup exchange starting]
    exact .single reset

/-! ## Passing messages on -/

theorem chores_afterFailedWrite (setup : Setup) (exchange : Exchange) (entry : QueuedRequest)
    (failure : Failure) (running : exchange.state ≠ .noProcess) :
    Chores setup duty exchange.upkeep
      (exchange.afterFailedWrite setup entry failure).2.upkeep := by
  have gone : Chores setup duty exchange.upkeep exchange.giveUp.2.upkeep :=
    exchange.chores_giveUp running
  unfold afterFailedWrite
  cases givenUp : exchange.giveUp with
  | mk orphaned bare =>
    rw [givenUp] at gone
    dsimp only
    split
    · exact gone
    · have again : Chores setup duty bare.upkeep _ := bare.chores_start setup
      refine gone.trans ?_
      cases started : bare.toHost.start setup with
      | mk result host =>
        rw [started] at again
        cases result <;> exact again

theorem chores_dispatch (setup : Setup) (exchange : Exchange) (entry : QueuedRequest) :
    Chores setup duty exchange.upkeep (exchange.dispatch setup entry).2.upkeep := by
  by_cases ready : exchange.state = .ready
  · have isReady : exchange.toHost.isReady = true := by simp [Host.isReady, ready]
    have present : exchange.toHost.hasProcess = true := by simp [Host.hasProcess, ready]
    cases outcome : exchange.outside.writeOutcomes.next with
    | none =>
        have written : (exchange.dispatch setup entry).2.upkeep =
            exchange.upkeep.enter (.written exchange.generation entry) := by
          simp only [dispatch, isReady, if_true, Host.writeLine, present, Outside.writeLine,
            outcome]
          cases entry with
          | mk id line plan attempts => cases id <;> rfl
        rw [written]
        exact .single (.entered rfl)
    | some failure =>
        simp only [dispatch, isReady, if_true, Host.writeLine, present, Outside.writeLine, outcome]
        refine .head ?_ (chores_afterFailedWrite setup _ entry failure ?_)
        · exact .entered rfl
        · exact fun idle => absurd (ready.symm.trans idle) (by simp)
  · rw [dispatch_waiting entry ready]
    exact .refl

end Exchange

end BrowserRelay
