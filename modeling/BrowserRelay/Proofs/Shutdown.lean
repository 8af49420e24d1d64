import BrowserRelay.Proofs.Arms
import BrowserRelay.Proofs.LoopSteps

/-!
# How the event loop ends

The loop ends when it is told to, when the time of grace is over, and when the client has closed
its input and nothing waits for the service any more.  In no other event does it end, and it
handles none after that.  Its process is killed then, and all timers are disarmed.
-/

namespace BrowserRelay

/-! ## Kills -/

/-- The processes that were killed since some earlier ones are all different, and none of them is
the present one. -/
def Upkeep.KillsOnce (earlier : List Nat) (upkeep : Upkeep) : Prop :=
  ∃ kills, upkeep.killed = earlier ++ kills ∧ kills.Nodup ∧
    ∀ generation ∈ kills, generation ≤ upkeep.generation ∧
      (upkeep.state ≠ .noProcess → generation < upkeep.generation)

theorem Upkeep.KillsOnce.kill {upkeep : Upkeep} {earlier : List Nat}
    (once : upkeep.KillsOnce earlier) (running : upkeep.state ≠ .noProcess) :
    upkeep.kill.KillsOnce earlier := by
  obtain ⟨kills, killed, distinct, past⟩ := once
  refine ⟨kills ++ [upkeep.generation], ?_, ?_, fun generation listed => ?_⟩
  · rw [Upkeep.kill, killed, List.append_assoc]
  · refine List.nodup_append.mpr ⟨distinct, by simp, fun other present own itself => ?_⟩
    intro same
    rw [same, List.mem_singleton.mp itself] at present
    exact Nat.lt_irrefl _ ((past _ present).2 running)
  · refine ⟨?_, fun gone => absurd rfl gone⟩
    rcases List.mem_append.mp listed with old | new
    · exact (past generation old).1
    · exact Nat.le_of_eq (List.mem_singleton.mp new)

/-- Nothing is killed, and a process that runs has run before. -/
theorem Upkeep.KillsOnce.keep {upkeep later : Upkeep} {earlier : List Nat}
    (once : upkeep.KillsOnce earlier) (killed : later.killed = upkeep.killed)
    (generation : later.generation = upkeep.generation)
    (running : later.state ≠ .noProcess → upkeep.state ≠ .noProcess) :
    later.KillsOnce earlier := by
  obtain ⟨kills, before, distinct, past⟩ := once
  refine ⟨kills, killed.trans before, distinct, fun number listed => ?_⟩
  rw [generation]
  exact ⟨(past number listed).1, fun runs => (past number listed).2 (running runs)⟩

/-- Nothing is killed, and the next process is started, or that fails. -/
theorem Upkeep.KillsOnce.next {upkeep later : Upkeep} {earlier : List Nat}
    (once : upkeep.KillsOnce earlier) (killed : later.killed = upkeep.killed)
    (generation : later.generation = upkeep.generation + 1) : later.KillsOnce earlier := by
  obtain ⟨kills, before, distinct, past⟩ := once
  refine ⟨kills, killed.trans before, distinct, fun number listed => ?_⟩
  have atMost := (past number listed).1
  omega

theorem Chore.killsOnce {setup : Setup} {duty : Duty} {earlier : List Nat}
    {before after : Upkeep} (chore : Chore setup duty before after)
    (once : before.KillsOnce earlier) : after.KillsOnce earlier := by
  cases chore with
  | launched idle => exact once.next rfl rfl
  | launchFailed idle => exact once.next rfl rfl
  | woken starting => exact once.keep rfl rfl fun _ => by simp [starting]
  | demoted running => exact once.keep rfl rfl fun _ => running
  | released running => exact once.keep rfl rfl fun runs => absurd rfl runs
  | killed running => exact once.kill running
  | _ => exact once.keep rfl rfl id

theorem Chores.killsOnce {setup : Setup} {duty : Duty} {earlier : List Nat}
    {before after : Upkeep} (chores : Chores setup duty before after)
    (once : before.KillsOnce earlier) : after.KillsOnce earlier := by
  induction chores with
  | refl => exact once
  | tail _ chore ih => exact chore.killsOnce ih

theorem Gateway.killed_terminate (gateway : Gateway) :
    gateway.terminate.outside.killed =
      gateway.outside.killed ++ if gateway.hasProcess then [gateway.generation] else [] := by
  let noted := gateway.note .info "gateway.terminate"
    [("pending", .ofNat gateway.pending.length), ("queued", .ofNat gateway.queue.length)]
  obtain ⟨journal, ended⟩ := noted.toHost.outside_terminate
  have same : gateway.terminate.outside = noted.toHost.terminate.outside := rfl
  have present : noted.hasProcess = gateway.hasProcess := rfl
  rw [same, ended, present]
  split
  · exact noted.outside.killed_kill noted.generation
  · exact (List.append_nil _).symm

namespace EventLoop

variable {setup : Setup} {loop : EventLoop}

/-! ## Processes and timers -/

theorem killsOnce_start (setup : Setup) (outside : Outside) :
    (start setup outside).gateway.upkeep.KillsOnce outside.killed := by
  have initial : (Gateway.initial setup outside).upkeep.KillsOnce outside.killed := by
    refine ⟨[], ?_, .nil, by simp⟩
    rw [List.append_nil]
    unfold Gateway.initial
    dsimp only
    split <;> rfl
  obtain ⟨gateway, journal, rfl | rfl, started⟩ := start_eq setup outside
  · rw [started]
    exact initial
  · rw [started]
    exact ((Gateway.initial setup outside).chores_step setup .start).killsOnce initial

theorem Ends.killsOnce {event : Event} {left : Gateway} {earlier : List Nat}
    (ends : loop.Ends setup event left) (once : loop.gateway.upkeep.KillsOnce earlier) :
    left.upkeep.KillsOnce earlier := by
  cases ends with
  | closedIdle => exact once
  | told => exact once
  | graceOver => exact once
  | leftIdle => exact (loop.gateway.chores_handleEvent setup event).killsOnce once

theorem killsOnce_terminate {gateway : Gateway} {earlier : List Nat}
    (once : gateway.upkeep.KillsOnce earlier) :
    gateway.terminate.upkeep.KillsOnce earlier := by
  have also := gateway.killed_terminate
  have gone : gateway.terminate.state = .noProcess := gateway.state_terminate
  by_cases present : gateway.hasProcess = true
  · rw [if_pos present] at also
    have killed := once.kill (Host.hasProcess_iff.mp present)
    exact killed.keep also gateway.generation_terminate fun runs => absurd gone runs
  · rw [if_neg present, List.append_nil] at also
    exact once.keep also gateway.generation_terminate fun runs => absurd gone runs

theorem killsOnce_after (setup : Setup) (outside : Outside) (steps : List LoopStep) :
    (after setup outside steps).gateway.upkeep.KillsOnce outside.killed := by
  induction steps using List.reverseRecOn with
  | nil => exact killsOnce_start setup outside
  | append_singleton steps last ih =>
      rw [after_concat]
      cases last with
      | meanwhile outside => exact ih
      | elapse timer => exact ih
      | handle event =>
          by_cases ended : (after setup outside steps).isEnded = true
          · rw [step, handle_ended ended]
            exact ih
          have going : (after setup outside steps).isEnded = false := Bool.not_eq_true _ ▸ ended
          rcases handle_cases setup going event with
            ⟨left, ends, handled⟩ | ⟨rfl, handled⟩ | ⟨-, handled⟩
          · rw [step, handled]
            exact killsOnce_terminate (ends.killsOnce ih)
          · rw [step, handled]
            exact ih
          · rw [step, handled]
            exact (Gateway.chores_handleEvent setup _ event).killsOnce ih

/-! ## Closing and ending -/

/-- A loop that has ended has no process and no armed timers. -/
def IsDown (loop : EventLoop) : Prop :=
  loop.gateway.state = .noProcess ∧ loop.gateway.timers.arms = []

theorem arms_terminate (gateway : Gateway) : gateway.terminate.timers.arms = [] := by
  simp only [Gateway.terminate, Gateway.withHost, Host.terminate]
  split
  · split <;> rfl
  · rfl

theorem Ends.isDown {event : Event} {left : Gateway} (_ : loop.Ends setup event left) :
    ({ loop with gateway := left } : EventLoop).finish.IsDown :=
  ⟨left.state_terminate, arms_terminate left⟩

theorem start_open (setup : Setup) (outside : Outside) :
    (start setup outside).isEnded = false ∧ (start setup outside).isClosing = false := by
  unfold start
  dsimp only
  split
  · split <;> exact ⟨rfl, rfl⟩
  · exact ⟨rfl, rfl⟩

/-- No timer elapses when none is armed. -/
theorem fire_of_arms_nil {table : TimerTable} (unarmed : table.arms = []) (timer : Timer) :
    (table.fire timer).2 = table := by
  have missing : table.arm? timer = none := by
    rw [TimerTable.arm?, unarmed]
    rfl
  simp only [TimerTable.fire, missing]

theorem IsDown.step_elapse (down : loop.IsDown) (timer : Timer) :
    loop.step setup (.elapse timer) = loop := by
  have unfired := fire_of_arms_nil down.2 timer
  simp only [EventLoop.step, unfired]

theorem isDown_after (setup : Setup) (outside : Outside) (steps : List LoopStep)
    (ended : (after setup outside steps).isEnded = true) :
    (after setup outside steps).IsDown := by
  induction steps using List.reverseRecOn with
  | nil => exact absurd (ended.symm.trans (start_open setup outside).1) (by simp)
  | append_singleton steps last ih =>
      rw [after_concat] at ended ⊢
      by_cases finished : (after setup outside steps).isEnded = true
      · cases last with
        | meanwhile outside => exact ih finished
        | elapse timer =>
            rw [(ih finished).step_elapse timer]
            exact ih finished
        | handle event =>
            rw [step, handle_ended finished]
            exact ih finished
      · cases last with
        | meanwhile outside => exact absurd ended finished
        | elapse timer => exact absurd ended finished
        | handle event =>
            have going : (after setup outside steps).isEnded = false :=
              Bool.not_eq_true _ ▸ finished
            obtain ⟨left, ends⟩ := (isEnded_handle_iff going event).mp ended
            rw [step, ends.handle going]
            exact ends.isDown

/-- As long as the loop goes on, it is closing once the client has closed its input. -/
theorem isClosing_after_iff (setup : Setup) (outside : Outside) (steps : List LoopStep)
    (goes : (after setup outside steps).isEnded = false) :
    (after setup outside steps).isClosing = true ↔ .handle .clientClosed ∈ steps := by
  induction steps using List.reverseRecOn with
  | nil =>
      have opened : (after setup outside []).isClosing = false := (start_open setup outside).2
      simp [opened]
  | append_singleton steps last ih =>
      rw [after_concat] at goes ⊢
      have going := going_of_step goes
      have before := ih going
      cases last with
      | meanwhile outside => simpa [step] using before
      | elapse timer => simpa [step] using before
      | handle event =>
          rcases handle_cases_of_goes setup going goes with ⟨rfl, handled⟩ | ⟨passed, handled⟩
          · rw [step, handled]
            exact iff_of_true rfl (by simp)
          · have other : event ≠ .clientClosed := by
              rintro rfl
              simp [Event.isPassed] at passed
            rw [step, handled]
            simpa [Ne.symm other] using before

/-- As long as the loop goes on after the client has closed its input, somebody waits for the
service. -/
theorem busy_after (setup : Setup) (outside : Outside) (steps : List LoopStep)
    (goes : (after setup outside steps).isEnded = false)
    (closing : (after setup outside steps).isClosing = true) :
    (after setup outside steps).gateway.isIdle = false := by
  induction steps using List.reverseRecOn with
  | nil => exact absurd (closing.symm.trans (start_open setup outside).2) (by simp)
  | append_singleton steps last ih =>
      rw [after_concat] at goes closing ⊢
      have going := going_of_step goes
      cases last with
      | meanwhile outside => exact ih going closing
      | elapse timer => exact ih going closing
      | handle event =>
          have goesOn (left : Gateway) : ¬(after setup outside steps).Ends setup event left := by
            intro ends
            have ended := (isEnded_handle_iff going event).mpr ⟨left, ends⟩
            exact absurd (goes.symm.trans ended) (by simp)
          rcases handle_cases_of_goes setup going goes with ⟨rfl, handled⟩ | ⟨passed, handled⟩
          · rw [step, handled]
            exact Bool.not_eq_true _ ▸ fun idle => goesOn _ (.closedIdle idle)
          · rw [step, handled] at closing ⊢
            exact Bool.not_eq_true _ ▸ fun idle => goesOn _ (.leftIdle closing passed idle)

/-- Since the client has closed its input, the time of grace is armed until it elapses. -/
theorem graced_after (setup : Setup) (outside : Outside) (first second : List LoopStep)
    (lasting : .elapse .shutdownGrace ∉ second)
    (goes : (after setup outside (first ++ .handle .clientClosed :: second)).isEnded = false) :
    (after setup outside (first ++ .handle .clientClosed :: second)).gateway.timers.rule?
      .shutdownGrace = some (.once setup.settings.service.shutdownGrace) := by
  have granted (loop : EventLoop) :
      (loop.grant setup).gateway.timers.rule? .shutdownGrace =
        some (.once setup.settings.service.shutdownGrace) := by
    have armed := loop.gateway.timers.rule?_schedule .shutdownGrace
      (.once setup.settings.service.shutdownGrace)
    exact (congrFun armed .shutdownGrace).trans (Function.update_self _ _ _)
  induction second using List.reverseRecOn with
  | nil =>
      rw [after_concat] at goes ⊢
      have going := going_of_step goes
      rcases handle_cases_of_goes setup going goes with ⟨-, handled⟩ | ⟨passed, -⟩
      · rw [step, handled]
        exact granted _
      · simp [Event.isPassed] at passed
  | append_singleton second last ih =>
      rw [← List.cons_append, ← List.append_assoc, after_concat] at goes ⊢
      have before := ih (fun listed => lasting (List.mem_append_left _ listed)) (going_of_step goes)
      have going := going_of_step goes
      cases last with
      | meanwhile outside => exact before
      | elapse timer =>
          have apart : Timer.shutdownGrace ≠ timer := by
            rintro rfl
            exact lasting (by simp)
          rw [TimerTable.rule?] at before ⊢
          rw [← before]
          exact congrArg _ (TimerTable.arm?_fire_of_ne _ apart)
      | handle event =>
          rcases handle_cases_of_goes setup going goes with ⟨rfl, handled⟩ | ⟨passed, handled⟩
          · rw [step, handled]
            exact granted _
          · have chores := Gateway.chores_handleEvent setup
              (after setup outside (first ++ .handle .clientClosed :: second)).gateway event
            rw [step, handled, ← before]
            exact congrArg _ (chores.arm?_shutdownGrace (by simp [Gateway.dutyIn]))

/-- When the loop ends, its process is asked to end if it still runs, and has not been asked
before. -/
theorem Ends.killed {event : Event} {left : Gateway} {earlier : List Nat}
    (ends : loop.Ends setup event left) (once : loop.gateway.upkeep.KillsOnce earlier) :
    ∃ kills, left.terminate.outside.killed = earlier ++ kills ∧ kills.Nodup ∧
      (left.state ≠ .noProcess → kills.getLast? = some left.generation) := by
  have also := left.killed_terminate
  obtain ⟨before, killedBefore, -⟩ := ends.killsOnce once
  obtain ⟨kills, killed, distinct, -⟩ := killsOnce_terminate (ends.killsOnce once)
  refine ⟨kills, killed, distinct, fun running => ?_⟩
  have present : left.hasProcess = true := Host.hasProcess_iff.mpr running
  have same : earlier ++ kills = earlier ++ (before ++ [left.generation]) := by
    rw [if_pos present] at also
    rw [← List.append_assoc, ← killedBefore]
    exact killed.symm.trans also
  rw [List.append_cancel_left same, List.getLast?_concat]

/-- The loop ends in exactly the events in which it is told to, the time of grace is over, or
nothing waits for the service any more after the client has closed its input.  From then on there
is no process, no timer is armed, and no event is handled; a process that was still running has
been asked to end, once.  As long as the loop goes on after the client has closed its input, the
time of grace is armed until it elapses.  If the loop ends with nothing waiting, every request
that was accepted has been answered once; answers are what the client is sent. -/
theorem event_loop_shuts_down_in_order (setup : Setup) (outside : Outside)
    (steps : List LoopStep) :
    let loop := after setup outside steps
    (loop.isEnded = true → loop.IsDown ∧ (∀ event, loop.handle setup event = loop) ∧
        ∀ timer, loop.step setup (.elapse timer) = loop) ∧
      (loop.isEnded = false →
        (loop.isClosing = true ↔ .handle .clientClosed ∈ steps) ∧
        (∀ first second, steps = first ++ .handle .clientClosed :: second →
          .elapse .shutdownGrace ∉ second →
            loop.gateway.timers.rule? .shutdownGrace =
              some (.once setup.settings.service.shutdownGrace)) ∧
        ∀ event, let later := loop.handle setup event
          (∃ deeds, later.gateway.ledger = loop.gateway.ledger ++ deeds ∧
            later.gateway.outside.replies =
              (loop.gateway.outside.replyAll (deeds.filterMap Deed.reply?)).replies) ∧
          (later.isEnded = true ↔ ∃ left, loop.Ends setup event left) ∧
          ∀ left, loop.Ends setup event left →
            later.IsDown ∧
            (∃ kills, later.gateway.outside.killed = outside.killed ++ kills ∧ kills.Nodup ∧
              (left.state ≠ .noProcess → kills.getLast? = some left.generation)) ∧
            (left.isIdle = true → ∀ id,
              ((start setup outside).acceptedIds setup (steps ++ [.handle event])).count id =
                later.gateway.ledger.countP (Deed.isAnswerTo id))) := by
  intro loop
  refine ⟨fun ended => ?_, fun going => ⟨?_, ?_, fun event => ?_⟩⟩
  · have down : loop.IsDown := isDown_after setup outside steps ended
    exact ⟨down, handle_ended ended, down.step_elapse⟩
  · exact isClosing_after_iff setup outside steps going
  · intro first second split lasting
    simp only [loop, split] at going ⊢
    exact graced_after setup outside first second lasting going
  · intro later
    have sound := isSound_after setup outside steps going
    obtain ⟨ledger, voice⟩ := handle_tells setup going event
    have replies := congrArg Prod.fst voice
    refine ⟨?_, isEnded_handle_iff going event, fun left ends => ⟨?_, ?_, ?_⟩⟩
    · obtain ⟨passage, -⟩ := loop.gateway.passage_step setup (.event event) sound.settled
      obtain ⟨deeds, grows, -⟩ := passage.grows
      exact ⟨deeds, ledger.trans grows.ledger, replies.trans (Gateway.replies_step grows.ledger)⟩
    · have handled : later = _ := ends.handle going
      rw [handled]
      exact ends.isDown
    · have handled : later = _ := ends.handle going
      rw [handled]
      exact ends.killed (killsOnce_after setup outside steps)
    · intro idle id
      have handled : later = _ := ends.handle going
      have accepted := acceptedIds_after setup outside (steps ++ [.handle event])
      have last : after setup outside (steps ++ [.handle event]) = later := after_concat ..
      rw [← accepted, last, handled]
      exact (ends.isSound sound).idle idle id

end EventLoop

end BrowserRelay
