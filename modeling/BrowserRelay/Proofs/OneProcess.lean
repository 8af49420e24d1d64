import BrowserRelay.Proofs.Answers
import Mathlib.Data.List.Induction

/-!
# One process at a time

A host is asked to do anything, in any order, and the outcomes of it are any.  What happens to its
processes can be told from what is launched, written and killed at the edges, and from the
reports of an end that are accepted.  There is never more than one process that has been launched
and neither killed nor reported as ended.
-/

namespace BrowserRelay

/-! ## What happens to processes -/

/-- What happens to the process of a generation. -/
inductive ProcessEvent where
  | launched (generation : Nat)
  | written (line : WrittenLine)
  /-- It is asked to end, whether or not that fails. -/
  | killed (generation : Nat)
  /-- The report that it has ended is accepted. -/
  | ended (generation : Nat)
  deriving DecidableEq

namespace ProcessEvent

def launched? : ProcessEvent → Option Nat
  | launched generation => some generation
  | _ => none

def written? : ProcessEvent → Option WrittenLine
  | written line => some line
  | _ => none

def killed? : ProcessEvent → Option Nat
  | killed generation => some generation
  | _ => none

/-- The process has been launched, and neither been killed nor reported as ended. -/
def IsLive (events : List ProcessEvent) (generation : Nat) : Prop :=
  launched generation ∈ events ∧ killed generation ∉ events ∧ ended generation ∉ events

/-- An event may come after others: a process is launched under a greater number than those
before, and while none is live, and only what is live is written to, killed, or reported as
ended. -/
def MayFollow (earlier : List ProcessEvent) : ProcessEvent → Prop
  | launched generation =>
      (∀ other, launched other ∈ earlier → other < generation) ∧ ∀ other, ¬ IsLive earlier other
  | written line => IsLive earlier line.generation
  | killed generation => IsLive earlier generation
  | ended generation => IsLive earlier generation

/-- Every event may come after those before it. -/
def InOrder (events : List ProcessEvent) : Prop :=
  ∀ earlier event later, events = earlier ++ event :: later → MayFollow earlier event

variable {events : List ProcessEvent}

theorem inOrder_nil : InOrder [] := by
  intro earlier event later split
  simp at split

theorem inOrder_concat_iff {event : ProcessEvent} :
    InOrder (events ++ [event]) ↔ InOrder events ∧ MayFollow events event := by
  constructor
  · intro ordered
    refine ⟨fun earlier found later split => ?_, ordered events event [] rfl⟩
    refine ordered earlier found (later ++ [event]) ?_
    rw [split, List.append_assoc, List.cons_append]
  · rintro ⟨ordered, allowed⟩ earlier found later split
    rcases concat_eq_append_cons.mp split with ⟨rfl, rfl, -⟩ | ⟨middle, -, before⟩
    · exact allowed
    · exact ordered earlier found middle before

theorem launched?_eq_some_iff {event : ProcessEvent} {generation : Nat} :
    event.launched? = some generation ↔ event = launched generation := by
  cases event <;> simp [launched?]

theorem mem_launches_iff {generation : Nat} :
    generation ∈ events.filterMap launched? ↔ launched generation ∈ events := by
  simp [List.mem_filterMap, launched?_eq_some_iff]

/-- After anything but a launch, what is live has been live before. -/
theorem IsLive.of_concat {event : ProcessEvent} {generation : Nat} (other : event.launched? = none)
    (live : IsLive (events ++ [event]) generation) : IsLive events generation := by
  obtain ⟨launched, unkilled, running⟩ := live
  simp only [List.mem_append, List.mem_singleton, not_or] at launched unkilled running
  refine ⟨launched.resolve_right fun same => ?_, unkilled.1, running.1⟩
  simp [← same, launched?] at other

theorem isLive_written_iff {line : WrittenLine} {generation : Nat} :
    IsLive (events ++ [written line]) generation ↔ IsLive events generation := by
  simp [IsLive]

theorem isLive_killed_iff {gone generation : Nat} :
    IsLive (events ++ [killed gone]) generation ↔ IsLive events generation ∧ generation ≠ gone := by
  simp [IsLive]
  tauto

theorem isLive_ended_iff {gone generation : Nat} :
    IsLive (events ++ [ended gone]) generation ↔ IsLive events generation ∧ generation ≠ gone := by
  simp [IsLive]
  tauto

namespace InOrder

theorem of_append {later : List ProcessEvent} (ordered : InOrder (events ++ later)) :
    InOrder events := by
  intro earlier event rest split
  refine ordered earlier event (rest ++ later) ?_
  rw [split, List.append_assoc, List.cons_append]

/-- An event of the list may come after some events of the list. -/
theorem mayFollow (ordered : InOrder events) {event : ProcessEvent} (present : event ∈ events) :
    ∃ earlier, earlier ⊆ events ∧ MayFollow earlier event := by
  obtain ⟨earlier, later, split⟩ := List.append_of_mem present
  refine ⟨earlier, ?_, ordered earlier event later split⟩
  rw [split]
  exact List.subset_append_left earlier _

/-- What was killed or has ended was launched. -/
theorem launched_of_past (ordered : InOrder events) {generation : Nat}
    (past : killed generation ∈ events ∨ ended generation ∈ events) :
    launched generation ∈ events := by
  rcases past with there | there
  · obtain ⟨earlier, within, live⟩ := ordered.mayFollow there
    exact within live.1
  · obtain ⟨earlier, within, live⟩ := ordered.mayFollow there
    exact within live.1

/-- After a launch, what has just been launched is live, and nothing else. -/
theorem isLive_launched_iff (ordered : InOrder events) {generation other : Nat}
    (allowed : MayFollow events (launched generation)) :
    IsLive (events ++ [launched generation]) other ↔ other = generation := by
  obtain ⟨fresh, idle⟩ := allowed
  constructor
  · rintro ⟨present, unkilled, running⟩
    simp only [List.mem_append, List.mem_singleton, not_or] at present unkilled running
    rcases present with before | same
    · exact absurd ⟨before, unkilled.1, running.1⟩ (idle other)
    · exact launched.inj same
  · rintro rfl
    have unseen (gone : killed other ∈ events ∨ ended other ∈ events) : False :=
      Nat.lt_irrefl _ (fresh other (ordered.launched_of_past gone))
    refine ⟨by simp, fun there => ?_, fun there => ?_⟩
    · simp only [List.mem_append, List.mem_singleton, reduceCtorEq, or_false] at there
      exact unseen (.inl there)
    · simp only [List.mem_append, List.mem_singleton, reduceCtorEq, or_false] at there
      exact unseen (.inr there)

/-- The numbers of the launches grow. -/
theorem launches_grow (ordered : InOrder events) :
    (events.filterMap launched?).Pairwise (· < ·) := by
  induction events using List.reverseRecOn with
  | nil => exact List.Pairwise.nil
  | append_singleton earlier event ih =>
      obtain ⟨before, allowed⟩ := inOrder_concat_iff.mp ordered
      rw [List.filterMap_append]
      cases launch : event.launched? with
      | none => simpa [launch] using ih before
      | some generation =>
          obtain rfl := launched?_eq_some_iff.mp launch
          refine List.pairwise_append.mpr ⟨ih before, List.pairwise_singleton _ _, ?_⟩
          intro first past last new
          obtain rfl : last = generation := by simpa [launched?] using new
          exact allowed.1 first (mem_launches_iff.mp past)

/-- At most one process is live. -/
theorem live_unique (ordered : InOrder events) {first second : Nat} (live : IsLive events first)
    (other : IsLive events second) : first = second := by
  induction events using List.reverseRecOn with
  | nil => simp [IsLive] at live
  | append_singleton earlier event ih =>
      obtain ⟨before, allowed⟩ := inOrder_concat_iff.mp ordered
      cases launch : event.launched? with
      | none => exact ih before (live.of_concat launch) (other.of_concat launch)
      | some generation =>
          obtain rfl := launched?_eq_some_iff.mp launch
          have isNew := (before.isLive_launched_iff allowed).mp live
          have alsoNew := (before.isLive_launched_iff allowed).mp other
          exact isNew.trans alsoNew.symm

/-- What may not follow itself happens at most once. -/
theorem count_le_one (ordered : InOrder events) {event : ProcessEvent}
    (once : ∀ earlier, MayFollow earlier event → event ∉ earlier) : events.count event ≤ 1 := by
  induction events using List.reverseRecOn with
  | nil => simp
  | append_singleton earlier last ih =>
      obtain ⟨before, allowed⟩ := inOrder_concat_iff.mp ordered
      rw [List.count_append]
      by_cases same : last = event
      · subst same
        have absent : earlier.count last = 0 := List.count_eq_zero.mpr (once earlier allowed)
        simp [absent]
      · have others := ih before
        simpa [List.count_singleton, same] using others

end InOrder

/-- How the processes of a host follow each other. -/
structure OneAtATime (events : List ProcessEvent) : Prop where
  /-- The numbers of the launches grow. -/
  launches : (events.filterMap launched?).Pairwise (· < ·)
  /-- At no time is more than one process live. -/
  live : ∀ now later, events = now ++ later →
    ∀ first second, IsLive now first → IsLive now second → first = second
  /-- Lines are written to a process while it is live. -/
  written : ∀ earlier line later, events = earlier ++ written line :: later →
    IsLive earlier line.generation
  /-- A process is killed while it is live, so neither twice nor after the end. -/
  killed : ∀ generation, events.count (killed generation) ≤ 1 ∧
    ∀ earlier later, events = earlier ++ killed generation :: later → IsLive earlier generation
  /-- The end of a process is accepted while it is live, so neither twice nor after a kill. -/
  ended : ∀ generation, events.count (ended generation) ≤ 1 ∧
    ∀ earlier later, events = earlier ++ ended generation :: later → IsLive earlier generation

theorem InOrder.oneAtATime (ordered : InOrder events) : OneAtATime events where
  launches := ordered.launches_grow
  live := by
    rintro now later rfl first second live other
    exact ordered.of_append.live_unique live other
  written := fun earlier line later => ordered earlier (.written line) later
  killed := by
    intro generation
    refine ⟨ordered.count_le_one fun earlier live => live.2.1, fun earlier later => ?_⟩
    exact ordered earlier (.killed generation) later
  ended := by
    intro generation
    refine ⟨ordered.count_le_one fun earlier live => live.2.2, fun earlier later => ?_⟩
    exact ordered earlier (.ended generation) later

end ProcessEvent

/-! ## What is kept at the edges -/

/-- What was launched, written and killed at the edges has grown by events. -/
structure Outside.Adds (before later : Outside) (events : List ProcessEvent) : Prop where
  launched : later.launched = before.launched ++ events.filterMap ProcessEvent.launched?
  written : later.written = before.written ++ events.filterMap ProcessEvent.written?
  killed : later.killed = before.killed ++ events.filterMap ProcessEvent.killed?

namespace Outside

theorem Adds.keep {before later : Outside} (launched : later.launched = before.launched)
    (written : later.written = before.written) (killed : later.killed = before.killed) :
    before.Adds later [] where
  launched := launched.trans (List.append_nil _).symm
  written := written.trans (List.append_nil _).symm
  killed := killed.trans (List.append_nil _).symm

theorem Adds.trans {before middle later : Outside} {first second : List ProcessEvent}
    (adds : before.Adds middle first) (further : middle.Adds later second) :
    before.Adds later (first ++ second) where
  launched := by rw [further.launched, adds.launched, List.filterMap_append, List.append_assoc]
  written := by rw [further.written, adds.written, List.filterMap_append, List.append_assoc]
  killed := by rw [further.killed, adds.killed, List.filterMap_append, List.append_assoc]

theorem Adds.note {before later : Outside} {events : List ProcessEvent}
    (adds : before.Adds later events) (level : LogLevel) (type : String)
    (payload : List (String × Json)) : before.Adds (later.note level type payload) events :=
  ⟨adds.launched, adds.written, adds.killed⟩

theorem adds_launch (outside : Outside) (generation : Nat) :
    (∃ later, outside.launch generation = (.ok (), later) ∧
        outside.Adds later [.launched generation]) ∨
      ∃ failure later, outside.launch generation = (.error failure, later) ∧
        outside.Adds later [] := by
  unfold launch
  cases outside.launchOutcomes.next with
  | none =>
      exact .inl ⟨_, rfl, rfl, (List.append_nil _).symm, (List.append_nil _).symm⟩
  | some failure => exact .inr ⟨failure, _, rfl, .keep rfl rfl rfl⟩

theorem adds_writeLine (outside : Outside) (generation : Nat) (line : String) :
    outside.Adds (outside.writeLine generation line).2 [.written ⟨generation, line⟩] ∨
      outside.Adds (outside.writeLine generation line).2 [] := by
  unfold writeLine
  cases outside.writeOutcomes.next with
  | none => exact .inl ⟨(List.append_nil _).symm, rfl, (List.append_nil _).symm⟩
  | some failure => exact .inr (.keep rfl rfl rfl)

theorem adds_kill (outside : Outside) (generation : Nat) :
    outside.Adds (outside.kill generation).2 [.killed generation] := by
  unfold kill
  cases outside.killOutcomes.next with
  | none => exact ⟨(List.append_nil _).symm, (List.append_nil _).symm, rfl⟩
  | some failure => exact ⟨(List.append_nil _).symm, (List.append_nil _).symm, rfl⟩

end Outside

/-! ## What an operation does -/

/-- One thing that a host is asked to do. -/
inductive HostOperation where
  | start
  | markReady
  | markNotReady
  | writeLine (line : String)
  | onExit (generation : Nat) (code : Option Int)
  | onFailed (generation : Nat) (detail : String)
  | teardown
  | terminate

namespace Host

/-- The host after an operation. -/
def perform (setup : Setup) (host : Host) : HostOperation → Host
  | .start => (host.start setup).2
  | .markReady => host.markReady
  | .markNotReady => host.markNotReady
  | .writeLine line => (host.writeLine line).2
  | .onExit generation code => (host.onExit setup generation code).2
  | .onFailed generation detail => (host.onFailed generation detail).2
  | .teardown => host.teardown
  | .terminate => host.terminate

/-- The host after operations. -/
def performAll (setup : Setup) (host : Host) (operations : List HostOperation) : Host :=
  operations.foldl (perform setup) host

/-- The process whose end an operation reports, if the report is accepted. -/
def acceptedEnd? (setup : Setup) (host : Host) : HostOperation → Option Nat
  | .onExit generation code =>
      if (host.onExit setup generation code).1 = .stale then none else some generation
  | .onFailed generation detail =>
      if (host.onFailed generation detail).1 = .stale then none else some generation
  | _ => none

/-- What an operation does to processes: what it adds to what was launched, written and killed
at the edges, and the end it reports if that is accepted. -/
def eventsOf (setup : Setup) (host : Host) (operation : HostOperation) : List ProcessEvent :=
  let later := (host.perform setup operation).outside
  (later.launched.drop host.outside.launched.length).map .launched ++
    (later.written.drop host.outside.written.length).map .written ++
    (later.killed.drop host.outside.killed.length).map .killed ++
    ((host.acceptedEnd? setup operation).map .ended).toList

/-- What operations do to processes, one after the other. -/
def course (setup : Setup) : Host → List HostOperation → List ProcessEvent
  | _, [] => []
  | host, operation :: rest =>
      host.eventsOf setup operation ++ course setup (host.perform setup operation) rest

/-- All that an operation can do to the process of a host.  At most one thing happens. -/
inductive Acts (host later : Host) : List ProcessEvent → Prop
  | quiet (process : later.hasProcess = host.hasProcess)
      (generation : later.generation = host.generation) : Acts host later []
  | launchFailed (idle : host.hasProcess = false) (still : later.hasProcess = false)
      (generation : later.generation = host.generation + 1) : Acts host later []
  | launched (idle : host.hasProcess = false) (running : later.hasProcess = true)
      (generation : later.generation = host.generation + 1) :
      Acts host later [.launched (host.generation + 1)]
  | written (line : String) (running : host.hasProcess = true)
      (still : later.hasProcess = true) (generation : later.generation = host.generation) :
      Acts host later [.written ⟨host.generation, line⟩]
  | killed (running : host.hasProcess = true) (gone : later.hasProcess = false)
      (generation : later.generation = host.generation) :
      Acts host later [.killed host.generation]
  | ended (running : host.hasProcess = true) (gone : later.hasProcess = false)
      (generation : later.generation = host.generation) :
      Acts host later [.ended host.generation]

variable {setup : Setup} {host : Host}

/-- An operation which adds one event to the edges, or none, and accepts no end. -/
theorem eventsOf_of_adds {operation : HostOperation} {events : List ProcessEvent}
    (adds : host.outside.Adds (host.perform setup operation).outside events)
    (unreported : host.acceptedEnd? setup operation = none)
    (atMostOne : events.length ≤ 1) (running : ∀ generation, .ended generation ∉ events) :
    host.eventsOf setup operation = events := by
  have gained : host.eventsOf setup operation =
      (events.filterMap ProcessEvent.launched?).map .launched ++
        (events.filterMap ProcessEvent.written?).map .written ++
        (events.filterMap ProcessEvent.killed?).map .killed := by
    simp only [eventsOf, adds.launched, adds.written, adds.killed, List.drop_left, unreported,
      Option.map_none, Option.toList_none, List.append_nil]
  rw [gained]
  match events, atMostOne with
  | [], _ => rfl
  | [.launched _], _ => rfl
  | [.written _], _ => rfl
  | [.killed _], _ => rfl
  | [.ended generation], _ => exact absurd (List.mem_singleton.mpr rfl) (running generation)

/-- What an operation does to the process, and that the edges keep it. -/
structure Performs (setup : Setup) (host : Host) (operation : HostOperation) : Prop where
  acts : host.Acts (host.perform setup operation) (host.eventsOf setup operation)
  adds : host.outside.Adds (host.perform setup operation).outside (host.eventsOf setup operation)

theorem Performs.of_adds {operation : HostOperation} {events : List ProcessEvent}
    (acts : host.Acts (host.perform setup operation) events)
    (adds : host.outside.Adds (host.perform setup operation).outside events)
    (unreported : host.acceptedEnd? setup operation = none)
    (running : ∀ generation, .ended generation ∉ events) : Performs setup host operation := by
  have atMostOne : events.length ≤ 1 := by cases acts <;> simp
  have same := eventsOf_of_adds adds unreported atMostOne running
  exact ⟨same ▸ acts, same ▸ adds⟩

/-- Where the edges, the generation and the presence of a process stay, nothing happens. -/
theorem Performs.of_quiet {operation : HostOperation}
    (outside : (host.perform setup operation).outside = host.outside)
    (process : (host.perform setup operation).hasProcess = host.hasProcess)
    (generation : (host.perform setup operation).generation = host.generation)
    (unreported : host.acceptedEnd? setup operation = none) : Performs setup host operation := by
  refine .of_adds (.quiet process generation) ?_ unreported (by simp)
  rw [outside]
  exact .keep rfl rfl rfl

theorem performs_start (setup : Setup) (host : Host) : Performs setup host .start := by
  cases state : host.state with
  | starting =>
      have same : host.perform setup .start = host := by simp only [perform, start, state]
      exact .of_quiet (by rw [same]) (by rw [same]) (by rw [same]) rfl
  | ready =>
      have same : host.perform setup .start = host := by simp only [perform, start, state]
      exact .of_quiet (by rw [same]) (by rw [same]) (by rw [same]) rfl
  | noProcess =>
      have idle : host.hasProcess = false := hasProcess_eq_false_iff.mpr state
      rcases host.outside.adds_launch (host.generation + 1) with
        ⟨later, launched, adds⟩ | ⟨failure, later, failed, adds⟩
      · refine .of_adds (.launched idle ?_ ?_) ?_ rfl (by simp)
        all_goals simp only [perform, start, state, cancel, launched]
        · rfl
        · rfl
        · exact adds.note _ _ _
      · refine .of_adds (.launchFailed idle ?_ ?_) ?_ rfl (by simp)
        all_goals simp only [perform, start, state, cancel, failed]
        · rfl
        · rfl
        · exact adds.note _ _ _

theorem performs_markReady (setup : Setup) (host : Host) : Performs setup host .markReady := by
  cases state : host.state with
  | noProcess => apply Performs.of_quiet <;> simp [perform, markReady, state, acceptedEnd?]
  | starting =>
      apply Performs.of_quiet <;> simp [perform, markReady, state, hasProcess, acceptedEnd?]
  | ready => apply Performs.of_quiet <;> simp [perform, markReady, state, hasProcess, acceptedEnd?]

theorem performs_markNotReady (setup : Setup) (host : Host) :
    Performs setup host .markNotReady := by
  cases state : host.state with
  | noProcess => apply Performs.of_quiet <;> simp [perform, markNotReady, state, acceptedEnd?]
  | starting =>
      apply Performs.of_quiet <;> simp [perform, markNotReady, state, hasProcess, acceptedEnd?]
  | ready =>
      apply Performs.of_quiet <;> simp [perform, markNotReady, state, hasProcess, acceptedEnd?]

theorem performs_writeLine (setup : Setup) (host : Host) (line : String) :
    Performs setup host (.writeLine line) := by
  cases running : host.hasProcess with
  | false => apply Performs.of_quiet <;> simp [perform, writeLine, running, acceptedEnd?]
  | true =>
      have after : host.perform setup (.writeLine line) =
          { host with outside := (host.outside.writeLine host.generation line).2 } := by
        simp only [perform, writeLine, running, if_true]
      rcases host.outside.adds_writeLine host.generation line with written | refused
      · refine .of_adds (.written line running ?_ ?_) (after ▸ written) rfl (by simp)
        · rw [after]
          exact running
        · rw [after]
      · refine .of_adds (.quiet ?_ ?_) (after ▸ refused) rfl (by simp)
        · rw [after]
          rfl
        · rw [after]

/-- The report of an end that is accepted, where the process is given up and nothing changes at
the edges. -/
theorem Performs.of_end {operation : HostOperation} {generation : Nat}
    (current : host.isCurrent generation = true)
    (reported : host.acceptedEnd? setup operation = some generation)
    (gone : (host.perform setup operation).hasProcess = false)
    (same : (host.perform setup operation).generation = host.generation)
    (adds : host.outside.Adds (host.perform setup operation).outside []) :
    Performs setup host operation := by
  obtain ⟨running, rfl⟩ := isCurrent_iff.mp current
  have happens : host.eventsOf setup operation = [.ended host.generation] := by
    simp [eventsOf, adds.launched, adds.written, adds.killed, reported]
  refine ⟨happens ▸ .ended (hasProcess_iff.mpr running) gone same, ?_⟩
  exact happens ▸ ⟨adds.launched, adds.written, adds.killed⟩

theorem performs_onExit (setup : Setup) (host : Host) (generation : Nat) (code : Option Int) :
    Performs setup host (.onExit generation code) := by
  cases current : host.isCurrent generation with
  | false => apply Performs.of_quiet <;> simp [perform, onExit, current, acceptedEnd?]
  | true =>
      by_cases clean : code = some 0
      · apply Performs.of_end current
        all_goals simp only [perform, onExit, current, clean, if_true, acceptedEnd?]
        · rfl
        · rfl
        · rfl
        · exact .keep rfl rfl rfl
      · apply Performs.of_end current
        all_goals simp only [perform, onExit, current, clean, if_true, if_false, acceptedEnd?]
        · rfl
        · rfl
        · rfl
        · exact .keep rfl rfl rfl

theorem performs_onFailed (setup : Setup) (host : Host) (generation : Nat) (detail : String) :
    Performs setup host (.onFailed generation detail) := by
  cases current : host.isCurrent generation with
  | false => apply Performs.of_quiet <;> simp [perform, onFailed, current, acceptedEnd?]
  | true =>
      apply Performs.of_end current
      all_goals simp only [perform, onFailed, current, if_true, acceptedEnd?]
      · rfl
      · rfl
      · rfl
      · exact .keep rfl rfl rfl

theorem performs_teardown (setup : Setup) (host : Host) : Performs setup host .teardown := by
  have gone : (host.perform setup .teardown).hasProcess = false := rfl
  cases running : host.hasProcess with
  | false =>
      refine .of_adds (.quiet (gone.trans running.symm) rfl) ?_ rfl (by simp)
      simp only [perform, teardown, running]
      exact .keep rfl rfl rfl
  | true =>
      refine .of_adds (.killed running gone rfl) ?_ rfl (by simp)
      simp only [perform, teardown, running]
      exact (host.outside.adds_kill host.generation).note _ _ _

theorem performs_terminate (setup : Setup) (host : Host) : Performs setup host .terminate := by
  cases running : host.hasProcess with
  | false =>
      refine .of_adds (.quiet ?_ ?_) ?_ rfl (by simp)
      all_goals simp only [perform, terminate, running]
      · rfl
      · rfl
      · exact .keep rfl rfl rfl
  | true =>
      have adds := host.outside.adds_kill host.generation
      rcases kill : host.outside.kill host.generation with ⟨⟨⟩ | ⟨⟩, later⟩
      all_goals rw [kill] at adds
      all_goals refine .of_adds (.killed running ?_ ?_) ?_ rfl (by simp)
      all_goals simp only [perform, terminate, running, kill]
      · rfl
      · rfl
      · exact adds.note _ _ _
      · rfl
      · rfl
      · exact adds

theorem performs (setup : Setup) (host : Host) (operation : HostOperation) :
    Performs setup host operation := by
  cases operation with
  | start => exact performs_start setup host
  | markReady => exact performs_markReady setup host
  | markNotReady => exact performs_markNotReady setup host
  | writeLine line => exact performs_writeLine setup host line
  | onExit generation code => exact performs_onExit setup host generation code
  | onFailed generation detail => exact performs_onFailed setup host generation detail
  | teardown => exact performs_teardown setup host
  | terminate => exact performs_terminate setup host

/-! ## Any operations -/

/-- What the history of a host's processes says of the host. -/
structure Tracks (host : Host) (events : List ProcessEvent) : Prop where
  ordered : ProcessEvent.InOrder events
  /-- The present process is the one that is live. -/
  live : ∀ generation, ProcessEvent.IsLive events generation ↔
    host.hasProcess = true ∧ generation = host.generation
  past : ∀ generation, .launched generation ∈ events → generation ≤ host.generation

namespace Tracks

variable {later : Host} {events happened : List ProcessEvent}

theorem isLive (tracks : host.Tracks events) (running : host.hasProcess = true) :
    ProcessEvent.IsLive events host.generation :=
  (tracks.live _).mpr ⟨running, rfl⟩

theorem idle (tracks : host.Tracks events) (idle : host.hasProcess = false) (generation : Nat) :
    ¬ ProcessEvent.IsLive events generation := by
  intro live
  have running := ((tracks.live generation).mp live).1
  rw [idle] at running
  exact Bool.noConfusion running

/-- What an operation does may happen next, and the history follows the host. -/
theorem acts (tracks : host.Tracks events) (acts : host.Acts later happened) :
    later.Tracks (events ++ happened) := by
  cases acts with
  | quiet process generation =>
      rw [List.append_nil]
      refine ⟨tracks.ordered, fun number => ?_, fun number known => ?_⟩
      · rw [process, generation]
        exact tracks.live number
      · rw [generation]
        exact tracks.past number known
  | launchFailed idle still generation =>
      rw [List.append_nil]
      refine ⟨tracks.ordered, fun number => ?_, fun number known => ?_⟩
      · simp [still, tracks.idle idle number]
      · have atMost := tracks.past number known
        omega
  | launched idle running generation =>
      have allowed : ProcessEvent.MayFollow events (.launched (host.generation + 1)) :=
        ⟨fun other known => Nat.lt_succ_of_le (tracks.past other known), tracks.idle idle⟩
      refine ⟨ProcessEvent.inOrder_concat_iff.mpr ⟨tracks.ordered, allowed⟩, fun number => ?_,
        fun number known => ?_⟩
      · rw [tracks.ordered.isLive_launched_iff allowed, running, generation]
        simp
      · rcases List.mem_append.mp known with before | new
        · have atMost := tracks.past number before
          omega
        · have same := ProcessEvent.launched.inj (List.mem_singleton.mp new)
          omega
  | written line running still generation =>
      refine ⟨ProcessEvent.inOrder_concat_iff.mpr ⟨tracks.ordered, tracks.isLive running⟩,
        fun number => ?_, fun number known => ?_⟩
      · rw [ProcessEvent.isLive_written_iff, tracks.live, still, generation, running]
      · rw [generation]
        exact tracks.past number (by simpa using known)
  | killed running gone generation =>
      refine ⟨ProcessEvent.inOrder_concat_iff.mpr ⟨tracks.ordered, tracks.isLive running⟩,
        fun number => ?_, fun number known => ?_⟩
      · rw [ProcessEvent.isLive_killed_iff, tracks.live, gone]
        simp
      · rw [generation]
        exact tracks.past number (by simpa using known)
  | ended running gone generation =>
      refine ⟨ProcessEvent.inOrder_concat_iff.mpr ⟨tracks.ordered, tracks.isLive running⟩,
        fun number => ?_, fun number known => ?_⟩
      · rw [ProcessEvent.isLive_ended_iff, tracks.live, gone]
        simp
      · rw [generation]
        exact tracks.past number (by simpa using known)

end Tracks

theorem tracks_course {events : List ProcessEvent} (tracks : host.Tracks events)
    (operations : List HostOperation) :
    (host.performAll setup operations).Tracks (events ++ host.course setup operations) := by
  induction operations generalizing host events with
  | nil => simpa [performAll, course] using tracks
  | cons operation rest ih =>
      have next := ih (tracks.acts (performs setup host operation).acts)
      rw [List.append_assoc] at next
      exact next

theorem adds_course (setup : Setup) (host : Host) (operations : List HostOperation) :
    host.outside.Adds (host.performAll setup operations).outside
      (host.course setup operations) := by
  induction operations generalizing host with
  | nil => exact .keep rfl rfl rfl
  | cons operation rest ih => exact (performs setup host operation).adds.trans (ih _)

/-- Before anything happened there is no process. -/
theorem tracks_nil (timers : TimerTable) (outside : Outside) :
    ({ timers := timers, outside := outside } : Host).Tracks [] where
  ordered := ProcessEvent.inOrder_nil
  live := by simp [ProcessEvent.IsLive, hasProcess]
  past := by simp

/-- Whatever a host is asked to do, and with whatever outcomes, its processes come one at a time:
their numbers grow, at most one of them is live, each is killed or reported as ended at most once
and while it is live, and lines are written to it only then.  The host is ready only while a
process is live. -/
theorem processes_come_one_at_a_time (setup : Setup) (timers : TimerTable) (outside : Outside)
    (operations : List HostOperation) :
    let host : Host := { timers := timers, outside := outside }
    let last := host.performAll setup operations
    let events := host.course setup operations
    outside.Adds last.outside events ∧
      ProcessEvent.OneAtATime events ∧
      (∀ generation, ProcessEvent.IsLive events generation ↔
        last.hasProcess = true ∧ generation = last.generation) ∧
      (last.isReady = true → ProcessEvent.IsLive events last.generation) := by
  intro host last events
  have tracks : last.Tracks events := tracks_course (tracks_nil timers outside) operations
  refine ⟨adds_course setup host operations, tracks.ordered.oneAtATime, tracks.live, ?_⟩
  intro ready
  have state : last.state = .ready := of_decide_eq_true ready
  exact tracks.isLive (hasProcess_iff.mpr (by simp [state]))

end Host

end BrowserRelay
