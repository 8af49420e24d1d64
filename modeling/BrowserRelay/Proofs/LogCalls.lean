import BrowserRelay.Proofs.Recording
import BrowserRelay.Proofs.StoreFrame

/-!
# The action log in memory and on disk

What is in memory does not depend on whether the log can be written: it is what was recorded behind
the last clearing.  A call that succeeds leaves the text of all of it in the file, and a call that
fails leaves the files as they were.
-/

namespace BrowserRelay

namespace FileStore

/-- A text that is written to a path is kept: the path does not lead to a device. -/
def KeepsTexts (store : FileStore) (path : String) : Prop :=
  store.kind = .tree → System.isDevice (Path.key path) = false

variable {store later : FileStore} {path : String}

theorem KeepsTexts.not_leadsToDevice (keeps : store.KeepsTexts path) :
    ¬store.LeadsToDevice path := by
  rintro ⟨tree, key, leads, device⟩
  obtain rfl := key_of_find tree leads
  simp [keeps tree] at device

theorem KeepsTexts.of_kind (keeps : store.KeepsTexts path) (kind : later.kind = store.kind) :
    later.KeepsTexts path := fun tree => keeps (kind.symm.trans tree)

end FileStore

namespace ActionLog

/-- What the log is asked for. -/
inductive Call where
  | record (action : RecordedAction)
  | clear

/-- The actions in memory, and the store with the file of the log. -/
structure Log where
  actions : List RecordedAction
  store : FileStore

/-- Perform a call at a time: record an action behind the others or drop them all, and write what is
in memory then. -/
def perform (path : String) (log : Log) (call : Call) (modified : Int) :
    Except Failure Unit × Log :=
  match call with
  | .record action =>
      let actions := recorded log.actions action
      let (result, store) := persist log.store path actions modified
      (result, ⟨actions, store⟩)
  | .clear =>
      let (result, store) := persist log.store path [] modified
      (result, ⟨[], store⟩)

/-- The log after calls, each with its time. -/
def performAll (path : String) (log : Log) (calls : List (Call × Int)) : Log :=
  calls.foldl (fun log call => (perform path log call.1 call.2).2) log

/-- The log as an earlier run left it. -/
def opened (store : FileStore) (path : String) : Log :=
  ⟨(load store path).1, (load store path).2.2⟩

variable {path : String}

/-- The actions that are recorded by calls. -/
def recordings (calls : List (Call × Int)) : List RecordedAction :=
  calls.filterMap fun
    | (.record action, _) => some action
    | (.clear, _) => none

/-- None of the calls clears the log. -/
def ClearsNever (calls : List (Call × Int)) : Prop := ∀ modified, (Call.clear, modified) ∉ calls

theorem perform_record (log : Log) (action : RecordedAction) (modified : Int) :
    (perform path log (.record action) modified).2.actions = log.actions ++ [action] := rfl

theorem perform_clear (log : Log) (modified : Int) :
    (perform path log .clear modified).2.actions = [] := rfl

/-- As long as nothing is cleared, the recorded actions stand behind those of before. -/
theorem performAll_recordings (log : Log) {calls : List (Call × Int)} (never : ClearsNever calls) :
    (performAll path log calls).actions = log.actions ++ recordings calls := by
  induction calls generalizing log with
  | nil => exact (List.append_nil _).symm
  | cons call calls ih =>
      obtain ⟨call, time⟩ := call
      have later : ClearsNever calls := fun modified listed =>
        never modified (List.mem_cons_of_mem _ listed)
      cases call with
      | clear => exact absurd List.mem_cons_self (never time)
      | record action =>
          have rest := ih (perform path log (.record action) time).2 later
          rw [perform_record, List.append_assoc] at rest
          exact rest

/-- What was there before the log was cleared is gone. -/
theorem performAll_clear {log : Log} {before after : List (Call × Int)} {modified : Int}
    (never : ClearsNever after) :
    (performAll path log (before ++ (.clear, modified) :: after)).actions = recordings after := by
  rw [performAll, List.foldl_append, List.foldl_cons, ← performAll, performAll_recordings _ never,
    perform_clear, List.nil_append]

theorem perform_kind (log : Log) (call : Call) (modified : Int) :
    (perform path log call modified).2.store.kind = log.store.kind := by
  cases call with
  | record action => exact (log.store.spares_writeWithDirectory path _ modified).kind
  | clear => exact (log.store.spares_writeWithDirectory path _ modified).kind

theorem performAll_kind (log : Log) (calls : List (Call × Int)) :
    (performAll path log calls).store.kind = log.store.kind := by
  induction calls generalizing log with
  | nil => rfl
  | cons call calls ih => exact (ih _).trans (perform_kind log call.1 call.2)

theorem opened_kind (store : FileStore) (path : String) :
    (opened store path).store.kind = store.kind := by
  have read : (store.read path).2.kind = store.kind := by
    unfold FileStore.read
    dsimp only
    split
    · rfl
    · split <;> rfl
  unfold opened load
  dsimp only
  split
  · split
    case h_1 failed => exact (congrArg (FileStore.kind ∘ Prod.snd) failed).symm.trans read
    case h_2 succeeded =>
      have kept := (congrArg (FileStore.kind ∘ Prod.snd) succeeded).symm.trans read
      split <;> exact kept
  · rfl

/-- Every call writes what is in memory after it. -/
theorem perform_eq_persist (path : String) (log : Log) (call : Call) (modified : Int) :
    let performed := perform path log call modified
    persist log.store path performed.2.actions modified =
      (performed.1, performed.2.store) := by
  cases call <;> rfl

theorem contents?_of_perform {log later : Log} {call : Call} {modified : Int}
    (keeps : log.store.KeepsTexts path) (done : perform path log call modified = (.ok (), later)) :
    later.store.contents? path = some (RecordedAction.prettyList later.actions) := by
  have kind := @perform_kind path log call modified
  have written := perform_eq_persist path log call modified
  rw [done] at kind written
  exact (FileStore.contents?_of_writeWithDirectory written
    (keeps.of_kind kind).not_leadsToDevice).2

/-- A call that fails leaves all files as they were. -/
theorem keepsFiles_of_perform {log later : Log} {call : Call} {modified : Int} {failure : Failure}
    (failed : perform path log call modified = (.error failure, later)) :
    FileStore.KeepsFiles log.store later.store := by
  have unwritten := perform_eq_persist path log call modified
  rw [failed] at unwritten
  exact FileStore.keepsFiles_of_writeWithDirectory unwritten

end ActionLog

/-! ## The log of a gateway -/

namespace Gateway

variable {setup : Setup}

/-- The action log of a gateway. -/
def actionLog (gateway : Gateway) : ActionLog.Log := ⟨gateway.actions, gateway.outside.files⟩

theorem actionLog_record (gateway : Gateway) {message : ClientMessage} {action : RecordedAction}
    (derived : derivedAction? setup message = some action) :
    (gateway.record setup message).actionLog =
      (ActionLog.perform setup.settings.recording.actionLogPath gateway.actionLog (.record action)
        gateway.outside.clock).2 := by
  obtain ⟨journal, recorded⟩ := gateway.record_some derived
  rw [recorded]
  rfl

theorem actionLog_clearRecording (setup : Setup) (gateway : Gateway) :
    (gateway.clearRecording setup).actionLog =
      (ActionLog.perform setup.settings.recording.actionLogPath gateway.actionLog .clear
        gateway.outside.clock).2 := by
  obtain ⟨journal, cleared⟩ := clearRecording_eq setup gateway
  rw [cleared]
  rfl

end Gateway

/-! ## Memory and file -/

namespace ActionLog

/-- Whatever becomes of the writes, the actions in memory are those that an earlier run left behind
with all that were recorded behind them, and if the log was cleared, only those that were recorded
since.  After a call that succeeds the file holds the text of just these actions, and a call that
fails leaves all files as they were.  These are the calls with which a gateway records an action and
clears its log. -/
theorem file_catches_up_with_memory (store : FileStore) (path : String)
    (keeps : store.KeepsTexts path) (calls : List (Call × Int)) :
    let log := performAll path (opened store path) calls
    (ClearsNever calls → log.actions = (load store path).1 ++ recordings calls) ∧
      (∀ before modified after, calls = before ++ (.clear, modified) :: after →
        ClearsNever after → log.actions = recordings after) ∧
      (∀ action modified,
        (perform path log (.record action) modified).2.actions = log.actions ++ [action]) ∧
      (∀ modified, (perform path log .clear modified).2.actions = []) ∧
      (∀ call modified later, perform path log call modified = (.ok (), later) →
        later.store.contents? path = some (RecordedAction.prettyList later.actions)) ∧
      (∀ call modified failure later, perform path log call modified = (.error failure, later) →
        FileStore.KeepsFiles log.store later.store) ∧
      ∀ (setup : Setup) (gateway : Gateway),
        let logPath := setup.settings.recording.actionLogPath
        let time := gateway.outside.clock
        (gateway.clearRecording setup).actionLog =
            (perform logPath gateway.actionLog .clear time).2 ∧
          ∀ message action, Gateway.derivedAction? setup message = some action →
            (gateway.record setup message).actionLog =
              (perform logPath gateway.actionLog (.record action) time).2 := by
  intro log
  have kept : log.store.KeepsTexts path :=
    keeps.of_kind ((performAll_kind _ _).trans (opened_kind store path))
  refine ⟨performAll_recordings _, ?_, perform_record log, perform_clear log, ?_, ?_, ?_⟩
  · rintro before modified after rfl never
    exact performAll_clear never
  · intro call modified later done
    exact contents?_of_perform kept done
  · intro call modified failure later failed
    exact keepsFiles_of_perform failed
  · intro setup gateway
    exact ⟨gateway.actionLog_clearRecording setup, fun message action derived =>
      gateway.actionLog_record derived⟩

/-- The second call makes up for the first, whose text could not be written.  When the log is
cleared and cannot be written, memory is empty and the file still holds both. -/
theorem failed_write_is_made_up_for :
    let store : FileStore :=
      { outcomes := [none, some (.io "disk full"), none, none, some (.io "disk full")] }
    let path := "logs/actions.json"
    let first : RecordedAction := ⟨.click, "#first", none⟩
    let second : RecordedAction := ⟨.click, "#second", none⟩
    let one := performAll path (opened store path) [(.record first, 0)]
    let two := performAll path (opened store path) [(.record first, 0), (.record second, 1)]
    let three := performAll path (opened store path)
      [(.record first, 0), (.record second, 1), (.clear, 2)]
    one.actions = [first] ∧ one.store.contents? path = none ∧
      two.actions = [first, second] ∧
      two.store.contents? path = some (RecordedAction.prettyList [first, second]) ∧
      three.actions = [] ∧ FileStore.KeepsFiles two.store three.store := by
  intro store path first second one two three
  have keeps : store.KeepsTexts path := fun tree => nomatch tree
  have recordsOne : ClearsNever [(.record first, 0)] := by simp [ClearsNever]
  have recordsTwo : ClearsNever [(.record first, 0), (.record second, 1)] := by
    simp [ClearsNever]
  obtain ⟨memoryOne, -, -, -, writes, -⟩ :=
    file_catches_up_with_memory store path keeps [(.record first, 0)]
  obtain ⟨memoryTwo, -, -, clears, -, fails, -⟩ :=
    file_catches_up_with_memory store path keeps [(.record first, 0), (.record second, 1)]
  have both : two.actions = [first, second] := memoryTwo recordsTwo
  have written : two.store.contents? path = some (RecordedAction.prettyList two.actions) := by
    cases succeeded : perform path one (.record second) 1 with
    | mk result later =>
        cases result with
        | ok done =>
            have same : later = two := congrArg Prod.snd succeeded.symm
            exact same ▸ writes (.record second) 1 later succeeded
        | error failure =>
            have isWritten : (perform path one (.record second) 1).1.isOk = true := by
              decide +kernel
            simp [succeeded, Except.isOk, Except.toBool] at isWritten
  have kept : FileStore.KeepsFiles two.store three.store := by
    cases failed : perform path two .clear 2 with
    | mk result later =>
        cases result with
        | ok done =>
            have unwritten : (perform path two .clear 2).1.isOk = false := by decide +kernel
            simp [failed, Except.isOk, Except.toBool] at unwritten
        | error failure =>
            have same : later = three := congrArg Prod.snd failed.symm
            exact same ▸ fails .clear 2 failure later failed
  exact ⟨memoryOne recordsOne, by decide +kernel, both, both ▸ written, clears 2, kept⟩

end ActionLog

end BrowserRelay
