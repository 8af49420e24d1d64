import BrowserRelay.Relay.Gateway

/-!
# What recording and emitting change

Recording an action, forgetting the recording and emitting a script each change the recording,
the files, the emissions and the journal, and nothing else.  What they do depends on the
recording, the files, the clock and the emitter only.
-/

namespace BrowserRelay

namespace Emission

theorem emit_eq (launch : LaunchRequest) (emission : Emission) (outside : Outside) :
    (emission.emit launch outside).2 =
      { outside with
        files := (emission.emit launch outside).2.files
        emissions := outside.emissions ++ [emission]
        journal := (emission.emit launch outside).2.journal } := by
  unfold emit writeScript
  dsimp only
  cases outside.emitter with
  | files => dsimp only; split <;> rfl
  | notes refusal => cases refusal <;> rfl

theorem emit_congr (launch : LaunchRequest) (emission : Emission) (outside other : Outside)
    (files : other.files = outside.files) (clock : other.clock = outside.clock)
    (emitter : other.emitter = outside.emitter) :
    (emission.emit launch other).1 = (emission.emit launch outside).1 ∧
      (emission.emit launch other).2.files = (emission.emit launch outside).2.files := by
  unfold emit writeScript
  dsimp only
  rw [files, clock, emitter]
  cases outside.emitter with
  | files => dsimp only; split <;> exact ⟨rfl, rfl⟩
  | notes refusal => cases refusal <;> exact ⟨rfl, rfl⟩

end Emission

namespace Gateway

variable {setup : Setup} {gateway : Gateway}

/-- The action that a message adds to the recording, if it is a browser action. -/
def derivedAction? (setup : Setup) (message : ClientMessage) : Option RecordedAction :=
  RecordedAction.ofMessage? message setup.settings.tool.name

/-- The files after the recording was written anew. -/
def recordingFiles (setup : Setup) (files : FileStore) (actions : List RecordedAction)
    (clock : Int) : FileStore :=
  (ActionLog.persist files setup.settings.recording.actionLogPath actions clock).2

theorem record_none {message : ClientMessage} (none : derivedAction? setup message = none) :
    gateway.record setup message = gateway := by
  unfold derivedAction? at none
  simp only [record, none]

theorem record_some (gateway : Gateway) {message : ClientMessage} {action : RecordedAction}
    (derived : derivedAction? setup message = some action) :
    ∃ journal, gateway.record setup message =
      { gateway with
        actions := gateway.actions ++ [action]
        outside :=
          { gateway.outside with
            files :=
              recordingFiles setup gateway.outside.files (gateway.actions ++ [action])
                gateway.outside.clock
            journal := journal } } := by
  unfold derivedAction? at derived
  simp only [record, derived]
  split
  all_goals
    split
    all_goals exact ⟨_, rfl⟩

/-- Whatever a message is, recording it changes the recording, the files and the journal. -/
theorem exists_record (setup : Setup) (gateway : Gateway) (message : ClientMessage) :
    ∃ actions files journal, gateway.record setup message =
      { gateway with
        actions := actions
        outside := { gateway.outside with files := files, journal := journal } } := by
  cases derived : derivedAction? setup message with
  | none => exact ⟨gateway.actions, _, _, record_none derived⟩
  | some action =>
      obtain ⟨journal, recorded⟩ := record_some gateway derived
      exact ⟨_, _, journal, recorded⟩

theorem clearRecording_eq (setup : Setup) (gateway : Gateway) :
    ∃ journal, gateway.clearRecording setup =
      { gateway with
        actions := []
        outside :=
          { gateway.outside with
            files := recordingFiles setup gateway.outside.files [] gateway.outside.clock
            journal := journal } } := by
  unfold clearRecording
  dsimp only
  split
  all_goals exact ⟨_, rfl⟩

/-- What the emitter is given when the relay's own tool is called. -/
def emission (setup : Setup) (gateway : Gateway) : Emission :=
  ⟨gateway.pageUrl, gateway.actions, gateway.scriptPath setup⟩

/-- How the emission ends when the relay's own tool is called. -/
def emissionReport (setup : Setup) (gateway : Gateway) : EmissionReport :=
  ((gateway.emission setup).emit setup.launch gateway.outside).1

/-- The gateway after a script was emitted and, on success, the recording forgotten. -/
def afterEmission (setup : Setup) (gateway : Gateway) (journal : List LogEvent) : Gateway :=
  let files := ((gateway.emission setup).emit setup.launch gateway.outside).2.files
  let saved := (gateway.emissionReport setup).isSuccess
  { gateway with
    actions := if saved then [] else gateway.actions
    outside :=
      { gateway.outside with
        files := if saved then recordingFiles setup files [] gateway.outside.clock else files
        emissions := gateway.outside.emissions ++ [gateway.emission setup]
        journal := journal } }

/-- Send the client the report of an emission, if its call expects an answer. -/
def tellReport (gateway : Gateway) (report : EmissionReport) : Option RequestId → Gateway
  | none => gateway
  | some id => gateway.tell (Envelope.successLine id report.toolResult)

theorem generateScript_eq (setup : Setup) (gateway : Gateway) (id : Option RequestId) :
    ∃ journal, gateway.generateScript setup id =
      (gateway.afterEmission setup journal).tellReport (gateway.emissionReport setup) id := by
  suffices settles : ∃ journal,
      let emitted : Gateway :=
        { gateway with
          outside := ((gateway.emission setup).emit setup.launch gateway.outside).2 }
      (if (gateway.emissionReport setup).isSuccess then emitted.clearRecording setup
        else emitted) = gateway.afterEmission setup journal by
    obtain ⟨journal, settled⟩ := settles
    refine ⟨journal, ?_⟩
    rw [← settled]
    cases id <;> rfl
  unfold afterEmission emissionReport
  have given := (gateway.emission setup).emit_eq setup.launch gateway.outside
  cases emits : (gateway.emission setup).emit setup.launch gateway.outside with
  | mk report later =>
    rw [emits] at given
    obtain ⟨files, journal, rfl⟩ : ∃ files journal, later =
        { gateway.outside with
          files := files
          emissions := gateway.outside.emissions ++ [gateway.emission setup]
          journal := journal } := ⟨_, _, given⟩
    cases saved : report.isSuccess with
    | false => exact ⟨journal, rfl⟩
    | true => exact clearRecording_eq setup _

end Gateway

end BrowserRelay
