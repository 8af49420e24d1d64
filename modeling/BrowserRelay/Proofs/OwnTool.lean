import BrowserRelay.Proofs.LogCalls
import BrowserRelay.Proofs.RejectedLines
import BrowserRelay.Proofs.Replies
import BrowserRelay.Proofs.Scripts

/-!
# Calls of the relay's own tool

A call of the relay's own tool is answered from what was recorded.  It concerns no process and no
other call.  If the script is written, it stands in its file and the recording is empty, whatever
becomes of the file of the log; if it is not, the files and the recording are as they were.
-/

namespace BrowserRelay

/-! ## The file of a script -/

/-- What follows a dash, without a slash, is the end of the last name of a path. -/
theorem Path.exists_key_eq (first : List Char) :
    ∃ last : List Char, ∀ rest, '/' ∉ rest → ∃ directory,
      Path.key (String.ofList (first ++ '-' :: rest)) =
        directory ++ [String.ofList (last ++ '-' :: rest)] := by
  obtain ⟨above, last, split⟩ := exists_pieces_append first
  refine ⟨last, fun rest plain => ?_⟩
  have parts : names (String.ofList (first ++ '-' :: rest)) =
      (above.filter (· ≠ [])).map String.ofList ++ [String.ofList (last ++ '-' :: rest)] := by
    unfold names
    rw [String.toList_ofList, split _ (by simpa using plain), List.filter_append,
      List.filter_cons_of_pos (by simp)]
    simp
  have dash : '-' ∈ (String.ofList (last ++ '-' :: rest)).toList := by simp
  have noDot : String.ofList (last ++ '-' :: rest) ≠ "." := fun same =>
    absurd (same ▸ dash) (by decide)
  have noDots : String.ofList (last ++ '-' :: rest) ≠ ".." := fun same =>
    absurd (same ▸ dash) (by decide)
  unfold key
  rw [parts, List.foldl_append, List.foldl_cons, List.foldl_nil, Place.step, if_neg noDot,
    if_neg noDots]
  exact ⟨_, rfl⟩

/-- The file of a script is never a device. -/
theorem Setup.keepsTexts_scriptTarget (setup : Setup) (reading : Nat) (store : FileStore) :
    store.KeepsTexts (setup.scriptTarget reading) := by
  intro _
  obtain ⟨first, target⟩ := setup.exists_scriptTarget_eq
  obtain ⟨last, keys⟩ := Path.exists_key_eq first
  obtain ⟨directory, key⟩ := keys _ (slash_not_mem_ending reading)
  have ends (name : String) (same : Path.key (setup.scriptTarget reading) =
      Place.root ++ ["dev", name]) : name.toList.getLast? = some 's' := by
    rw [target, key] at same
    have lasts := congrArg List.getLast? same
    simp only [List.getLast?_append, List.getLast?_singleton, List.getLast?_cons_cons,
      Option.some_or, Option.some.injEq] at lasts
    rw [← lasts, String.toList_ofList, ← List.cons_append, ← List.append_assoc,
      List.getLast?_append]
    rfl
  rw [System.isDevice, Bool.or_eq_false_iff, decide_eq_false_iff_not, decide_eq_false_iff_not]
  exact ⟨fun same => absurd (ends _ same) (by decide), fun same => absurd (ends _ same) (by decide)⟩

/-! ## Reports -/

namespace EmissionReport

/-- What the caller finds in the result of the tool call. -/
theorem get?_toolResult (report : EmissionReport) :
    report.toolResult.get? "isError" = some (.bool !report.isSuccess) ∧
      report.toolResult.get? "status" =
        some (.string (if report.isSuccess then "success" else "error")) ∧
      report.toolResult.get? "generated_script_file" =
        some (.ofOption (report.file.map .string)) := by
  have behind (members : List (String × Json)) (key other : String) (value : Json)
      (apart : other ≠ key) : (Json.ofMembers (members ++ [(key, value)])).get? other =
        (Json.ofMembers members).get? other := by
    rw [Json.get?_ofMembers_concat, if_neg apart]
  have last (members : List (String × Json)) (key : String) (value : Json) :
      (Json.ofMembers (members ++ [(key, value)])).get? key = some value := by
    rw [Json.get?_ofMembers_concat, if_pos rfl]
  let content : Json :=
    .array [.ofMembers [("type", .string "text"), ("text", .string report.announcement)]]
  have whole : report.toolResult =
      .ofMembers (((([] ++
        [("status", .string (if report.isSuccess then "success" else "error"))]) ++
        [("message", .string report.message)]) ++
        [("generated_script_file", .ofOption (report.file.map .string))]) ++
        [("content", content)] ++ [("isError", .bool !report.isSuccess)]) := rfl
  rw [whole]
  refine ⟨last _ _ _, ?_, ?_⟩
  · rw [behind _ _ _ _ (by decide), behind _ _ _ _ (by decide), behind _ _ _ _ (by decide),
      behind _ _ _ _ (by decide), last]
  · rw [behind _ _ _ _ (by decide), behind _ _ _ _ (by decide), last]

end EmissionReport

/-! ## What a call changes -/

namespace Gateway

variable {setup : Setup} {gateway : Gateway}

/-- The recording, the files and the emissions become different, and the client is told some
lines; all else is as it was. -/
structure OnlyEmits (before : Gateway) (lines : List String) (later : Gateway) : Prop where
  rest : later = { before with
    actions := later.actions
    ledger := before.ledger ++ lines.map .told
    outside := later.outside }
  said : { before.outside with
    files := later.outside.files
    emissions := later.outside.emissions }.Says lines later.outside

theorem OnlyEmits.pending {before later : Gateway} {lines : List String}
    (only : before.OnlyEmits lines later) : later.pending = before.pending := by
  have same := congrArg (fun gateway : Gateway => gateway.pending) only.rest
  exact same

theorem step_of_ownCall {line : String} {message : ClientMessage}
    (own : gateway.ownCall? setup (.event (.clientLine line)) = some message) :
    gateway.step setup (.event (.clientLine line)) = gateway.generateScript setup message.id := by
  have step : gateway.step setup (.event (.clientLine line)) =
      gateway.handleClientLine setup line := rfl
  rw [step]
  unfold ownCall? at own
  unfold handleClientLine
  dsimp only at own
  split at own
  case isTrue => simp at own
  case isFalse shown =>
    rw [if_neg shown]
    cases parsed : ClientMessage.parse line with
    | error failure => simp [parsed] at own
    | ok found =>
        simp only [parsed] at own ⊢
        split at own
        case isTrue => simp at own
        case isFalse allowed =>
          split at own
          case isFalse => simp at own
          case isTrue isOwn =>
            obtain rfl := Option.some.inj own
            rw [handleMessage_allowed (Option.not_isSome_iff_eq_none.mp allowed)]
            exact if_pos isOwn

theorem ownCall?_of_parsed {line : String} {message : ClientMessage}
    (parsed : ClientMessage.parse line = .ok message) (visible : Text.isBlankText line = false)
    (allowed : message.answerId.bind (gateway.idRefusal setup) = none)
    (isOwn : message.toolName = setup.settings.tool.name) :
    gateway.ownCall? setup (.event (.clientLine line)) = some message := by
  simp [ownCall?, visible, parsed, allowed, isOwn]

theorem onlyEmits_generateScript (setup : Setup) (gateway : Gateway) (id : Option RequestId) :
    gateway.OnlyEmits
      (id.toList.map fun id => Envelope.successLine id (gateway.emissionReport setup).toolResult)
      (gateway.generateScript setup id) := by
  obtain ⟨journal, generated⟩ := generateScript_eq setup gateway id
  rw [generated]
  let emitted := gateway.afterEmission setup journal
  have noted : { gateway.outside with
      files := emitted.outside.files
      emissions := emitted.outside.emissions }.Says [] emitted.outside := ⟨rfl, rfl⟩
  cases id with
  | none =>
      have same : { emitted with ledger := gateway.ledger ++ [] } = emitted := by
        rw [List.append_nil]
        rfl
      exact ⟨same.symm, noted⟩
  | some id =>
      let line := Envelope.successLine id (gateway.emissionReport setup).toolResult
      have told := noted.trans (.reply emitted.outside line)
      obtain ⟨files, emissions⟩ : (emitted.outside.reply line).files = emitted.outside.files ∧
          (emitted.outside.reply line).emissions = emitted.outside.emissions := by
        rw [(Outside.Says.reply emitted.outside line).edges]
        exact ⟨rfl, rfl⟩
      refine ⟨rfl, ?_⟩
      rw [← files, ← emissions] at told
      exact told

/-- The script of what is recorded. -/
def script (setup : Setup) (gateway : Gateway) : String :=
  Script.render setup.launch gateway.pageUrl gateway.actions

/-- The files after an attempt to emit a script. -/
def emittedFiles (setup : Setup) (gateway : Gateway) : FileStore :=
  ((gateway.emission setup).emit setup.launch gateway.outside).2.files

/-- The report is a success if the script was written, and an error without a file if it was
not. -/
theorem emission_cases (setup : Setup) (emitter : gateway.outside.emitter = .files) :
    let report := gateway.emissionReport setup
    let written := gateway.outside.files.writeWithDirectory (gateway.scriptPath setup)
      (gateway.script setup) gateway.outside.clock
    (written = (.ok (), gateway.emittedFiles setup) ∧ report.isSuccess = true) ∨
      ∃ failure, written = (.error failure, gateway.emittedFiles setup) ∧
        report.isSuccess = false ∧ report.file = none := by
  intro report written
  have emits : (gateway.emission setup).emit setup.launch gateway.outside =
      (gateway.emission setup).writeScript setup.launch
        { gateway.outside with
          emissions := gateway.outside.emissions ++ [gateway.emission setup] } := by
    simp only [Emission.emit, emitter]
  have reported : report = _ := congrArg Prod.fst emits
  have kept : gateway.emittedFiles setup = _ := congrArg (fun emitted => emitted.2.files) emits
  have writes : gateway.outside.files.writeWithDirectory (gateway.emission setup).target
      (Script.render setup.launch (gateway.emission setup).pageUrl
        (gateway.emission setup).actions) gateway.outside.clock = written := rfl
  unfold Emission.writeScript at reported kept
  dsimp only at reported kept
  rw [writes] at reported kept
  cases done : written with
  | mk result after =>
      rw [done] at reported kept
      cases result with
      | ok _ => exact .inl ⟨Prod.ext rfl kept.symm, by rw [reported]⟩
      | error failure =>
          exact .inr ⟨failure, Prod.ext rfl kept.symm, by rw [reported], by rw [reported]⟩

/-- What is recorded after a call, and the files. -/
theorem actionLog_generateScript (setup : Setup) (gateway : Gateway) (id : Option RequestId) :
    let emitted : ActionLog.Log := ⟨gateway.actions, gateway.emittedFiles setup⟩
    (gateway.generateScript setup id).actionLog =
      if (gateway.emissionReport setup).isSuccess then
        (ActionLog.perform setup.settings.recording.actionLogPath emitted .clear
          gateway.outside.clock).2
      else emitted := by
  intro emitted
  obtain ⟨journal, generated⟩ := generateScript_eq setup gateway id
  have told : ((gateway.afterEmission setup journal).tellReport (gateway.emissionReport setup)
      id).actionLog = (gateway.afterEmission setup journal).actionLog := by
    cases id with
    | none => rfl
    | some id =>
        unfold tellReport tell actionLog
        dsimp only
        rw [(Outside.Says.reply _ _).edges]
        rfl
  rw [generated, told]
  unfold afterEmission actionLog
  dsimp only
  cases (gateway.emissionReport setup).isSuccess <;> rfl

/-- A script that was written stays when the file of the log is written after it. -/
theorem script_survives_clear {files written : FileStore} {reading : Nat} {text path : String}
    {modified later : Int} {actions : List RecordedAction}
    (done : files.writeWithDirectory (setup.scriptTarget reading) text modified = (.ok (), written))
    (apart : files.keyOf (setup.scriptTarget reading) ≠ files.keyOf path) :
    (ActionLog.perform path ⟨actions, written⟩ .clear later).2.store.contents?
      (setup.scriptTarget reading) = some text := by
  have first := files.spares_writeWithDirectory (setup.scriptTarget reading) text modified
  rw [done] at first
  have stands := (FileStore.contents?_of_writeWithDirectory done
    (setup.keepsTexts_scriptTarget reading written).not_leadsToDevice).2
  have second := written.spares_writeWithDirectory path (RecordedAction.prettyList []) later
  refine second.contents?_of_some ?_ stands
  rwa [first.keyOf, first.keyOf]

/-- A call of the relay's own tool that is not refused is answered from what was recorded.  The
client is told one result if it gave an identifier, and nothing else concerns anyone but the
recording and the files.  If the script could be written with its directory, it stands in its file
and nothing is recorded any more, whatever becomes of the file of the log; the file keeps the
script unless the log stands there too.  If it could not, the files and the recording are as they
were, and the report is an error without a file. -/
theorem own_calls_are_isolated (setup : Setup) (gateway : Gateway) {line : String}
    {message : ClientMessage} (emitter : gateway.outside.emitter = .files)
    (own : gateway.ownCall? setup (.event (.clientLine line)) = some message) :
    let files := gateway.outside.files
    let target := gateway.scriptPath setup
    let report := gateway.emissionReport setup
    let later := gateway.step setup (.event (.clientLine line))
    gateway.OnlyEmits
        (message.id.toList.map fun id => Envelope.successLine id report.toolResult) later ∧
      report.isSuccess = (files.writeWithDirectory target
        (Script.render setup.launch gateway.pageUrl gateway.actions) gateway.outside.clock).1.isOk ∧
      report.toolResult.get? "isError" = some (.bool !report.isSuccess) ∧
      (report.isSuccess = true → later.actions = [] ∧
        (files.keyOf target ≠ files.keyOf setup.settings.recording.actionLogPath →
          later.outside.files.contents? target =
            some (Script.render setup.launch gateway.pageUrl gateway.actions))) ∧
      (report.isSuccess = false → later.actions = gateway.actions ∧
        files.KeepsFiles later.outside.files ∧
        report.toolResult.get? "status" = some (.string "error") ∧
        report.toolResult.get? "generated_script_file" = some .null) := by
  intro files target report later
  obtain ⟨isError, status, file⟩ := report.get?_toolResult
  have stepped : later = gateway.generateScript setup message.id := step_of_ownCall own
  have log := gateway.actionLog_generateScript setup message.id
  rw [← stepped] at log
  dsimp only at log
  have actions : later.actions = later.actionLog.actions := rfl
  have store : later.outside.files = later.actionLog.store := rfl
  refine ⟨stepped ▸ gateway.onlyEmits_generateScript setup message.id, ?_⟩
  rcases emission_cases setup emitter with
    ⟨written, success⟩ | ⟨failure, written, failed, noFile⟩
  · refine ⟨?_, isError, fun _ => ?_, fun failed => absurd (failed.symm.trans success) (by decide)⟩
    · rw [success, ← script, written]
      rfl
    rw [if_pos success] at log
    refine ⟨actions.trans (congrArg ActionLog.Log.actions log), fun apart => ?_⟩
    rw [store, log]
    exact script_survives_clear written apart
  · refine ⟨?_, isError, fun success => absurd (success.symm.trans failed) (by decide), fun _ => ?_⟩
    · rw [failed, ← script, written]
      rfl
    rw [if_neg (by simp [failed])] at log
    refine ⟨actions.trans (congrArg ActionLog.Log.actions log), ?_, ?_, ?_⟩
    · rw [store, log]
      exact FileStore.keepsFiles_of_writeWithDirectory written
    · rw [status, failed]
      rfl
    · rw [file, noFile]
      rfl

/-- The page is known, two actions are recorded and a request is in flight.  With the first files
only the emptied log cannot be written: the script stands, and nothing is recorded any more.  With
the second the script cannot be written: the recording and the files stay. -/
theorem script_stands_or_recording_stays :
    let setup : Setup :=
      { settings := { tool := { name := "s" } }, launch := ⟨"npx", [], none⟩ }
    let line := "\x7b\"id\":\"3\",\"method\":\"tools/call\",\"params\":\x7b\"name\":\"s\"\x7d\x7d"
    let steps : List Step :=
      [.start, .event (.serviceOutput 1 "\x7b\"id\":\"health_check_1\"\x7d"),
        .event (.clientLine ("\x7b\"id\":\"1\",\"method\":\"browser/navigate\"," ++
          "\"params\":\x7b\"url\":\"http://a/\"\x7d\x7d")),
        .event (.serviceOutput 1 "\x7b\"id\":\"1\",\"result\":\x7b\x7d\x7d"),
        .event (.clientLine "\x7b\"id\":\"2\",\"method\":\"page/content\"\x7d")]
    let recordings : Outcomes := [none, none, none, none]
    let diskFull := some (.io "disk full")
    let files : FileStore := { outcomes := recordings ++ [none, none, none, diskFull] }
    let fullFiles : FileStore := { outcomes := recordings ++ [none, diskFull] }
    let before (files : FileStore) := after setup { files := files } steps
    let later (files : FileStore) := (before files).step setup (.event (.clientLine line))
    (∀ store ∈ [files, fullFiles], (before store).pageUrl = "http://a/" ∧
        (before store).actions.length = 2 ∧ (before store).state = .ready ∧
        (before store).pending.length = 1 ∧ (later store).pending = (before store).pending) ∧
      (later files).actions = [] ∧
      (later files).outside.files.contents? ((before files).scriptPath setup) =
        some (Script.render setup.launch (before files).pageUrl (before files).actions) ∧
      (later fullFiles).actions = (before fullFiles).actions ∧
      (before fullFiles).outside.files.KeepsFiles (later fullFiles).outside.files := by
  intro setup line steps recordings diskFull files fullFiles before later
  have params : (Json.object [("name", .string "s")]).ReadsBack 126 :=
    Json.readsBack_object_iff.mpr ⟨by decide, by simp⟩
  have call : (Json.object [("id", .string "3"), ("method", .string "tools/call"),
      ("params", .object [("name", .string "s")])]).ReadsBack Json.depthLimit :=
    Json.readsBack_object_iff.mpr ⟨by decide, by simpa using params⟩
  let message : ClientMessage :=
    ⟨some (.text "3"), some "tools/call", .object [("name", .string "s")], line⟩
  have parsed : ClientMessage.parse line = .ok message :=
    ClientMessage.parse_of_compact call (by decide +kernel) (by decide +kernel) (.text _) (.text _)
  -- What there is before the call, and that it is not refused.
  have first : (before files).pageUrl = "http://a/" ∧ (before files).actions.length = 2 ∧
      (before files).state = .ready ∧ (before files).pending.length = 1 ∧
      (before files).idRefusal setup (.text "3") = none ∧
      (before files).outside.emitter = .files ∧
      ((before files).emissionReport setup).isSuccess = true ∧
      (before files).outside.files.keyOf ((before files).scriptPath setup) ≠
        (before files).outside.files.keyOf setup.settings.recording.actionLogPath := by
    decide +kernel
  have second : (before fullFiles).pageUrl = "http://a/" ∧
      (before fullFiles).actions.length = 2 ∧ (before fullFiles).state = .ready ∧
      (before fullFiles).pending.length = 1 ∧
      (before fullFiles).idRefusal setup (.text "3") = none ∧
      (before fullFiles).outside.emitter = .files ∧
      ((before fullFiles).emissionReport setup).isSuccess = false := by
    decide +kernel
  obtain ⟨page, recorded, ready, inFlight, allowed, emitter, success, apart⟩ := first
  obtain ⟨samePage, sameRecorded, alsoReady, alsoInFlight, alsoAllowed, sameEmitter, failed⟩ :=
    second
  have own (gateway : Gateway) (allowed : gateway.idRefusal setup (.text "3") = none) :
      gateway.ownCall? setup (.event (.clientLine line)) = some message :=
    ownCall?_of_parsed parsed (by decide +kernel) allowed (by decide +kernel)
  obtain ⟨only, -, -, saved, -⟩ :=
    own_calls_are_isolated setup (before files) emitter (own _ allowed)
  obtain ⟨onlyFull, -, -, -, unsaved⟩ :=
    own_calls_are_isolated setup (before fullFiles) sameEmitter (own _ alsoAllowed)
  obtain ⟨nothing, stands⟩ := saved success
  obtain ⟨stays, kept, -⟩ := unsaved failed
  refine ⟨?_, nothing, stands apart, stays, kept⟩
  rw [List.forall_mem_cons, List.forall_mem_singleton]
  exact ⟨⟨page, recorded, ready, inFlight, only.pending⟩,
    samePage, sameRecorded, alsoReady, alsoInFlight, onlyFull.pending⟩

end Gateway

end BrowserRelay
