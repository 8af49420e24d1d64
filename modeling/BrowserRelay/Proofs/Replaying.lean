import BrowserRelay.Proofs.RejectedLines
import Mathlib.Data.List.TakeWhile

/-!
# Replaying what was recorded

An action that was derived from a message is performed again by a pause if the message asked for
a wait, and otherwise by a call from which an action is derived that is performed by the very same
call.  So a script that is run through the relay is recorded with the calls that it makes.
-/

namespace BrowserRelay

namespace RecordedAction

variable {action : RecordedAction} {ownTool : String}

/-! ## Actions of calls -/

/-- The action that a call asks for. -/
def ofCall? (ownTool method : String) (params : Json) : Option RecordedAction :=
  ofMessage? ⟨none, some method, params, ""⟩ ownTool

theorem ofMessage?_eq_ofCall? {message : ClientMessage} {method : String}
    (named : message.method = some method) :
    ofMessage? message ownTool = ofCall? ownTool method message.params := by
  obtain ⟨id, _, params, raw⟩ := message
  obtain rfl := named
  rfl

/-- The message that opens a session asks for no action. -/
theorem ofCall?_initialize (params : Json) : ofCall? ownTool "initialize" params = none := by
  have foreign : isBrowserMethod "initialize" = false := by decide +kernel
  exact if_neg (Bool.eq_false_iff.mp foreign)

/-- A call of a method whose actions have a selector and one more value. -/
theorem ofCall?_selector {method member : String} {kind : ActionKind} (apart : "selector" ≠ member)
    (derived : ∀ params, ofCall? ownTool method params =
      some ⟨kind, (params.get? "selector").bind Json.asString?, params.get? member⟩)
    (selector : String) (payload : Json) :
    ofCall? ownTool method (.ofMembers [("selector", .string selector), (member, payload)]) =
      some ⟨kind, selector, payload⟩ := by
  obtain ⟨target, value⟩ := Json.get?_ofMembers_pair apart (.string selector) payload
  rw [derived, target, value]
  rfl

theorem ofCall?_toolCall {name : String} (foreign : name ≠ ownTool) (arguments : Json) :
    ofCall? ownTool "tools/call" (.ofMembers [("name", .string name), ("arguments", arguments)]) =
      some ⟨.toolCall, name, arguments⟩ := by
  obtain ⟨target, value⟩ :=
    Json.get?_ofMembers_pair (show "name" ≠ "arguments" by decide) (.string name) arguments
  generalize Json.ofMembers _ = params at target value ⊢
  have called : (⟨none, some "tools/call", params, ""⟩ : ClientMessage).toolName = some name := by
    simp [ClientMessage.toolName, ClientMessage.methodName, target, Json.asString?]
  unfold ofCall? ofMessage?
  dsimp only [ClientMessage.methodName, Option.getD_some]
  rw [called]
  dsimp only
  rw [if_neg foreign, ClientMessage.toolArguments, called, Option.bind_some, value]
  rfl

/-! ## Actions that can be performed again -/

/-- A tool call names a tool that is not the relay's own, and a passthrough a method without a
kind of its own. -/
structure IsReplayable (ownTool : String) (action : RecordedAction) : Prop where
  toolCall : action.kind = .toolCall → ∃ name, action.target = some name ∧ name ≠ ownTool
  passthrough : action.kind = .passthrough → ∃ method, action.target = some method ∧
    ∀ params, ofCall? ownTool method params = some ⟨.passthrough, method, params⟩

theorem isReplayable_of_ofMessage? {message : ClientMessage}
    (derived : ofMessage? message ownTool = some action) :
    action.IsReplayable ownTool ∧ (action.kind = .wait ↔ message.methodName = "page/wait") := by
  unfold ofMessage? at derived
  dsimp only at derived
  split at derived
  case h_1 called =>
    split at derived
    · simp at derived
    case h_2 name _ =>
      split at derived
      · simp at derived
      case isFalse foreign =>
        obtain rfl := Option.some.inj derived
        refine ⟨⟨fun _ => ⟨name, rfl, foreign⟩, nofun⟩, nofun, fun waits => ?_⟩
        simp [called] at waits
  case h_7 waits =>
    obtain rfl := Option.some.inj derived
    exact ⟨⟨nofun, nofun⟩, iff_of_true rfl waits⟩
  case h_18 =>
    split at derived
    case isTrue browser =>
      obtain rfl := Option.some.inj derived
      refine ⟨⟨nofun, fun _ => ⟨_, rfl, fun params => ?_⟩⟩, nofun, fun waits => ?_⟩
      · unfold ofCall? ofMessage?
        dsimp only [ClientMessage.methodName, Option.getD_some]
        split
        case h_18 => exact if_pos browser
        -- The method is none of those that have a kind.
        all_goals exact absurd (by assumption) (by assumption)
      · contradiction
    · simp at derived
  -- The other kinds need nothing, and their methods are not that of a wait.
  all_goals
    obtain rfl := Option.some.inj derived
    rename_i method
    exact ⟨⟨nofun, nofun⟩, nofun, fun waits => by simp [method] at waits⟩

theorem IsReplayable.replayStep_ne_skipped (replayable : action.IsReplayable ownTool)
    (reason : String) : action.replayStep ≠ .skipped reason := by
  obtain ⟨kind, target, payload⟩ := action
  cases kind with
  | toolCall =>
      obtain ⟨name, rfl, -⟩ := replayable.toolCall rfl
      exact nofun
  | passthrough =>
      obtain ⟨method, rfl, -⟩ := replayable.passthrough rfl
      exact nofun
  | _ => exact nofun

theorem IsReplayable.replayStep_eq_pause_iff (replayable : action.IsReplayable ownTool) :
    (∃ duration, action.replayStep = .pause duration) ↔ action.kind = .wait := by
  obtain ⟨kind, target, payload⟩ := action
  cases kind with
  | wait => exact iff_of_true ⟨_, rfl⟩ rfl
  | toolCall =>
      obtain ⟨name, rfl, -⟩ := replayable.toolCall rfl
      exact iff_of_false (fun ⟨_, pause⟩ => nomatch pause) nofun
  | passthrough =>
      obtain ⟨method, rfl, -⟩ := replayable.passthrough rfl
      exact iff_of_false (fun ⟨_, pause⟩ => nomatch pause) nofun
  | _ => exact iff_of_false (fun ⟨_, pause⟩ => nomatch pause) nofun

/-- The action that the call of a step asks for is performed by the same call. -/
theorem IsReplayable.ofCall?_replayStep {method : String} {params : Json}
    (replayable : action.IsReplayable ownTool) (step : action.replayStep = .call method params) :
    ∃ again, ofCall? ownTool method params = some again ∧
      again.replayStep = .call method params := by
  obtain ⟨kind, target, payload⟩ := action
  cases kind with
  | toolCall =>
      obtain ⟨name, rfl, foreign⟩ := replayable.toolCall rfl
      obtain ⟨rfl, rfl⟩ := ReplayStep.call.inj step
      exact ⟨_, ofCall?_toolCall foreign _, rfl⟩
  | passthrough =>
      obtain ⟨own, rfl, derived⟩ := replayable.passthrough rfl
      obtain ⟨rfl, same⟩ := ReplayStep.call.inj step
      refine ⟨_, derived params, congrArg (ReplayStep.call own) ?_⟩
      cases payload with
      | none => subst same; rfl
      | some payload => cases payload <;> subst same <;> rfl
  | fill | press =>
      obtain ⟨rfl, rfl⟩ := ReplayStep.call.inj step
      exact ⟨_, ofCall?_selector (by decide) (fun _ => rfl) _ _, rfl⟩
  | wait => nomatch step
  | _ =>
      obtain ⟨rfl, rfl⟩ := ReplayStep.call.inj step
      exact ⟨_, rfl, rfl⟩

end RecordedAction

/-! ## Running a script through the relay -/

/-- Whether a step is a call. -/
def ReplayStep.isCall : ReplayStep → Bool
  | call _ _ => true
  | _ => false

/-- A message asks for what a step calls. -/
def ReplayStep.IsAskedBy (step : ReplayStep) (message : ClientMessage) : Prop :=
  ∃ method, message.method = some method ∧ step = .call method message.params

/-- The messages that a script sends: one that initializes the session, and then one for each
call among its steps. -/
def Script.Sends (actions : List RecordedAction) (messages : List ClientMessage) : Prop :=
  ∃ first rest, messages = first :: rest ∧ first.method = some "initialize" ∧
    List.Forall₂ ReplayStep.IsAskedBy
      ((actions.map RecordedAction.replayStep).filter ReplayStep.isCall) rest

namespace Gateway

variable {setup : Setup}

theorem derivedAction?_of_isAskedBy {message other : ClientMessage} {action : RecordedAction}
    (derived : derivedAction? setup message = some action)
    (asked : action.replayStep.IsAskedBy other) :
    ∃ again, derivedAction? setup other = some again ∧ again.replayStep = action.replayStep := by
  obtain ⟨method, named, step⟩ := asked
  obtain ⟨replayable, -⟩ := RecordedAction.isReplayable_of_ofMessage? derived
  obtain ⟨again, called, same⟩ := replayable.ofCall?_replayStep step
  exact ⟨again, (RecordedAction.ofMessage?_eq_ofCall? named).trans called, same.trans step.symm⟩

/-- What is recorded of the messages of a script is performed by the calls of the script. -/
theorem replayStep_of_sent {messages sent : List ClientMessage}
    (sends : Script.Sends (messages.filterMap (derivedAction? setup)) sent) :
    (sent.filterMap (derivedAction? setup)).map RecordedAction.replayStep =
      ((messages.filterMap (derivedAction? setup)).map RecordedAction.replayStep).filter
        ReplayStep.isCall := by
  obtain ⟨first, rest, rfl, opening, asked⟩ := sends
  have unrecorded : derivedAction? setup first = none :=
    (RecordedAction.ofMessage?_eq_ofCall? opening).trans (RecordedAction.ofCall?_initialize _)
  rw [List.filterMap_cons_none unrecorded]
  have each : ∀ action ∈ messages.filterMap (derivedAction? setup),
      ∃ message, derivedAction? setup message = some action := fun action listed =>
    (List.mem_filterMap.mp listed).imp fun _ found => found.2
  generalize messages.filterMap (derivedAction? setup) = actions at asked each
  induction actions generalizing rest with
  | nil =>
      obtain rfl : rest = [] := by simpa using asked
      rfl
  | cons action actions ih =>
      obtain ⟨⟨message, derived⟩, others⟩ := List.forall_mem_cons.mp each
      rw [List.map_cons] at asked ⊢
      cases isCall : action.replayStep.isCall with
      | false =>
          rw [List.filter_cons_of_neg (by simp [isCall])] at asked ⊢
          exact ih rest asked others
      | true =>
          rw [List.filter_cons_of_pos isCall] at asked ⊢
          cases asked with
          | cons own later =>
              obtain ⟨again, found, same⟩ := derivedAction?_of_isAskedBy derived own
              rw [List.filterMap_cons_some found, List.map_cons, same]
              exact congrArg _ (ih _ later others)

/-- The messages that were taken in before a script was saved, in their order, tell what is
recorded. -/
theorem actions_after_of_unsaved (outside : Outside) (steps : List Step)
    (unsaved : ∀ happening ∈ history setup outside steps, happening.isSaved = false) :
    (after setup outside steps).actions =
      (ActionLog.load outside.files setup.settings.recording.actionLogPath).1 ++
        ((history setup outside steps).reverse.filterMap Happening.message?).filterMap
          (derivedAction? setup) := by
  have whole : (history setup outside steps).takeWhile (fun happening => !happening.isSaved) =
      history setup outside steps :=
    List.takeWhile_eq_self_iff.mpr fun happening listed => by simp [unsaved happening listed]
  have none : (history setup outside steps).any Happening.isSaved = false :=
    List.any_eq_false.mpr fun happening listed => by simp [unsaved happening listed]
  rw [(remembers_after setup outside steps).1, History.actions, whole, none,
    List.filterMap_reverse, List.filterMap_reverse]
  rfl

/-- A line that can be read is taken in if its identifier is free, if it does not call the relay's
own tool, and if there is a process for it. -/
theorem happening?_of_parsed {gateway : Gateway} {line : String} {message : ClientMessage}
    (parsed : ClientMessage.parse line = .ok message) (visible : Text.isBlankText line = false)
    (allowed : message.answerId.bind (gateway.idRefusal setup) = none)
    (foreign : message.toolName ≠ setup.settings.tool.name)
    (served : gateway.isServed setup message) :
    gateway.happening? setup (.event (.clientLine line)) = some (.forwarded message) := by
  have accepted : gateway.accepted? setup (.event (.clientLine line)) = some message := by
    simp [accepted?, visible, parsed, allowed, foreign]
  simp [happening?, arrival?, accepted, served]

/-- An action that is derived from a message is never skipped.  It is performed by a pause exactly
if the message asks for a wait, and otherwise by a call; whoever makes this call has an action
recorded that is performed by the same call.  So when the messages of a script are passed on, they
are recorded with the calls of the script in their order. -/
theorem replayed_calls_are_recorded_again (setup : Setup) :
    (∀ message action, derivedAction? setup message = some action →
      (∀ reason, action.replayStep ≠ .skipped reason) ∧
      ((∃ duration, action.replayStep = .pause duration) ↔ message.method = some "page/wait") ∧
      ∀ method params, action.replayStep = .call method params →
        ∀ other : ClientMessage, other.method = some method → other.params = params →
          ∃ again, derivedAction? setup other = some again ∧
            again.replayStep = .call method params) ∧
    ∀ (messages : List ClientMessage) (outside : Outside) (steps : List Step),
      let recorded := messages.filterMap (derivedAction? setup)
      let history := history setup outside steps
      (∀ happening ∈ history, happening.isSaved = false) →
      Script.Sends recorded (history.reverse.filterMap Happening.message?) →
      (after setup outside steps).actions.map RecordedAction.replayStep =
        (ActionLog.load outside.files setup.settings.recording.actionLogPath).1.map
            RecordedAction.replayStep ++
          (recorded.map RecordedAction.replayStep).filter ReplayStep.isCall := by
  constructor
  · intro message action derived
    obtain ⟨replayable, waits⟩ := RecordedAction.isReplayable_of_ofMessage? derived
    refine ⟨replayable.replayStep_ne_skipped, ?_, ?_⟩
    · rw [replayable.replayStep_eq_pause_iff, waits, ClientMessage.methodName]
      cases message.method <;> simp
    · rintro method params step other named rfl
      rw [← step]
      exact derivedAction?_of_isAskedBy derived ⟨method, named, step⟩
  · intro messages outside steps recorded history unsaved sends
    rw [actions_after_of_unsaved outside steps unsaved, List.map_append, replayStep_of_sent sends]

/-- A call that fills in a field and does not say which is recorded again when its script is
run. -/
theorem unnamed_field_is_recorded_again :
    let setup : Setup := { launch := ⟨"npx", [], none⟩ }
    let asked : ClientMessage :=
      ⟨none, some "element/fill", .object [("selector", .null), ("text", .string "b")], ""⟩
    let step : ReplayStep :=
      .call "page/fill" (.object [("selector", .string ""), ("text", .string "b")])
    let steps : List Step :=
      [.event (.clientLine "\x7b\"id\":\"replay_1\",\"method\":\"initialize\"\x7d"),
        .event (.clientLine ("\x7b\"id\":\"replay_2\",\"method\":\"page/fill\"," ++
          "\"params\":\x7b\"selector\":\"\",\"text\":\"b\"\x7d\x7d"))]
    ([asked].filterMap (derivedAction? setup)).map RecordedAction.replayStep = [step] ∧
      (after setup {} steps).actions.map RecordedAction.replayStep = [step] := by
  intro setup asked step steps
  let first : ClientMessage :=
    ⟨some (.text "replay_1"), some "initialize", .null,
      "\x7b\"id\":\"replay_1\",\"method\":\"initialize\"\x7d"⟩
  let second : ClientMessage :=
    ⟨some (.text "replay_2"), some "page/fill",
      .object [("selector", .string ""), ("text", .string "b")],
      "\x7b\"id\":\"replay_2\",\"method\":\"page/fill\"," ++
        "\"params\":\x7b\"selector\":\"\",\"text\":\"b\"\x7d\x7d"⟩
  have opening : (Json.object [("id", .string "replay_1"), ("method", .string "initialize")]).ReadsBack
      Json.depthLimit :=
    Json.readsBack_object_iff.mpr ⟨by decide, by simp⟩
  have params : (Json.object [("selector", .string ""), ("text", .string "b")]).ReadsBack 126 :=
    Json.readsBack_object_iff.mpr ⟨by decide, by simp⟩
  have filling : (Json.object [("id", .string "replay_2"), ("method", .string "page/fill"),
      ("params", .object [("selector", .string ""), ("text", .string "b")])]).ReadsBack
      Json.depthLimit :=
    Json.readsBack_object_iff.mpr ⟨by decide, by simpa using params⟩
  have firstParsed : ClientMessage.parse first.raw = .ok first :=
    ClientMessage.parse_of_compact opening (by decide +kernel) (by decide +kernel) (.text _)
      (.text _)
  have secondParsed : ClientMessage.parse second.raw = .ok second :=
    ClientMessage.parse_of_compact filling (by decide +kernel) (by decide +kernel) (.text _)
      (.text _)
  have opened : (initial setup {}).happening? setup (.event (.clientLine first.raw)) =
      some (.forwarded first) :=
    happening?_of_parsed firstParsed (by decide +kernel) (by decide +kernel) nofun
      (by decide +kernel)
  have filled : (after setup {} [.event (.clientLine first.raw)]).happening? setup
      (.event (.clientLine second.raw)) = some (.forwarded second) :=
    happening?_of_parsed secondParsed (by decide +kernel) (by decide +kernel) nofun
      (by decide +kernel)
  have told : history setup {} steps = [.forwarded second, .forwarded first] := by
    refine (history_concat setup {} [.event (.clientLine first.raw)]
      (.event (.clientLine second.raw))).trans ?_
    rw [filled, history, historySince, opened]
    rfl
  have recorded :
      ([asked].filterMap (derivedAction? setup)).map RecordedAction.replayStep = [step] := by
    have derived : derivedAction? setup asked =
        some ⟨.fill, none, some (.string "b")⟩ := rfl
    have performed : RecordedAction.replayStep ⟨.fill, none, some (.string "b")⟩ = step := by
      have later : ¬ "text" < "selector" := by decide
      have apart : "text" ≠ "selector" := by decide
      simp only [step, RecordedAction.replayStep, Json.ofMembers, List.foldl, Json.insertMember,
        if_neg later, if_neg apart, Option.getD]
    simp [derived, performed]
  refine ⟨recorded, ?_⟩
  obtain ⟨-, whole⟩ := replayed_calls_are_recorded_again setup
  refine (whole [asked] {} steps ?_ ?_).trans ?_
  · rw [told]
    simp [Happening.isSaved]
  · rw [told, Script.Sends, recorded]
    exact ⟨first, [second], rfl, rfl, .cons ⟨_, rfl, rfl⟩ .nil⟩
  · rw [recorded]
    rfl

end Gateway

end BrowserRelay
