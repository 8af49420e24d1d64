import BrowserRelay.Proofs.RecordedText
import BrowserRelay.Proofs.WrittenFiles
import BrowserRelay.Recording.ActionLog
import BrowserRelay.Recording.Script

/-!
# Restarts

The actions that client lines ask for are recorded and the log is written after each of them.  A
log that is loaded from the file replays every action as the recording does exactly if no tool
call was given null for its arguments, no payload is nested too deep to be read again, and every
number is read back from its text.
-/

namespace BrowserRelay

/-! ## What client lines ask for -/

theorem ClientMessage.params_proper {line : String} {message : ClientMessage}
    (parsed : ClientMessage.parse line = .ok message) : message.params.IsProper := by
  unfold parse at parsed
  dsimp only at parsed
  split at parsed
  · simp at parsed
  case h_2 value read =>
    have proper := (Json.fits_of_parse read).proper
    unfold ofJson at parsed
    split at parsed
    · split at parsed
      · simp at parsed
      · split at parsed
        · simp at parsed
        · obtain rfl := Except.ok.inj parsed
          exact Json.proper_getD (fun found => Json.proper_of_get? proper) .null
    · simp at parsed

namespace RecordedAction

/-- The action that a client line asks for, if it is accepted and asks for one. -/
def ofLine? (line ownTool : String) : Option RecordedAction :=
  match ClientMessage.parse line with
  | .error _ => none
  | .ok message => ofMessage? message ownTool

variable {action : RecordedAction} {ownTool : String}

theorem ofLine?_ofList (characters : List Char) (ownTool : String) :
    ofLine? (String.ofList characters) ownTool =
      match Json.parseChars (Text.trimBlanks characters) with
      | .error _ => none
      | .ok value =>
          match ClientMessage.ofJson (String.ofList (Text.trimBlanks characters)) value with
          | .error _ => none
          | .ok message => ofMessage? message ownTool := by
  unfold ofLine? ClientMessage.parse Json.parse Text.trim
  simp only [String.toList_ofList]
  cases Json.parseChars (Text.trimBlanks characters) <;> rfl

theorem wait_proper {params : Json} (proper : params.IsProper) :
    (Json.ofNat (((params.get? "milliseconds").bind Json.asNat?).getD defaultWait)).IsProper := by
  refine .number ?_
  cases found : (params.get? "milliseconds").bind Json.asNat? with
  | none => exact ⟨by decide, by decide⟩
  | some duration =>
      obtain ⟨value, member, whole⟩ := Option.bind_eq_some_iff.mp found
      have proper := Json.proper_of_get? proper member
      unfold Json.asNat? at whole
      split at whole
      case h_1 integer =>
        cases proper with
        | number range =>
            have range : -2 ^ 63 ≤ integer ∧ integer < 2 ^ 64 := range
            have same := Int.mem_toNat?.mp whole
            have size : (duration : Int) < 2 ^ 64 := same ▸ range.2
            exact ⟨by simp only [Option.getD_some]; omega, size⟩
      case h_2 => simp at whole

/-- The kinds of actions that are replayed without passing a payload on. -/
def bareKinds : List ActionKind := [.click, .wait, .text, .getElements, .snapshot, .hover]

/-- An action carries a proper payload, tool calls and passthroughs name what they call, and an
action that does not pass its payload on has at most a whole number for one. -/
structure IsDerived (action : RecordedAction) : Prop where
  payload : ∀ payload ∈ action.payload, payload.IsProper
  target : action.kind = .toolCall ∨ action.kind = .passthrough → action.target.isSome
  bare : action.kind ∈ bareKinds → ∀ payload ∈ action.payload, ∃ value : Nat,
    payload = .ofNat value

theorem isDerived_of_ofMessage? {message : ClientMessage} (proper : message.params.IsProper)
    (derived : ofMessage? message ownTool = some action) : action.IsDerived := by
  have member (key : String) : ∀ found ∈ message.params.get? key, found.IsProper :=
    fun found => Json.proper_of_get? proper
  have orNull (key : String) : ∀ payload ∈ some ((message.params.get? key).getD .null),
      payload.IsProper := by
    rintro _ ⟨rfl⟩
    exact Json.proper_getD (member key) .null
  unfold ofMessage? at derived
  dsimp only at derived
  split at derived
  case h_1 =>
    split at derived
    · simp at derived
    · split at derived
      · simp at derived
      · obtain rfl := Option.some.inj derived
        refine ⟨?_, fun _ => rfl, fun bare => by simp [bareKinds] at bare⟩
        rintro _ ⟨rfl⟩
        refine Json.proper_getD (fun found carried => ?_) (.object .nil (List.forall_mem_nil _))
        obtain ⟨_, -, found⟩ := Option.bind_eq_some_iff.mp carried
        exact member _ _ found
  case h_2 | h_8 =>
    obtain rfl := Option.some.inj derived
    exact ⟨orNull _, fun called => by simp at called, fun bare => by simp [bareKinds] at bare⟩
  case h_3 | h_4 | h_14 | h_15 =>
    obtain rfl := Option.some.inj derived
    exact ⟨member _, fun called => by simp at called, fun bare => by simp [bareKinds] at bare⟩
  case h_7 =>
    obtain rfl := Option.some.inj derived
    refine ⟨?_, fun called => by simp at called, ?_⟩
    · rintro _ ⟨rfl⟩
      exact wait_proper proper
    · rintro - _ ⟨rfl⟩
      exact ⟨_, rfl⟩
  case h_18 =>
    split at derived
    · obtain rfl := Option.some.inj derived
      refine ⟨?_, fun _ => rfl, fun bare => by simp [bareKinds] at bare⟩
      rintro _ ⟨rfl⟩
      exact proper
    · simp at derived
  -- The others carry nothing.
  all_goals
    obtain rfl := Option.some.inj derived
    exact ⟨fun _ carried => (nomatch carried), fun called => by simp at called,
      fun _ _ carried => (nomatch carried)⟩

theorem isDerived_of_ofLine? {line : String} (derived : ofLine? line ownTool = some action) :
    action.IsDerived := by
  unfold ofLine? at derived
  split at derived
  · simp at derived
  case h_2 parsed => exact isDerived_of_ofMessage? (ClientMessage.params_proper parsed) derived

/-! ## What an action loses on its way through the log -/

theorem mapNumbers_reread_eq_iff {payload : Json} (proper : payload.IsProper)
    (read : ∀ number ∈ payload.numbers, (Json.reread? number).isSome) :
    payload.mapNumbers Json.reread = payload ↔ ∀ number ∈ payload.numbers, number.IsReread := by
  refine Json.mapNumbers_eq_self_iff.trans (forall₂_congr fun number inside => ?_)
  exact (Number.isReread_iff_reread (proper.numbers number inside) (read number inside)).symm

theorem mapNumbers_ne_null {payload : Json} {change : Number → Number} (some : payload ≠ .null) :
    payload.mapNumbers change ≠ .null := by
  cases payload with
  | null => exact absurd rfl some
  | _ => simp [Json.mapNumbers]

theorem arguments_ne (name : Json) :
    Json.ofMembers [("name", name), ("arguments", .object [])] ≠
      Json.ofMembers [("name", name), ("arguments", .null)] := by
  intro same
  have arguments := congrArg (·.get? "arguments") same
  simp [Json.get?_ofMembers] at arguments

/-- The last member of an object is seen from the object. -/
theorem last_of_ofMembers {key : String} (front : List (String × Json)) {value other : Json}
    (same : Json.ofMembers (front ++ [(key, value)]) = Json.ofMembers (front ++ [(key, other)])) :
    value = other := by
  have held := congrArg (·.get? key) same
  simpa [Json.get?_ofMembers] using held

/-- A step shows the payload that is passed on in it. -/
theorem payload_of_replayStep {kind : ActionKind} {target : Option String} {payload other : Json}
    (passed : kind ∉ bareKinds)
    (named : kind = .toolCall ∨ kind = .passthrough → target.isSome)
    (some : payload ≠ .null) (otherSome : other ≠ .null)
    (same : (⟨kind, target, payload⟩ : RecordedAction).replayStep =
      (⟨kind, target, other⟩ : RecordedAction).replayStep) : payload = other := by
  cases kind with
  | navigate | screenshot =>
      exact last_of_ofMembers [] (ReplayStep.call.inj same).2
  | fill | press =>
      exact last_of_ofMembers [_] (ReplayStep.call.inj same).2
  | toolCall =>
      obtain ⟨name, rfl⟩ := Option.isSome_iff_exists.mp (named (.inl rfl))
      exact last_of_ofMembers [_] (ReplayStep.call.inj same).2
  | passthrough =>
      obtain ⟨method, rfl⟩ := Option.isSome_iff_exists.mp (named (.inr rfl))
      have step : ∀ value : Json, value ≠ .null →
          (⟨.passthrough, Option.some method, value⟩ : RecordedAction).replayStep =
            .call method value := by
        intro value some
        cases value <;> first | rfl | exact absurd rfl some
      rw [step payload some, step other otherSome] at same
      exact (ReplayStep.call.inj same).2
  | _ => exact absurd (by decide) passed

/-- Reading an action back changes how it is replayed exactly if it calls a tool with null for the
arguments, or if a number in its payload is read as another one. -/
theorem replayStep_reloaded_iff (derived : action.IsDerived)
    (read : ∀ payload ∈ action.payload, ∀ number ∈ payload.numbers,
      (Json.reread? number).isSome) :
    action.reloaded.replayStep = action.replayStep ↔
      ¬(action.kind = .toolCall ∧ action.payload = some .null) ∧
        ∀ payload ∈ action.payload, ∀ number ∈ payload.numbers, number.IsReread := by
  obtain ⟨kind, target, payload⟩ := action
  cases payload with
  | none => exact iff_of_true rfl ⟨fun both => (nomatch both.2), fun _ carried => nomatch carried⟩
  | some payload =>
      by_cases null : payload = .null
      · subst null
        have bare : ∀ payload ∈ some Json.null, ∀ number ∈ payload.numbers, number.IsReread := by
          rintro _ ⟨rfl⟩
          exact List.forall_mem_nil _
        cases kind with
        | toolCall =>
            obtain ⟨name, rfl⟩ := Option.isSome_iff_exists.mp (derived.target (.inl rfl))
            refine iff_of_false (fun same => ?_) (fun kept => kept.1 ⟨rfl, rfl⟩)
            exact arguments_ne _ (ReplayStep.call.inj same).2
        | _ => exact iff_of_true rfl ⟨fun both => (nomatch both.1), bare⟩
      · have kept : keptPayload (some payload) = some payload :=
          keptPayload_of_ne fun same => null (Option.some.inj same)
        have again : (⟨kind, target, some payload⟩ : RecordedAction).reloaded =
            ⟨kind, target, some (payload.mapNumbers Json.reread)⟩ := by
          rw [reloaded, rereadPayload, kept]
          rfl
        have same_iff := mapNumbers_reread_eq_iff (derived.payload payload rfl) (read payload rfl)
        rw [again]
        constructor
        · intro same
          refine ⟨fun both => null (Option.some.inj both.2), ?_⟩
          rintro _ ⟨rfl⟩
          by_cases bare : kind ∈ bareKinds
          · obtain ⟨value, rfl⟩ := derived.bare bare payload rfl
            exact List.forall_mem_singleton.mpr trivial
          · exact same_iff.mp (payload_of_replayStep bare derived.target
              (mapNumbers_ne_null null) null same)
        · rintro ⟨-, reread⟩
          rw [same_iff.mpr (reread payload rfl)]

/-- An action is replayed alike after a restart, and does not keep the log from being read. -/
structure SurvivesRestart (action : RecordedAction) : Prop where
  arguments : ¬(action.kind = .toolCall ∧ action.payload = some .null)
  shallow : ∀ payload ∈ action.payload, payload.depth ≤ payloadLimit
  numbers : ∀ payload ∈ action.payload, ∀ number ∈ payload.numbers, number.IsReread

/-- An action is replayed alike when it is written and read, and does not keep others from being
read. -/
structure IsReplayedAlike (action : RecordedAction) : Prop where
  readable : ∀ payload ∈ action.payload, payload.IsReadable payloadLimit
  step : action.reloaded.replayStep = action.replayStep

theorem isReplayedAlike_iff (derived : action.IsDerived) :
    action.IsReplayedAlike ↔ action.SurvivesRestart := by
  constructor
  · rintro ⟨readable, step⟩
    obtain ⟨arguments, numbers⟩ := (replayStep_reloaded_iff derived fun payload carried =>
      (readable payload carried).converted).mp step
    exact ⟨arguments, fun payload carried => (readable payload carried).shallow, numbers⟩
  · rintro ⟨arguments, shallow, numbers⟩
    have readable : ∀ payload ∈ action.payload, payload.IsReadable payloadLimit := by
      intro payload carried
      have proper := derived.payload payload carried
      refine ⟨⟨proper, shallow payload carried⟩, fun number inside => ?_⟩
      have reread := (Number.isReread_iff (proper.numbers number inside)).mp
        (numbers payload carried number inside)
      rw [reread]
      rfl
    exact ⟨readable, (replayStep_reloaded_iff derived fun payload carried =>
      (readable payload carried).converted).mpr ⟨arguments, numbers⟩⟩

end RecordedAction

/-! ## The log and its file -/

namespace ActionLog

open RecordedAction (prettyList parseList)

variable {store final : FileStore} {path : String}

/-- The actions that the file of a log holds, if it can be read. -/
def held (store : FileStore) (path : String) : List RecordedAction :=
  if store.exists? path then
    match store.contents? path with
    | none => []
    | some text => (parseList text).toOption.getD []
  else []

theorem read_eq (succeeds : store.Succeeds) (path : String) :
    store.read path =
      (match store.contents? path with
        | some text => .ok text
        | none => .error (store.readRefusal path),
        { store with outcomes := store.outcomes.later }) := by
  unfold FileStore.read
  dsimp only
  rw [succeeds.next]
  cases store.contents? path <;> rfl

/-- Where operations succeed, a log is loaded with what its file holds. -/
theorem load_eq_held (succeeds : store.Succeeds) (path : String) :
    (load store path).1 = held store path := by
  unfold load held
  split
  · rw [read_eq succeeds]
    cases store.contents? path with
    | none => rfl
    | some text =>
        dsimp only
        cases parseList text <;> rfl
  · rfl

/-- Loading uses up at most one outcome. -/
theorem load_store (store : FileStore) (path : String) :
    (load store path).2.2 = store ∨
      (load store path).2.2 = { store with outcomes := store.outcomes.later } := by
  have read : (store.read path).2 = { store with outcomes := store.outcomes.later } := by
    unfold FileStore.read
    dsimp only
    split
    · rfl
    · split <;> rfl
  unfold load
  split
  · right
    split
    case h_1 failed => exact (congrArg Prod.snd failed).symm.trans read
    case h_2 done => split <;> exact (congrArg Prod.snd done).symm.trans read
  · exact .inl rfl

theorem load_succeeds (succeeds : store.Succeeds) (path : String) :
    (load store path).2.2.Succeeds := by
  rcases load_store store path with same | later
  · rwa [same]
  · rw [later]
    exact succeeds.later rfl

theorem held_load (store : FileStore) (path : String) :
    held (load store path).2.2 path = held store path := by
  rcases load_store store path with same | later
  · rw [same]
  · rw [later]
    rfl

/-- Nothing is lost of what a file holds when it is written and read once more. -/
theorem isKept_of_held {action : RecordedAction} (listed : action ∈ held store path) :
    RecordedAction.IsKept RecordedAction.payloadLimit action.payload := by
  unfold held at listed
  split at listed
  · split at listed
    · exact absurd listed List.not_mem_nil
    case h_2 text _ =>
      cases parsed : parseList text with
      | error error =>
          rw [parsed] at listed
          exact absurd listed List.not_mem_nil
      | ok actions =>
          rw [parsed] at listed
          exact RecordedAction.isKept_of_parseList parsed action listed
  · exact absurd listed List.not_mem_nil

/-! ## Recording -/

/-- The actions that client lines ask for, with the times at which they arrive. -/
def derived (ownTool : String) (lines : List (String × Int)) : List (RecordedAction × Int) :=
  lines.filterMap fun (line, time) =>
    (RecordedAction.ofLine? line ownTool).map fun action => (action, time)

theorem isDerived_of_mem {ownTool : String} {lines : List (String × Int)} {action : RecordedAction}
    (listed : action ∈ (derived ownTool lines).map Prod.fst) : action.IsDerived := by
  obtain ⟨⟨_, time⟩, entry, rfl⟩ := List.mem_map.mp listed
  obtain ⟨⟨line, _⟩, -, found⟩ := List.mem_filterMap.mp entry
  obtain ⟨_, asked, same⟩ := Option.map_eq_some_iff.mp found
  obtain ⟨rfl, -⟩ := Prod.mk.inj same
  exact RecordedAction.isDerived_of_ofLine? asked

/-- Record actions, each at its time, and write the log after each of them: what is in memory
afterwards, and the store with the file.  `none` if the log cannot be written. -/
def recordAll (path : String) :
    List RecordedAction → FileStore → List (RecordedAction × Int) →
      Option (List RecordedAction × FileStore)
  | actions, store, [] => some (actions, store)
  | actions, store, (action, modified) :: later =>
      match persist store path (recorded actions action) modified with
      | (.error _, _) => none
      | (.ok (), store) => recordAll path (recorded actions action) store later

variable {actions memory : List RecordedAction} {pending : List (RecordedAction × Int)}

theorem recordAll_cons_cases {action : RecordedAction} {modified : Int}
    (done : recordAll path actions store ((action, modified) :: pending) = some (memory, final)) :
    ∃ written, persist store path (recorded actions action) modified = (.ok (), written) ∧
      recordAll path (recorded actions action) written pending = some (memory, final) := by
  unfold recordAll at done
  split at done
  case h_1 => simp at done
  case h_2 written persisted => exact ⟨written, persisted, done⟩

theorem recordAll_memory
    (done : recordAll path actions store pending = some (memory, final)) :
    memory = actions ++ pending.map Prod.fst := by
  induction pending generalizing actions store with
  | nil =>
      obtain ⟨rfl, -⟩ := Prod.mk.inj (Option.some.inj done)
      exact (List.append_nil _).symm
  | cons first pending ih =>
      obtain ⟨written, -, rest⟩ := recordAll_cons_cases done
      rw [ih rest, recorded, List.append_assoc]
      rfl

theorem recordAll_succeeds (succeeds : store.Succeeds)
    (done : recordAll path actions store pending = some (memory, final)) : final.Succeeds := by
  induction pending generalizing actions store with
  | nil =>
      obtain ⟨-, rfl⟩ := Prod.mk.inj (Option.some.inj done)
      exact succeeds
  | cons first pending ih =>
      obtain ⟨action, modified⟩ := first
      obtain ⟨written, persisted, rest⟩ := recordAll_cons_cases done
      have kept :=
        succeeds.writeWithDirectory path (prettyList (recorded actions action)) modified
      have same : (persist store path (recorded actions action) modified).2 = written :=
        congrArg Prod.snd persisted
      exact ih (same ▸ kept) rest

/-- After the last action was recorded, the file holds the text of what is in memory. -/
theorem contents?_of_recordAll (keeps : ¬final.LeadsToDevice path)
    (done : recordAll path actions store pending = some (memory, final)) (some : pending ≠ []) :
    final.exists? path = true ∧ final.contents? path = Option.some (prettyList memory) := by
  induction pending generalizing actions store with
  | nil => exact absurd rfl some
  | cons first pending ih =>
      obtain ⟨written, persisted, rest⟩ := recordAll_cons_cases done
      cases pending with
      | nil =>
          obtain ⟨rfl, rfl⟩ := Prod.mk.inj (Option.some.inj rest)
          exact FileStore.contents?_of_writeWithDirectory persisted keeps
      | cons second pending => exact ih rest (List.cons_ne_nil _ _)

theorem held_of_recordAll (keeps : ¬final.LeadsToDevice path)
    (done : recordAll path actions store pending = some (memory, final)) (some : pending ≠ []) :
    held final path = (parseList (prettyList memory)).toOption.getD [] := by
  obtain ⟨there, contents⟩ := contents?_of_recordAll keeps done some
  rw [held, if_pos there, contents]

/-! ## Loading again -/

/-- What stands in a log's file is replayed as before when it is loaded again exactly if each of the
actions is. -/
theorem replay_parseList_iff {actions : List RecordedAction}
    (proper : ∀ action ∈ actions, ∀ payload ∈ action.payload, payload.IsProper) :
    ((parseList (prettyList actions)).toOption.getD []).map RecordedAction.replayStep =
        actions.map RecordedAction.replayStep ↔
      ∀ action ∈ actions, action.IsReplayedAlike := by
  by_cases readable : ∀ action ∈ actions, ∀ payload ∈ action.payload,
      payload.IsReadable RecordedAction.payloadLimit
  · have read : (parseList (prettyList actions)).toOption.getD [] =
        actions.map RecordedAction.reloaded := by
      rw [RecordedAction.parseList_prettyList readable]
      rfl
    rw [read, List.map_map, List.map_inj_left]
    exact forall₂_congr fun action listed =>
      ⟨fun same => ⟨readable action listed, same⟩, fun alike => alike.step⟩
  · refine iff_of_false ?_ fun alike => readable fun action listed => (alike action listed).readable
    push Not at readable
    obtain ⟨action, listed, unread⟩ := readable
    obtain ⟨error, unread⟩ := RecordedAction.parseList_prettyList_error proper
      ⟨action, listed, unread⟩
    have lost : (parseList (prettyList actions)).toOption.getD [] = [] := by
      rw [unread]
      rfl
    rw [lost]
    intro same
    rw [List.map_eq_nil_iff.mp same.symm] at listed
    exact absurd listed List.not_mem_nil

end ActionLog

/-- A script depends on its actions only by the steps that replay them. -/
theorem Script.render_of_replayStep {first second : List RecordedAction}
    (same : first.map RecordedAction.replayStep = second.map RecordedAction.replayStep)
    (launch : LaunchRequest) (pageUrl : String) :
    Script.render launch pageUrl first = Script.render launch pageUrl second := by
  have steps (actions : List RecordedAction) :
      actions.flatMap (fun action => stepLines action.replayStep) =
        (actions.map RecordedAction.replayStep).flatMap stepLines :=
    (List.flatMap_map ..).symm
  unfold render lines
  rw [steps first, steps second, same]

namespace ActionLog

variable {store final : FileStore} {path ownTool : String} {lines : List (String × Int)}
  {memory : List RecordedAction}

/-- The actions that client lines ask for are recorded and written down, behind those of an
earlier run.  When the log is loaded anew, it replays step by step what is in memory if and only if
each action that the lines ask for survives a restart and, unless nothing was written, each of the
earlier ones is replayed alike when it is read once more.  Then it gives the same scripts. -/
theorem recording_survives_restart_iff (succeeds : store.Succeeds)
    (done : recordAll path (load store path).1 (load store path).2.2 (derived ownTool lines) =
      some (memory, final))
    (keeps : ¬final.LeadsToDevice path) :
    let loaded := (load store path).1
    let restarted := (load final path).1
    let asked := (derived ownTool lines).map Prod.fst
    let survive := (∀ action ∈ asked, action.SurvivesRestart) ∧
      (asked ≠ [] → ∀ action ∈ loaded, action.IsReplayedAlike)
    (restarted.map RecordedAction.replayStep = memory.map RecordedAction.replayStep ↔ survive) ∧
      (survive → restarted.length = memory.length ∧
        ∀ launch pageUrl,
          Script.render launch pageUrl restarted = Script.render launch pageUrl memory) := by
  intro loaded restarted asked survive
  have inMemory := recordAll_memory done
  have isHeld : loaded = held store path := load_eq_held succeeds path
  have again : restarted = held final path :=
    load_eq_held (recordAll_succeeds (load_succeeds succeeds path) done) path
  have alike : restarted.map RecordedAction.replayStep = memory.map RecordedAction.replayStep ↔
      survive := by
    by_cases none : derived ownTool lines = []
    · rw [none] at done
      obtain ⟨rfl, rfl⟩ := Prod.mk.inj (Option.some.inj done)
      rw [again, held_load, ← isHeld]
      exact iff_of_true rfl (by simp [survive, asked, none])
    · have areDerived (action : RecordedAction) (listed : action ∈ asked) : action.IsDerived :=
        isDerived_of_mem listed
      have proper : ∀ action ∈ loaded ++ asked, ∀ payload ∈ action.payload, payload.IsProper := by
        intro action listed payload carried
        rcases List.mem_append.mp listed with listed | listed
        · exact (isKept_of_held (isHeld ▸ listed) payload carried).2.proper
        · exact (areDerived action listed).payload payload carried
      have some : asked ≠ [] := by simpa [asked] using none
      rw [again, held_of_recordAll keeps done none, inMemory, replay_parseList_iff proper,
        List.forall_mem_append, and_comm]
      refine and_congr (forall₂_congr fun action listed => ?_) ?_
      · exact RecordedAction.isReplayedAlike_iff (areDerived action listed)
      · exact ⟨fun earlier _ => earlier, fun earlier => earlier some⟩
  refine ⟨alike, fun survived => ?_⟩
  have same := alike.mpr survived
  constructor
  · simpa using congrArg List.length same
  · exact Script.render_of_replayStep same

/-- A call of a tool with null for its arguments. -/
def nullArguments : String :=
  "\x7b\"method\":\"tools/call\",\"params\":\x7b\"name\":\"click\",\"arguments\":null\x7d\x7d"

/-- A message whose parameters are nested as deep as a line allows. -/
def deepParams : List Char :=
  "\x7b\"method\":\"browser/back\",\"params\":".toList ++ List.replicate 126 '[' ++
    List.replicate 126 ']' ++ ['\x7d']

/-- A message with a number that is not read back from its text. -/
def driftingNumber : String := "\x7b\"method\":\"browser/back\",\"params\":[3e49]\x7d"

/-- A restart changes how a call with null for its arguments is replayed, and so it does with a
number that is not read back; it loses deep parameters altogether. -/
theorem recording_changes_over_restart :
    let changes (line : String) : Prop := ∃ memory final,
      recordAll "log.json" (load {} "log.json").1 (load {} "log.json").2.2
          (derived "script" [(line, 0)]) = some (memory, final) ∧
        memory.length = 1 ∧
        (load final "log.json").1.map RecordedAction.replayStep ≠
          memory.map RecordedAction.replayStep
    changes nullArguments ∧ changes (String.ofList deepParams) ∧ changes driftingNumber := by
  intro changes
  have succeeds : FileStore.Succeeds {} := fun _ listed => nomatch listed
  have changes_of (line : String) (action : RecordedAction)
      (asked : RecordedAction.ofLine? line "script" = some action)
      (dies : ¬action.SurvivesRestart) : changes line := by
    have lines : derived "script" [(line, 0)] = [(action, 0)] := by simp [derived, asked]
    let final := (persist {} "log.json" [action] 0).2
    have done : recordAll "log.json" (load {} "log.json").1 (load {} "log.json").2.2
        (derived "script" [(line, 0)]) = some ([action], final) := by
      rw [lines]
      rfl
    have keeps : ¬final.LeadsToDevice "log.json" := fun device => nomatch device.1
    refine ⟨[action], final, done, rfl, fun same => dies ?_⟩
    refine ((recording_survives_restart_iff succeeds done keeps).1.mp same).1 action ?_
    simp [lines]
  refine ⟨?_, ?_, ?_⟩
  · have asked : (RecordedAction.ofLine? nullArguments "script").any
        (fun action => action.kind = .toolCall ∧ action.payload.isSome ∧
          (RecordedAction.keptPayload action.payload).isNone) = true := by
      decide +kernel
    obtain ⟨action, derived, found⟩ := Option.any_eq_true _ _ |>.mp asked
    obtain ⟨call, given, lost⟩ := of_decide_eq_true found
    refine changes_of nullArguments action derived fun survives => survives.arguments ⟨call, ?_⟩
    by_contra some
    rw [RecordedAction.keptPayload_of_ne some, Option.isNone_iff_eq_none] at lost
    simp [lost] at given
  · have asked : (RecordedAction.ofLine? (String.ofList deepParams) "script").any (fun action =>
        action.payload.any fun payload => RecordedAction.payloadLimit < payload.depth) = true := by
      -- Characters are evaluated much faster than the text they make up.
      rw [RecordedAction.ofLine?_ofList]
      decide +kernel
    obtain ⟨action, derived, found⟩ := Option.any_eq_true _ _ |>.mp asked
    obtain ⟨payload, carried, deep⟩ := Option.any_eq_true _ _ |>.mp found
    exact changes_of _ action derived fun survives =>
      Nat.not_lt.mpr (survives.shallow payload carried) (of_decide_eq_true deep)
  · have asked : (RecordedAction.ofLine? driftingNumber "script").any (fun action =>
        action.payload.any fun payload =>
          payload.numbers.any fun number => Json.reread? number ≠ some number) = true := by
      decide +kernel
    obtain ⟨action, derived, found⟩ := Option.any_eq_true _ _ |>.mp asked
    obtain ⟨payload, carried, found⟩ := Option.any_eq_true _ _ |>.mp found
    obtain ⟨number, inside, drifts⟩ := List.any_eq_true.mp found
    refine changes_of driftingNumber action derived fun survives => of_decide_eq_true drifts ?_
    have proper := (RecordedAction.isDerived_of_ofLine? derived).payload payload carried
    exact (Number.isReread_iff (proper.numbers number inside)).mp
      (survives.numbers payload carried number inside)

end ActionLog

end BrowserRelay
