import BrowserRelay.Proofs.UnreadText
import BrowserRelay.Recording.ActionText

/-!
# The text of recorded actions reads back

An action is read from its text as it was written, except that a payload of null counts as
missing and that numbers are what the reader makes of theirs.  Reading stops where a payload is
nested deeper than the reader allows or has a number that it finds too large.
-/

namespace BrowserRelay.RecordedAction

open Json (skipBlanks quoted prettyChars prettyMember bodyText tailText lineStart Reads EndsNumber
  escapedChar AllBlank)

/-! ## What is written -/

/-- A payload that counts when it is read: null does not. -/
def keptPayload : Option Json → Option Json
  | some .null => none
  | payload => payload

/-- A payload as it is read back. -/
def rereadPayload (payload : Option Json) : Option Json :=
  (keptPayload payload).map (Json.mapNumbers Json.reread)

/-- An action as it is read back. -/
def reloaded (action : RecordedAction) : RecordedAction :=
  { action with payload := rereadPayload action.payload }

def targetMembers (target : Option String) : List (String × Json) :=
  (target.map fun target => ("target", Json.string target)).toList

def payloadMembers (payload : Option Json) : List (String × Json) :=
  (payload.map fun payload => ("payload", payload)).toList

theorem toJson_eq (action : RecordedAction) :
    action.toJson = .object (("kind", .string action.kind.name) ::
      (targetMembers action.target ++ payloadMembers action.payload)) := rfl

/-! ## The parts of an action -/

variable {depth : Nat} {rest : List Char}

theorem readKind_text (kind : ActionKind) :
    readKind depth (' ' :: (quoted kind.name ++ rest)) = .ok (kind, rest) := by
  have known : ActionKind.ofName? kind.name = some kind := by
    cases kind <;> decide
  have skipped : skipBlanks (' ' :: (quoted kind.name ++ rest)) =
      '"' :: (kind.name.toList.flatMap escapedChar ++ '"' :: rest) := by
    rw [Json.quoted_append]
    rfl
  unfold readKind
  rw [skipped]
  change readKindName _ = _
  rw [readKindName, Json.readString_quoted]
  simp [lift, known]

theorem readTarget_text (target : String) :
    readOptional readTarget (' ' :: (quoted target ++ rest)) = .ok (some target, rest) := by
  have skipped : skipBlanks (' ' :: (quoted target ++ rest)) =
      '"' :: (target.toList.flatMap escapedChar ++ '"' :: rest) := by
    rw [Json.quoted_append]
    rfl
  have again : skipBlanks ('"' :: (target.toList.flatMap escapedChar ++ '"' :: rest)) =
      '"' :: (target.toList.flatMap escapedChar ++ '"' :: rest) := rfl
  unfold readOptional
  rw [skipped]
  change withValue (readTarget _) some = _
  unfold readTarget
  rw [again]
  change withValue (lift (Json.readString .value _)) some = _
  rw [Json.readString_quoted]
  rfl

/-- The text of a value other than null starts with another letter. -/
theorem prettyChars_head {value : Json} (proper : value.IsProper) (some : value ≠ .null)
    (level : Nat) : ∃ first more, prettyChars level value = first :: more ∧ first ≠ 'n' ∧
      Json.isJsonBlank first = false := by
  cases value with
  | null => exact absurd rfl some
  | bool value => cases value <;> exact ⟨_, _, rfl, by decide, rfl⟩
  | number number =>
      cases proper with
      | number proper =>
          obtain ⟨first, more, starts, digit⟩ :=
            Json.numeralText_head (Json.isNumeral_numeralOf proper)
          change ∃ first more, Json.numberText number = first :: more ∧ _
          rw [Json.numberText_eq proper]
          split
          · exact ⟨_, _, rfl, by decide, rfl⟩
          · exact ⟨first, more, starts, Json.ne_of_digit digit 'n' rfl, Json.solid_of_digit digit⟩
  | string text => exact ⟨_, _, rfl, by decide, rfl⟩
  | array items => exact ⟨_, _, rfl, by decide, rfl⟩
  | object members => exact ⟨_, _, rfl, by decide, rfl⟩

/-- A payload other than null is read as a value. -/
theorem readPayload_eq {payload : Json} (proper : payload.IsProper) (some : payload ≠ .null)
    (level : Nat) :
    readOptional (fun rest => lift (Json.readValue depth rest))
        (' ' :: (prettyChars level payload ++ rest)) =
      withValue (lift (Json.readValue depth (prettyChars level payload ++ rest))) Option.some := by
  obtain ⟨first, more, starts, letter, solid⟩ := prettyChars_head proper some level
  have skipped : skipBlanks (' ' :: (prettyChars level payload ++ rest)) =
      prettyChars level payload ++ rest := by
    change skipBlanks (prettyChars level payload ++ rest) = _
    rw [starts, List.cons_append, Json.skipBlanks_cons solid]
  unfold readOptional
  rw [skipped, starts]
  split
  case h_1 none => simp at none
  case h_2 null => exact absurd (List.cons.inj null).1 letter
  case h_3 => rfl

theorem keptPayload_of_ne {payload : Option Json} (some : payload ≠ some .null) :
    keptPayload payload = payload := by
  unfold keptPayload
  split
  · exact absurd rfl some
  · rfl

theorem readPayload_text {payload : Json} (readable : payload.IsReadable depth)
    (ends : EndsNumber rest) (level : Nat) :
    readOptional (fun rest => lift (Json.readValue depth rest))
        (' ' :: (prettyChars level payload ++ rest)) =
      .ok (rereadPayload (some payload), rest) := by
  by_cases null : payload = .null
  · subst null
    rfl
  · have read : Json.readValue depth (prettyChars level payload ++ rest) =
        .ok (payload.mapNumbers Json.reread, rest) :=
      Json.reads_prettyChars readable.toFits readable.converts level _ rest
        (by rw [List.length_append]; omega) ends
    rw [readPayload_eq readable.proper null, read, rereadPayload,
      keptPayload_of_ne fun same => null (Option.some.inj same)]
    rfl

theorem readPayload_stops {payload : Json} (proper : payload.IsProper)
    (unread : ¬payload.IsReadable depth) (ends : EndsNumber rest) (level : Nat) :
    ∃ stop, readOptional (fun rest => lift (Json.readValue depth rest))
        (' ' :: (prettyChars level payload ++ rest)) = .error stop := by
  have some : payload ≠ .null := by
    rintro rfl
    exact unread ⟨⟨.null, Nat.zero_le depth⟩, List.forall_mem_nil _⟩
  obtain ⟨stop, stops⟩ := Json.stops_in_prettyChars proper unread level
    (2 * (prettyChars level payload ++ rest).length + 2) rest (by rw [List.length_append]; omega)
    ends
  refine ⟨liftStop stop, ?_⟩
  rw [readPayload_eq proper some, Json.readValue, stops]
  rfl

/-! ## The members of an action -/

variable {fuel : Nat} {isFirst : Bool} {members next : Members} {key : String}
  {characters text : List Char}

theorem readMember_kind (depth : Nat) (members : Members) (text : List Char) :
    readMember depth members "kind" (':' :: text) =
      withValue (readKind depth text) fun kind => { members with kind := some kind } := rfl

theorem readMember_target (depth : Nat) (members : Members) (text : List Char) :
    readMember depth members "target" (':' :: text) =
      withValue (readOptional readTarget text)
        fun target => { members with target := some target } := rfl

theorem readMember_payload (depth : Nat) (members : Members) (text : List Char) :
    readMember depth members "payload" (':' :: text) =
      withValue (readOptional (fun rest => lift (Json.readValue depth rest)) text)
        fun payload => { members with payload := some payload } := rfl

/-- Behind a key that is new, the member is read and then the others. -/
theorem readMembers_next
    (found : Json.nextKey isFirst characters =
      .ok (.more (key.toList.flatMap escapedChar ++ '"' :: ':' :: text)))
    (new : members.has key = false) :
    readMembers depth (fuel + 1) isFirst members characters =
      match readMember depth members key (':' :: text) with
      | .error stop => .error stop
      | .ok (next, rest) => readMembers depth fuel false next rest := by
  rw [readMembers, found]
  dsimp only
  rw [Json.readString_quoted]
  dsimp only [lift]
  rewrite [new, if_neg Bool.false_ne_true]
  rfl

/-- The text of members in the indentation of an action, up to its closing brace. -/
def membersTail (members : List (String × Json)) : List Char :=
  tailText (lineStart 2) (lineStart 1) '\x7d' (members.map (prettyMember 2))

theorem nextKey_membersTail (member : String × Json) (others : List (String × Json))
    (rest : List Char) :
    Json.nextKey false (membersTail (member :: others) ++ rest) =
      .ok (.more (member.1.toList.flatMap escapedChar ++ '"' :: ':' ::
        (' ' :: (prettyChars 2 member.2 ++ (membersTail others ++ rest))))) :=
  Json.nextKey_tail (Json.allBlank_lineStart 2) _ _ _

theorem nextKey_membersTail_nil (rest : List Char) :
    Json.nextKey false (membersTail [] ++ rest) = .ok (.closed rest) :=
  Json.nextKey_closed false (Json.skipBlanks_after (Json.allBlank_lineStart 1) rfl)

theorem membersTail_endsNumber (members : List (String × Json)) (rest : List Char) :
    EndsNumber (membersTail members ++ rest) :=
  Json.tailText_endsNumber _ _ (Json.allBlank_lineStart 1) (by decide) _ _

theorem readMembers_closed {kind : ActionKind} (known : members.kind = some kind) :
    readMembers depth (fuel + 1) false members (membersTail [] ++ rest) =
      .ok (⟨kind, members.target.getD none, members.payload.getD none⟩, rest) := by
  rw [readMembers, nextKey_membersTail_nil]
  simp [ofMembers?, known]

theorem readMembers_payload {payload : Option Json}
    (readable : ∀ value ∈ payload, value.IsReadable depth) (noPayload : members.payload = none)
    {kind : ActionKind} (known : members.kind = some kind) :
    readMembers depth (fuel + 2) false members (membersTail (payloadMembers payload) ++ rest) =
      .ok (⟨kind, members.target.getD none, rereadPayload payload⟩, rest) := by
  cases payload with
  | none =>
      change readMembers depth (fuel + 2) false members (membersTail [] ++ rest) = _
      rw [readMembers_closed known, noPayload]
      rfl
  | some payload =>
      change readMembers depth (fuel + 2) false members
        (membersTail [("payload", payload)] ++ rest) = _
      rw [readMembers_next (nextKey_membersTail ("payload", payload) [] rest)
          (by simp [Members.has, noPayload]),
        readMember_payload, readPayload_text (readable payload rfl)
          (membersTail_endsNumber [] rest) 2]
      exact readMembers_closed known

theorem readMembers_payload_stops {payload : Json} (proper : payload.IsProper)
    (unread : ¬payload.IsReadable depth) (noPayload : members.payload = none) :
    ∃ stop, readMembers depth (fuel + 2) false members
      (membersTail (payloadMembers (some payload)) ++ rest) = .error stop := by
  obtain ⟨stop, stops⟩ := readPayload_stops proper unread (membersTail_endsNumber [] rest) 2
  refine ⟨stop, (readMembers_next (nextKey_membersTail ("payload", payload) [] rest)
    (by simp [Members.has, noPayload])).trans ?_⟩
  rw [readMember_payload, stops]
  rfl

/-- Behind the kind of an action, its target is read if there is one. -/
theorem readMembers_target (depth fuel : Nat) (rest : List Char) (target : Option String)
    (payload : Option Json) (kind : ActionKind) :
    ∃ less, readMembers depth (fuel + 3) false { kind := some kind }
        (membersTail (targetMembers target ++ payloadMembers payload) ++ rest) =
      readMembers depth (less + 2) false { kind := some kind, target := target.map some }
        (membersTail (payloadMembers payload) ++ rest) := by
  cases target with
  | none => exact ⟨fuel + 1, rfl⟩
  | some target =>
      refine ⟨fuel, (readMembers_next
        (nextKey_membersTail ("target", .string target) (payloadMembers payload) rest) rfl).trans
          ?_⟩
      have read : readOptional readTarget (' ' :: (prettyChars 2 (.string target) ++
          (membersTail (payloadMembers payload) ++ rest))) =
          .ok (some target, membersTail (payloadMembers payload) ++ rest) :=
        readTarget_text target
      rw [readMember_target, read]
      rfl

/-- The text of an action behind its opening brace. -/
def actionBody (action : RecordedAction) : List Char :=
  bodyText (lineStart 2) (lineStart 1) '\x7d'
    ((quoted "kind" ++ ':' :: ' ' :: quoted action.kind.name) ::
      (targetMembers action.target ++ payloadMembers action.payload).map (prettyMember 2))

theorem prettyChars_toJson (action : RecordedAction) :
    prettyChars 1 action.toJson = '\x7b' :: actionBody action := by
  rw [toJson_eq, prettyChars, Json.prettyMembers_eq]
  rfl

theorem nextKey_actionBody (action : RecordedAction) (rest : List Char) :
    Json.nextKey true (actionBody action ++ rest) =
      .ok (.more ("kind".toList.flatMap escapedChar ++ '"' :: ':' :: ' ' ::
        (quoted action.kind.name ++
          (membersTail (targetMembers action.target ++ payloadMembers action.payload) ++ rest)))) :=
  Json.nextKey_body (Json.allBlank_lineStart 2) _ _ _

/-- The text of an action is read up to its payload. -/
theorem read_toJson (depth : Nat) (action : RecordedAction) (rest : List Char) :
    ∃ less, read depth (prettyChars 1 action.toJson ++ rest) =
      readMembers (depth - 1) (less + 2) false
        { kind := some action.kind, target := action.target.map some }
        (membersTail (payloadMembers action.payload) ++ rest) := by
  obtain ⟨fuel, enough⟩ : ∃ less, (actionBody action ++ rest).length = less + 3 := by
    refine ⟨_, (Nat.sub_add_cancel ?_).symm⟩
    simp [actionBody, bodyText, quoted]
    omega
  have opened (characters : List Char) : read depth ('\x7b' :: characters) =
      readMembers (depth - 1) (characters.length + 1) true {} characters := rfl
  obtain ⟨less, same⟩ :=
    readMembers_target (depth - 1) fuel rest action.target action.payload action.kind
  refine ⟨less, ?_⟩
  rw [prettyChars_toJson, List.cons_append, opened, enough, ← same]
  refine (readMembers_next (nextKey_actionBody action rest) rfl).trans ?_
  rw [readMember_kind, readKind_text]
  rfl

theorem read_text {action : RecordedAction}
    (readable : ∀ payload ∈ action.payload, payload.IsReadable (depth - 1)) (rest : List Char) :
    read depth (prettyChars 1 action.toJson ++ rest) = .ok (action.reloaded, rest) := by
  obtain ⟨less, same⟩ := read_toJson depth action rest
  rw [same, readMembers_payload readable rfl rfl]
  cases action with
  | mk kind target payload => cases target <;> rfl

theorem read_stops {action : RecordedAction} {payload : Json}
    (carried : action.payload = some payload) (proper : payload.IsProper)
    (unread : ¬payload.IsReadable (depth - 1)) (rest : List Char) :
    ∃ stop, read depth (prettyChars 1 action.toJson ++ rest) = .error stop := by
  obtain ⟨less, same⟩ := read_toJson depth action rest
  rw [same, carried]
  exact readMembers_payload_stops proper unread rfl

/-! ## Lists of actions -/

theorem readItems_next {before : List RecordedAction}
    (found : Json.nextItem isFirst characters = .ok (.more text)) :
    readItems depth (fuel + 1) isFirst before characters =
      match read depth text with
      | .error stop => .error stop
      | .ok (action, rest) => readItems depth fuel false (action :: before) rest := by
  rewrite [readItems, found]
  rfl

/-- The text of actions behind one of a list. -/
def actionsTail (actions : List RecordedAction) : List Char :=
  tailText (lineStart 1) (lineStart 0) ']' (actions.map fun action => prettyChars 1 action.toJson)

theorem skipBlanks_toJson (action : RecordedAction) (rest : List Char) :
    skipBlanks (prettyChars 1 action.toJson ++ rest) = '\x7b' :: (actionBody action ++ rest) := by
  rw [prettyChars_toJson, List.cons_append, Json.skipBlanks_cons rfl]

theorem nextItem_actionsTail (action : RecordedAction) (actions : List RecordedAction)
    (rest : List Char) :
    Json.nextItem false (actionsTail (action :: actions) ++ rest) =
      .ok (.more (prettyChars 1 action.toJson ++ (actionsTail actions ++ rest))) := by
  rw [prettyChars_toJson, List.cons_append]
  exact Json.nextItem_tail (Json.allBlank_lineStart 1) _ (skipBlanks_toJson action _) (by decide)

theorem nextItem_actionsTail_nil (rest : List Char) :
    Json.nextItem false (actionsTail [] ++ rest) = .ok (.closed rest) :=
  Json.nextItem_closed false (Json.skipBlanks_after (Json.allBlank_lineStart 0) rfl)

theorem readItems_actionsTail {before actions : List RecordedAction}
    (readable : ∀ action ∈ actions, ∀ payload ∈ action.payload, payload.IsReadable (depth - 1))
    (enough : actions.length < fuel) (rest : List Char) :
    readItems depth fuel false before (actionsTail actions ++ rest) =
      .ok (before.reverse ++ actions.map reloaded, rest) := by
  induction actions generalizing before fuel with
  | nil =>
      obtain ⟨fuel, rfl⟩ := Nat.exists_eq_add_of_lt enough
      rw [readItems, nextItem_actionsTail_nil, List.map_nil, List.append_nil]
  | cons action actions ih =>
      obtain ⟨fuel, rfl⟩ := Nat.exists_eq_add_of_lt enough
      obtain ⟨first, others⟩ := List.forall_mem_cons.mp readable
      rw [readItems_next (nextItem_actionsTail action actions rest), read_text first]
      dsimp only
      rw [ih others (by simp at enough ⊢; omega), List.reverse_cons, List.map_cons,
        List.append_assoc, List.singleton_append]

theorem readItems_actionsTail_stops {before actions : List RecordedAction}
    (proper : ∀ action ∈ actions, ∀ payload ∈ action.payload, payload.IsProper)
    (unread : ∃ action ∈ actions, ∃ payload ∈ action.payload, ¬payload.IsReadable (depth - 1))
    (enough : actions.length < fuel) (rest : List Char) :
    ∃ stop, readItems depth fuel false before (actionsTail actions ++ rest) = .error stop := by
  induction actions generalizing before fuel with
  | nil => simp at unread
  | cons action actions ih =>
      obtain ⟨fuel, rfl⟩ := Nat.exists_eq_add_of_lt enough
      obtain ⟨first, others⟩ := List.forall_mem_cons.mp proper
      rw [readItems_next (nextItem_actionsTail action actions rest)]
      by_cases readable : ∀ payload ∈ action.payload, payload.IsReadable (depth - 1)
      · rw [read_text readable]
        refine ih others ?_ (by simp at enough ⊢; omega)
        obtain ⟨lost, listed, payload, carried, unread⟩ := unread
        rcases List.mem_cons.mp listed with rfl | later
        · exact absurd (readable payload carried) unread
        · exact ⟨lost, later, payload, carried, unread⟩
      · push Not at readable
        obtain ⟨payload, carried, unread⟩ := readable
        obtain ⟨stop, stops⟩ := read_stops carried (first payload carried) unread
          (actionsTail actions ++ rest)
        rw [stops]
        exact ⟨stop, rfl⟩

/-- The text of a list of actions behind its opening bracket. -/
def actionsBody (actions : List RecordedAction) : List Char :=
  bodyText (lineStart 1) (lineStart 0) ']' (actions.map fun action => prettyChars 1 action.toJson)

/-- Nothing depends on whether actions stand at the front of a list. -/
theorem readItems_actionsBody (actions before : List RecordedAction) (rest : List Char) :
    readItems depth (fuel + 1) true before (actionsBody actions ++ rest) =
      readItems depth (fuel + 1) false before (actionsTail actions ++ rest) := by
  have same : Json.nextItem true (actionsBody actions ++ rest) =
      Json.nextItem false (actionsTail actions ++ rest) := by
    cases actions with
    | nil => rw [nextItem_actionsTail_nil, actionsBody, List.map_nil, bodyText]; rfl
    | cons action actions =>
        rw [nextItem_actionsTail, prettyChars_toJson, List.cons_append]
        exact Json.nextItem_body (Json.allBlank_lineStart 1) _ (skipBlanks_toJson action _)
          (by decide)
  rw [readItems, readItems, same]

theorem prettyList_toList (actions : List RecordedAction) :
    (prettyList actions).toList = '[' :: actionsBody actions := by
  rw [prettyList, Json.pretty, String.toList_ofList, prettyChars, Json.prettyItems_eq,
    List.map_map]
  rfl

theorem readList_prettyList (depth : Nat) (actions : List RecordedAction) :
    ∃ fuel, actions.length < fuel ∧
      readList depth (prettyList actions).toList =
        readItems (depth - 1) fuel false [] (actionsTail actions ++ []) := by
  refine ⟨(actionsBody actions).length + 1, ?_, ?_⟩
  · have := Json.length_le_bodyText (lineStart 1) (lineStart 0) ']'
      (actions.map fun action => prettyChars 1 action.toJson)
    rw [List.length_map] at this
    exact Nat.lt_succ_of_le this
  · rw [prettyList_toList, ← readItems_actionsBody, List.append_nil]
    rfl

/-- How many containers may be nested in the payload of an action that is read from a list. -/
def payloadLimit : Nat := Json.depthLimit - 2

/-- A list of actions whose payloads are readable is read from its text. -/
theorem parseList_prettyList {actions : List RecordedAction}
    (readable : ∀ action ∈ actions, ∀ payload ∈ action.payload,
      payload.IsReadable payloadLimit) :
    parseList (prettyList actions) = .ok (actions.map reloaded) := by
  obtain ⟨fuel, enough, same⟩ := readList_prettyList Json.depthLimit actions
  have read : readItems (Json.depthLimit - 1) fuel false [] (actionsTail actions ++ []) =
      .ok (actions.map reloaded, []) :=
    readItems_actionsTail readable enough []
  unfold parseList parseWith
  rw [same, read]
  rfl

theorem parseList_prettyList_error {actions : List RecordedAction}
    (proper : ∀ action ∈ actions, ∀ payload ∈ action.payload, payload.IsProper)
    (unread : ∃ action ∈ actions, ∃ payload ∈ action.payload,
      ¬payload.IsReadable payloadLimit) :
    ∃ error, parseList (prettyList actions) = .error error := by
  obtain ⟨fuel, enough, same⟩ := readList_prettyList Json.depthLimit actions
  obtain ⟨stop, stops⟩ : ∃ stop, readItems (Json.depthLimit - 1) fuel false []
      (actionsTail actions ++ []) = .error stop :=
    readItems_actionsTail_stops proper unread enough []
  unfold parseList parseWith
  rw [same, stops]
  exact ⟨_, rfl⟩

/-! ## What is read -/

/-- A payload as it is read: it is not null, and no deeper than the reader allows. -/
def IsKept (depth : Nat) (payload : Option Json) : Prop :=
  ∀ value ∈ payload, value ≠ .null ∧ value.Fits depth

theorem isKept_none : IsKept depth none := fun _ carried => nomatch carried

theorem lift_eq_ok {α : Type} {reading : Reading Json.ReadFault α} {read : α × List Char}
    (lifted : lift reading = .ok read) : reading = .ok read := by
  cases reading with
  | error stop => simp [lift] at lifted
  | ok found => exact congrArg Except.ok (Except.ok.inj lifted)

theorem isKept_of_readOptional {payload : Option Json}
    (read : readOptional (fun rest => lift (Json.readValue depth rest)) characters =
      .ok (payload, rest)) : IsKept depth payload := by
  unfold readOptional at read
  split at read
  · simp [stopAtNext] at read
  · obtain ⟨_, -, rfl⟩ := Json.withValue_eq_ok read
    exact isKept_none
  case h_3 noNull =>
    obtain ⟨value, inner, rfl⟩ := Json.withValue_eq_ok read
    have inner := lift_eq_ok inner
    rintro _ ⟨rfl⟩
    refine ⟨?_, Json.fits_of_readValue inner⟩
    rintro rfl
    obtain ⟨more, start⟩ := Json.start_of_null inner
    rw [Json.skipBlanks_idem] at start
    exact noNull more start

theorem isKept_of_readMember (kept : ∀ payload ∈ members.payload, IsKept depth payload)
    (read : readMember depth members key characters = .ok (next, rest)) :
    ∀ payload ∈ next.payload, IsKept depth payload := by
  unfold readMember at read
  split at read
  · simp at read
  · split at read
    · obtain ⟨_, -, rfl⟩ := Json.withValue_eq_ok read
      exact kept
    · split at read
      · obtain ⟨_, -, rfl⟩ := Json.withValue_eq_ok read
        exact kept
      · split at read
        · obtain ⟨payload, inner, rfl⟩ := Json.withValue_eq_ok read
          rintro _ ⟨rfl⟩
          exact isKept_of_readOptional inner
        · obtain ⟨_, -, rfl⟩ := Json.withValue_eq_ok read
          exact kept

theorem isKept_getD {payload : Option (Option Json)}
    (kept : ∀ value ∈ payload, IsKept depth value) : IsKept depth (payload.getD none) := by
  cases payload with
  | none => exact isKept_none
  | some payload => exact kept payload rfl

theorem isKept_of_readMembers {action : RecordedAction}
    (kept : ∀ payload ∈ members.payload, IsKept depth payload)
    (read : readMembers depth fuel isFirst members characters = .ok (action, rest)) :
    IsKept depth action.payload := by
  induction fuel generalizing isFirst members characters with
  | zero => simp [readMembers, stopAtNext] at read
  | succ fuel ih =>
      unfold readMembers at read
      split at read
      · simp at read
      · split at read
        case h_1 whole =>
          obtain ⟨rfl, -⟩ := Prod.mk.inj (Except.ok.inj read)
          obtain ⟨kind, -, rfl⟩ := Option.map_eq_some_iff.mp whole
          exact isKept_getD kept
        case h_2 => simp [stopHere] at read
      · split at read
        · simp at read
        · split at read
          · simp [stopHere] at read
          · split at read
            · simp at read
            case h_2 member => exact ih (isKept_of_readMember kept member) read

theorem readPart_eq_some {α : Type} {read : List Char → Reading ActionFault α} {part : α}
    (found : readPart isFirst read characters = .ok (some part, rest)) :
    ∃ text, read text = .ok (part, rest) := by
  unfold readPart at found
  split at found
  · simp at found
  · simp at found
  · obtain ⟨_, inner, same⟩ := Json.withValue_eq_ok found
    obtain rfl := Option.some.inj same
    exact ⟨_, inner⟩

theorem isKept_of_readParts {action : RecordedAction}
    (read : readParts depth characters = .ok (action, rest)) : IsKept depth action.payload := by
  unfold readParts at read
  split at read
  · simp at read
  · simp [stopHere] at read
  · split at read
    · simp at read
    · split at read
      · simp at read
      case h_2 payload _ part =>
        split at read
        · simp at read
        · obtain ⟨rfl, -⟩ := Prod.mk.inj (Except.ok.inj read)
          refine isKept_getD ?_
          rintro kept ⟨rfl⟩
          obtain ⟨text, inner⟩ := readPart_eq_some part
          exact isKept_of_readOptional inner
        · simp [stopAtNext] at read

theorem wrongType_ne_ok {α : Type} {expected : String} {read : α × List Char} :
    wrongType expected characters ≠ .ok read := by
  unfold wrongType
  split
  · simp [stopHere]
  · simp [stopHere]
  · split <;> simp [stopHere]

theorem isKept_of_read {action : RecordedAction}
    (read : read depth characters = .ok (action, rest)) : IsKept (depth - 1) action.payload := by
  unfold RecordedAction.read at read
  split at read
  · simp [stopAtNext] at read
  · exact isKept_of_readMembers (fun _ carried => by simp at carried) read
  · exact isKept_of_readParts read
  · exact absurd read wrongType_ne_ok

theorem isKept_of_readItems {before actions : List RecordedAction}
    (kept : ∀ action ∈ before, IsKept (depth - 1) action.payload)
    (read : readItems depth fuel isFirst before characters = .ok (actions, rest)) :
    ∀ action ∈ actions, IsKept (depth - 1) action.payload := by
  induction fuel generalizing isFirst before characters with
  | zero => simp [readItems, stopAtNext] at read
  | succ fuel ih =>
      unfold readItems at read
      split at read
      · simp at read
      · obtain ⟨rfl, -⟩ := Prod.mk.inj (Except.ok.inj read)
        exact fun action listed => kept action (List.mem_reverse.mp listed)
      · split at read
        · simp at read
        case h_2 found => exact ih (List.forall_mem_cons.mpr ⟨isKept_of_read found, kept⟩) read

/-- The payloads of the actions in a list are kept when the list is written and read again. -/
theorem isKept_of_parseList {text : String} {actions : List RecordedAction}
    (parsed : parseList text = .ok actions) :
    ∀ action ∈ actions, IsKept payloadLimit action.payload := by
  unfold parseList parseWith at parsed
  dsimp only at parsed
  split at parsed
  · simp at parsed
  case h_2 result =>
    obtain rfl := Except.ok.inj parsed
    split at result
    · simp at result
    case h_2 read =>
      unfold Json.readEnd at result
      split at result
      · obtain rfl := Except.ok.inj result
        unfold readList at read
        split at read
        · simp [stopAtNext] at read
        · exact isKept_of_readItems (List.forall_mem_nil _) read
        · exact absurd read wrongType_ne_ok
      · simp at result

end BrowserRelay.RecordedAction
