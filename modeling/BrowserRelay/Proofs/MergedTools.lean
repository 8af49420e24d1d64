import BrowserRelay.Proofs.History
import BrowserRelay.Proofs.ReadBack
import BrowserRelay.Proofs.Replies
import Mathlib.Logic.Function.Iterate

/-!
# The relay's own tool in the lists of the service

In a response that lists tools, the list is the only thing that becomes different: the tools with
the name of the relay's own one are left out of it, and that one stands at its end.  Adding it
again changes nothing.  The client is sent every list that it asked for in this way.
-/

namespace BrowserRelay

/-! ## Members that are replaced -/

namespace Json

/-- The value at a path of keys is replaced, and everything else is kept in its place. -/
def replaceAt (value : Json) : List String → Json → Json
  | [], replacement => replacement
  | key :: path, replacement =>
      match value with
      | .object members =>
          .object (members.map fun member =>
            if member.1 = key then (key, member.2.replaceAt path replacement) else member)
      | other => other

variable {members : List (String × Json)} {key : String} {value held : Json}

theorem insertMember_insertMember (key : String) (earlier later : Json)
    (members : List (String × Json)) :
    insertMember key later (insertMember key earlier members) = insertMember key later members := by
  induction members with
  | nil => simp [insertMember]
  | cons first members ih =>
      obtain ⟨name, other⟩ := first
      by_cases before : key < name
      · simp [insertMember, before]
      · by_cases own : key = name
        · simp [insertMember, own]
        · simp [insertMember, before, own, ih]

/-- The value of a member that is there already is replaced in its place. -/
theorem insertMember_eq_map (change : Json → Json)
    (sorted : members.Pairwise fun first second => first.1 < second.1)
    (found : members.lookup key = some held) :
    insertMember key (change held) members =
      members.map fun member => if member.1 = key then (key, change member.2) else member := by
  induction members with
  | nil => simp at found
  | cons first members ih =>
      obtain ⟨name, other⟩ := first
      obtain ⟨least, rest⟩ := List.pairwise_cons.mp sorted
      rw [lookup_cons_eq] at found
      by_cases own : key = name
      · -- The keys behind this one are greater, so that no other member is replaced.
        subst own
        obtain rfl := Option.some.inj ((if_pos rfl).symm.trans found)
        have others : ∀ member ∈ members,
            (if member.1 = key then (key, change member.2) else member) = member :=
          fun member listed => if_neg (String.ne_of_lt (least member listed)).symm
        simp [insertMember, List.map_congr_left others]
      · rw [if_neg own] at found
        obtain ⟨_, _, listed, _⟩ := List.lookup_eq_some_iff.mp found
        have before : name < key := least (key, held) (by simp [listed])
        simp [insertMember, String.lt_asymm before, own, Ne.symm own, ih rest found]

theorem get?_set (found : value.get? key = some held) (member : Json) :
    (value.set key member).get? key = some member := by
  cases value with
  | object members => exact (lookup_insertMember key key member members).trans (if_pos rfl)
  | _ => simp [get?] at found

theorem set_set (value : Json) (key : String) (earlier later : Json) :
    (value.set key earlier).set key later = value.set key later := by
  cases value with
  | object members =>
      exact congrArg Json.object (insertMember_insertMember key earlier later members)
  | _ => rfl

theorem replaceAt_cons (proper : value.IsProper) (found : value.get? key = some held)
    (path : List String) (replacement : Json) :
    value.replaceAt (key :: path) replacement =
      value.set key (held.replaceAt path replacement) := by
  cases proper with
  | object sorted =>
      exact congrArg Json.object
        (insertMember_eq_map (fun held => held.replaceAt path replacement) sorted found).symm
  | _ => simp [get?] at found

end Json

/-! ## Lists with the tool -/

namespace ToolList

variable {response tool : Json} {tools : List Json} {name : String}

theorem toolName?_localTool (name description : String) :
    toolName? (localTool name description) = some name := by
  simp [toolName?, localTool, Json.get?_ofMembers, List.lookup_cons, Json.asString?]

theorem addTool_eq (named : toolName? tool = some name) (tools : List Json) :
    addTool tools tool = tools.filter (fun other => toolName? other ≠ some name) ++ [tool] := by
  simp only [addTool, named, Option.getD_some]

/-- One tool has the name of the one that was added. -/
theorem filter_addTool (named : toolName? tool = some name) (tools : List Json) :
    (addTool tools tool).filter (fun other => toolName? other = some name) = [tool] := by
  simp [addTool_eq named, List.filter_append, List.filter_filter, named]

theorem addTool_addTool (named : toolName? tool = some name) (tools : List Json) :
    addTool (addTool tools tool) tool = addTool tools tool := by
  simp [addTool_eq named, List.filter_append, List.filter_filter, named]

theorem listed?_eq_some_iff :
    listed? response = some tools ↔
      ∃ result, response.get? "result" = some result ∧
        result.get? "tools" = some (.array tools) := by
  have isArray (value : Json) : value.asArray? = some tools ↔ value = .array tools := by
    cases value <;> simp [Json.asArray?]
  simp [listed?, Option.bind_eq_some_iff, isArray]

theorem merge_of_unlisted (unlisted : listed? response = none) (tool : Json) :
    merge response tool = response := by
  simp [merge, unlisted]

theorem merge_of_listed {result : Json} (isResult : response.get? "result" = some result)
    (isTools : result.get? "tools" = some (.array tools)) (tool : Json) :
    merge response tool =
      response.set "result" (result.set "tools" (.array (addTool tools tool))) := by
  simp only [merge, isResult, listed?_eq_some_iff.mpr ⟨result, isResult, isTools⟩]

theorem listed?_merge (listed : listed? response = some tools) (tool : Json) :
    listed? (merge response tool) = some (addTool tools tool) := by
  obtain ⟨result, isResult, isTools⟩ := listed?_eq_some_iff.mp listed
  rw [merge_of_listed isResult isTools, listed?_eq_some_iff]
  exact ⟨_, Json.get?_set isResult _, Json.get?_set isTools _⟩

/-- Nothing but the list becomes different. -/
theorem merge_eq_replaceAt (proper : response.IsProper) (listed : listed? response = some tools)
    (tool : Json) :
    merge response tool = response.replaceAt ["result", "tools"] (.array (addTool tools tool)) := by
  obtain ⟨result, isResult, isTools⟩ := listed?_eq_some_iff.mp listed
  rw [merge_of_listed isResult isTools, Json.replaceAt_cons proper isResult,
    Json.replaceAt_cons (Json.proper_of_get? proper isResult) isTools]
  rfl

theorem merge_merge (named : toolName? tool = some name) (response : Json) :
    merge (merge response tool) tool = merge response tool := by
  cases listed : listed? response with
  | none => rw [merge_of_unlisted listed, merge_of_unlisted listed]
  | some tools =>
      obtain ⟨result, isResult, isTools⟩ := listed?_eq_some_iff.mp listed
      rw [merge_of_listed isResult isTools,
        merge_of_listed (Json.get?_set isResult _) (Json.get?_set isTools _),
        Json.set_set, Json.set_set, addTool_addTool named]

theorem merge_iterate (named : toolName? tool = some name) (response : Json) (times : Nat) :
    (fun response => merge response tool)^[times + 1] response = merge response tool :=
  Function.iterate_fixed (merge_merge named response) times

end ToolList

/-! ## Lists that the client is sent -/

namespace Gateway

variable {setup : Setup} {gateway : Gateway}

theorem responsePlan_of_list {message : ClientMessage}
    (isList : message.method = some "tools/list") : responsePlan message = .mergeTools := by
  simp [responsePlan, ClientMessage.methodName, isList]

/-- A pending call is responded to only where a response to it arrives. -/
theorem arrival?_of_responded {step : Step} {id : RequestId} {message : ServiceMessage}
    (happened : gateway.happening? setup step = some (.responded id message)) :
    ∃ raw, gateway.arrival? setup step = some (.response ⟨id, message, raw⟩) := by
  unfold happening? at happened
  split at happened
  · split at happened <;> simp at happened
  case h_2 response arrived =>
    split at happened
    case isTrue =>
      obtain ⟨rfl, rfl⟩ := Happening.responded.inj (Option.some.inj happened)
      exact ⟨response.raw, arrived⟩
    case isFalse => simp at happened
  · split at happened <;> simp at happened

theorem parse_of_arrival {generation : Nat} {line : String} {response : Response}
    (arrived : gateway.arrival? setup (.event (.serviceOutput generation line)) =
      some (.response response)) :
    ServiceMessage.parse line = .ok response.message := by
  rw [arrival?, presentResponse?] at arrived
  split at arrived
  case isTrue =>
    obtain ⟨read, isRead, same⟩ := Option.map_eq_some_iff.mp arrived
    obtain rfl := Arrival.response.inj same
    obtain ⟨⟨id, message⟩, isResponse, taken⟩ := Option.bind_eq_some_iff.mp isRead
    dsimp only at taken
    split at taken
    case isTrue => simp at taken
    case isFalse =>
      obtain rfl := Option.some.inj taken
      exact (ServiceMessage.response?_eq_some_iff.mp isResponse).1
  case isFalse => simp at arrived

theorem proper_of_parse {line : String} {message : ServiceMessage}
    (parsed : ServiceMessage.parse line = .ok message) : message.value.IsProper := by
  unfold ServiceMessage.parse at parsed
  split at parsed
  · simp at parsed
  case h_2 members read =>
    obtain rfl := Except.ok.inj parsed
    exact (Json.fits_of_parse read).proper
  · simp at parsed

/-- The client is sent the response to a pending call as the plan of the call says. -/
theorem sent_of_responded {step : Step} {id : RequestId} {message : ServiceMessage}
    {call : PendingCall} (settled : gateway.traffic.IsSettled)
    (happened : gateway.happening? setup step = some (.responded id message))
    (found : CallTable.find? gateway.pending id = some call) :
    ∃ raw, let text := responseText setup call.plan message raw
      (gateway.step setup step).ledger = gateway.ledger ++ [.answered id (.response text)] ∧
        (gateway.step setup step).outside.replies = (gateway.outside.reply text).replies := by
  obtain ⟨raw, arrived⟩ := arrival?_of_responded happened
  have passage := (passage_step setup gateway step settled).1
  rw [arrived] at passage
  rcases passage.response_cases with ⟨other, isOther, after⟩ | ⟨missing, -⟩
  · obtain rfl := Option.some.inj (isOther.symm.trans found)
    have grows : (gateway.step setup step).ledger = gateway.ledger ++
        [.answered id (.response (responseText setup other.plan message raw))] :=
      congrArg Traffic.ledger after
    exact ⟨raw, grows, replies_step grows⟩
  · exact absurd (missing.symm.trans found) (by simp)

/-- The message of the client that a response is to is the last one with its identifier. -/
theorem asked_of_responded (setup : Setup) (outside : Outside) (steps : List Step) {step : Step}
    {id : RequestId} {message : ServiceMessage}
    (happened : (after setup outside steps).happening? setup step =
      some (.responded id message)) :
    ∃ asked call,
      ((history setup outside steps).filterMap Happening.message?).find?
          (fun earlier => earlier.answerId = some id) = some asked ∧
        CallTable.find? (after setup outside steps).pending id = some call ∧
        call.plan = responsePlan asked := by
  obtain ⟨call, found⟩ := exists_call_of_responded happened
  obtain ⟨pending, rfl⟩ := CallTable.mem_of_find? found
  obtain ⟨asked, isLast, planned⟩ :=
    Option.map_eq_some_iff.mp (plan?_of_pending setup outside steps pending)
  exact ⟨asked, call, isLast, found, planned.symm⟩

end Gateway

/-- In every list of tools the relay's own tool takes the place of those of its name, at the end,
and nothing else becomes different, however often it is added.  When the process responds to a
call for the tools, the client is sent the response with the tool in its list. -/
theorem own_tool_is_listed_once :
    (∀ (response tool : Json) (name : String), response.IsProper →
      ToolList.toolName? tool = some name →
        (∀ tools, ToolList.listed? response = some tools →
          let merged := tools.filter (fun other => ToolList.toolName? other ≠ some name) ++ [tool]
          ToolList.merge response tool =
              response.replaceAt ["result", "tools"] (.array merged) ∧
            ToolList.listed? (ToolList.merge response tool) = some merged ∧
            merged.filter (fun other => ToolList.toolName? other = some name) = [tool]) ∧
        (ToolList.listed? response = none → ToolList.merge response tool = response) ∧
        ∀ times, (fun response => ToolList.merge response tool)^[times + 1] response =
          ToolList.merge response tool) ∧
    ∀ (setup : Setup) (outside : Outside) (steps : List Step) (generation : Nat) (line : String)
      (id : RequestId) (message : ServiceMessage),
      let gateway := Gateway.after setup outside steps
      let step := Step.event (.serviceOutput generation line)
      gateway.happening? setup step = some (.responded id message) →
        ServiceMessage.parse line = .ok message ∧ message.value.IsProper ∧
          ∃ asked,
            ((Gateway.history setup outside steps).filterMap Happening.message?).find?
                (fun earlier => earlier.answerId = some id) = some asked ∧
              (asked.method = some "tools/list" →
                let tool := ToolList.localTool setup.settings.tool.name
                  setup.settings.tool.description
                let text := (ToolList.merge message.value tool).compact
                ToolList.toolName? tool = some setup.settings.tool.name ∧
                  (gateway.step setup step).ledger =
                    gateway.ledger ++ [.answered id (.response text)] ∧
                  (gateway.step setup step).outside.replies =
                    (gateway.outside.reply text).replies) := by
  constructor
  · intro response tool name proper named
    refine ⟨fun tools listed => ?_, fun unlisted => ToolList.merge_of_unlisted unlisted tool,
      ToolList.merge_iterate named response⟩
    have merged := ToolList.addTool_eq named tools
    dsimp only
    rw [← merged]
    exact ⟨ToolList.merge_eq_replaceAt proper listed tool, ToolList.listed?_merge listed tool,
      ToolList.filter_addTool named tools⟩
  · intro setup outside steps generation line id message gateway step happened
    obtain ⟨_, arrived⟩ := Gateway.arrival?_of_responded happened
    have parsed : ServiceMessage.parse line = .ok message := Gateway.parse_of_arrival arrived
    obtain ⟨asked, call, isLast, found, planned⟩ :=
      Gateway.asked_of_responded setup outside steps happened
    refine ⟨parsed, Gateway.proper_of_parse parsed, asked, isLast, fun isList => ?_⟩
    obtain ⟨raw, ledger, replies⟩ := Gateway.sent_of_responded
      (Gateway.settled_after setup outside steps) happened found
    rw [planned, Gateway.responsePlan_of_list isList] at ledger replies
    exact ⟨ToolList.toolName?_localTool _ _, ledger, replies⟩

/-- Of a list with two namesakes of the relay's own tool, a tool without a name and one whose name
is a number, the client is sent the latter two and the relay's own tool. -/
theorem namesakes_are_replaced :
    let setup : Setup :=
      { settings := { tool := { name := "s", description := "d" } }, launch := ⟨"npx", [], none⟩ }
    let steps : List Step :=
      [.event (.clientLine "\x7b\"id\":\"1\",\"method\":\"tools/list\"\x7d"),
        .event (.serviceOutput 1 "\x7b\"id\":\"health_check_1\"\x7d")]
    let tool := ToolList.localTool "s" "d"
    let unnamed := Json.object []
    let numbered := Json.object [("name", .number (.integer 3))]
    let namesake := Json.object [("name", .string "s")]
    let response := Json.object [("id", .string "1"), ("result", .object [("a", .null),
      ("tools", .array [namesake, unnamed, numbered, namesake])])]
    ToolList.merge response tool = .object [("id", .string "1"), ("result", .object [("a", .null),
        ("tools", .array [unnamed, numbered, tool])])] ∧
      ((Gateway.after setup {} steps).step setup
        (.event (.serviceOutput 1 response.compact))).outside.replies =
          [(ToolList.merge response tool).compact] := by
  intro setup steps tool unnamed numbered namesake response
  have three : (Json.number (.integer 3)).ReadsBack 123 :=
    Json.readsBack_integer (by decide) (by decide) 123
  have tools : ∀ tool ∈ [namesake, unnamed, numbered, namesake], tool.ReadsBack 124 := by
    simp [namesake, unnamed, numbered, Json.readsBack_object_iff, three]
  have back : response.ReadsBack Json.depthLimit := by
    have list : (Json.array [namesake, unnamed, numbered, namesake]).ReadsBack 125 :=
      Json.readsBack_array_iff.mpr tools
    have result : (Json.object [("a", .null),
        ("tools", .array [namesake, unnamed, numbered, namesake])]).ReadsBack 126 :=
      Json.readsBack_object_iff.mpr ⟨by decide, by simpa using list⟩
    exact Json.readsBack_object_iff.mpr ⟨by decide, by simpa using result⟩
  have trimmed : Text.trim response.compact = response.compact := by decide +kernel
  have read : Gateway.response? setup response.compact =
      some ⟨.text "1", ⟨some (.text "1"), none, response⟩, response.compact⟩ := by
    have parsed : ServiceMessage.parse response.compact =
        .ok ⟨some (.text "1"), none, response⟩ := by
      rw [ServiceMessage.parse, trimmed, Json.parse_compact back]
      rfl
    have isResponse : ServiceMessage.response? response.compact =
        some (.text "1", ⟨some (.text "1"), none, response⟩) :=
      ServiceMessage.response?_eq_some_iff.mpr ⟨parsed, rfl, rfl⟩
    have noProbe : Exchange.isProbeId setup (.text "1") = false := by decide +kernel
    simp only [Gateway.response?, isResponse, trimmed, Option.bind_some, noProbe,
      Bool.false_eq_true, if_false]
  obtain ⟨pending, current, silent, reaches⟩ :
      (Gateway.after setup {} steps).isPending (.text "1") = true ∧
        (Gateway.after setup {} steps).isCurrent 1 = true ∧
        (Gateway.after setup {} steps).outside.replies = [] ∧
        (Gateway.after setup {} steps).outside.replyOutcomes.next = none := by
    decide +kernel
  have happened : (Gateway.after setup {} steps).happening? setup
      (.event (.serviceOutput 1 response.compact)) =
        some (.responded (.text "1") ⟨some (.text "1"), none, response⟩) := by
    simp only [Gateway.happening?, Gateway.arrival?, Gateway.presentResponse?, current, read,
      pending, if_true, Option.map_some]
  have methods : (((Gateway.history setup {} steps).filterMap Happening.message?).find?
      fun earlier => earlier.answerId = some (.text "1")).bind ClientMessage.method =
        some "tools/list" := by
    decide +kernel
  obtain ⟨merges, sends⟩ := own_tool_is_listed_once
  obtain ⟨listed, -⟩ := merges response tool "s" back.proper (ToolList.toolName?_localTool _ _)
  obtain ⟨merged, -⟩ := listed [namesake, unnamed, numbered, namesake] rfl
  obtain ⟨-, -, asked, isLast, sent⟩ := sends setup {} steps 1 response.compact _ _ happened
  rw [isLast] at methods
  obtain ⟨-, -, replies⟩ := sent methods
  refine ⟨merged.trans ?_, replies.trans ?_⟩
  · rfl
  · simp only [Outside.reply, reaches, silent]
    rfl

end BrowserRelay
