import BrowserRelay.Proofs.Answers
import BrowserRelay.Proofs.CatchingUp
import BrowserRelay.Proofs.ReadBack
import BrowserRelay.Proofs.Memory
import BrowserRelay.Proofs.Probes
import BrowserRelay.Proofs.Replies

/-!
# Responses in any order

The response to a call is about that call only.  In whatever order the responses to pending calls
arrive, each caller is sent the same line, in the order of arrival, and the tables, the recording
and the armed timers are the same afterwards.  Only the present page depends on the order.
-/

namespace BrowserRelay

/-- A line with which the process responds to a call.  It may tell of a success or an error, and
may have any other members. -/
structure CallResponse where
  call : PendingCall
  line : String
  members : List (String × Json)
  object : Json.parse (Text.trim line) = .ok (.object members)
  own : members.lookup "id" = some call.id.toJson
  answer : ∀ method, members.lookup "method" ≠ some (.string method)

namespace CallResponse

def id (response : CallResponse) : RequestId := response.call.id

def message (response : CallResponse) : ServiceMessage :=
  ⟨some response.id, none, .object response.members⟩

/-- What the caller is sent. -/
def reply (setup : Setup) (response : CallResponse) : String :=
  Gateway.responseText setup response.call.plan response.message (Text.trim response.line)

/-- The page that was asked for, if this is a success. -/
def openedPage? (response : CallResponse) : Option String :=
  response.call.plan.openedPage? response.message

theorem response?_line (response : CallResponse) :
    ServiceMessage.response? response.line = some (response.id, response.message) := by
  have isId : ((Json.object response.members).get? "id").bind RequestId.ofJson? =
      some response.id := by
    have listed : (Json.object response.members).get? "id" = some response.id.toJson := response.own
    rw [listed, Option.bind_some, RequestId.ofJson?_toJson]
  have noMethod : ((Json.object response.members).get? "method").bind Json.asString? = none := by
    refine Option.bind_eq_none_iff.mpr fun value listed => Option.eq_none_iff_forall_ne_some.mpr ?_
    intro method isText
    obtain rfl := Json.asString?_eq_some_iff.mp isText
    exact response.answer method listed
  rw [ServiceMessage.response?_eq_some_iff]
  refine ⟨?_, rfl, rfl⟩
  simp only [ServiceMessage.parse, response.object, isId, noMethod, message]

end CallResponse

namespace Gateway

variable {setup : Setup} {gateway : Gateway}

/-- What responses to calls come to, in the order in which they arrive. -/
structure Responded (setup : Setup) (before : Gateway) (responses : List CallResponse)
    (later : Gateway) : Prop where
  rest : later = { before with
    pending := later.pending
    timers := later.timers
    pageUrl := later.pageUrl
    ledger := later.ledger
    outside := later.outside }
  pending : later.pending =
    before.pending.filter fun call => call.id ∉ responses.map CallResponse.id
  timers : later.timers = { before.timers with
    arms := before.timers.arms.filter fun arm =>
      arm.timer ∉ responses.map fun response => .callDeadline response.id }
  page : later.pageUrl =
    (responses.filterMap CallResponse.openedPage?).getLast?.getD before.pageUrl
  ledger : later.ledger = before.ledger ++
    responses.map fun response => .answered response.id (.response (response.reply setup))
  said : before.outside.Says (responses.map (CallResponse.reply setup)) later.outside

namespace Responded

theorem none (setup : Setup) (gateway : Gateway) : Responded setup gateway [] gateway where
  rest := rfl
  pending := by simp
  timers := by simp
  page := rfl
  ledger := (List.append_nil _).symm
  said := ⟨rfl, rfl⟩

theorem state {before later : Gateway} {responses : List CallResponse}
    (responded : Responded setup before responses later) : later.state = before.state := by
  rw [responded.rest]

theorem generation {before later : Gateway} {responses : List CallResponse}
    (responded : Responded setup before responses later) :
    later.generation = before.generation := by
  rw [responded.rest]

theorem append {before middle later : Gateway} {responses further : List CallResponse}
    (first : Responded setup before responses middle)
    (second : Responded setup middle further later) :
    Responded setup before (responses ++ further) later where
  rest := by
    rw [second.rest, first.rest]
  pending := by
    rw [second.pending, first.pending, List.filter_filter]
    exact List.filter_congr fun call _ => by simp [Bool.and_comm]
  timers := by
    rw [second.timers, first.timers]
    simp only [List.filter_filter]
    congr 1
    exact List.filter_congr fun arm _ => by simp [Bool.and_comm]
  page := by
    rw [second.page, first.page, List.filterMap_append, List.getLast?_append]
    cases (further.filterMap CallResponse.openedPage?).getLast? <;> rfl
  ledger := by
    rw [second.ledger, first.ledger, List.map_append, List.append_assoc]
  said := by
    rw [List.map_append]
    exact first.said.trans second.said

end Responded

/-- The page is all that becomes different, but for a note. -/
theorem visit_eq (gateway : Gateway) (plan : ResponsePlan) (message : ServiceMessage) :
    ∃ outside, gateway.outside.Says [] outside ∧
      gateway.visit plan message =
        { gateway with
          pageUrl := (plan.openedPage? message).getD gateway.pageUrl
          outside := outside } := by
  cases plan with
  | relay => exact ⟨gateway.outside, ⟨rfl, rfl⟩, rfl⟩
  | mergeTools => exact ⟨gateway.outside, ⟨rfl, rfl⟩, rfl⟩
  | navigate url =>
      unfold visit ResponsePlan.openedPage?
      dsimp only
      split
      case isTrue => exact ⟨_, .note _ .info "page.navigated" [("url", .string url)], rfl⟩
      case isFalse => exact ⟨gateway.outside, ⟨rfl, rfl⟩, rfl⟩

theorem responded_handleServiceOutput (response : CallResponse)
    (found : CallTable.find? gateway.pending response.id = some response.call)
    (noProbe : Exchange.isProbeId setup response.id = false) :
    Responded setup gateway [response] (gateway.handleServiceOutput setup response.line) := by
  let calm := (gateway.withExchange
    { gateway.toExchange with
      pending := CallTable.remove gateway.pending response.id }).cancelDeadline response.id
  have handled : gateway.handleServiceOutput setup response.line =
      calm.complete setup response.call response.message (Text.trim response.line) := by
    unfold handleServiceOutput
    simp only [Exchange.classify_response _ response.response?_line noProbe, found]
    rfl
  obtain ⟨outside, noted, visited⟩ := calm.visit_eq response.call.plan response.message
  rw [handled, complete, visited]
  exact
    { rest := rfl
      pending := List.filter_congr fun call _ => by simp
      timers := congrArg (TimerTable.mk · gateway.timers.nextTicket)
        (List.filter_congr fun arm _ => by simp)
      page := by
        simp only [List.filterMap_cons, List.filterMap_nil]
        cases opened : response.openedPage? with
        | none => exact congrArg (Option.getD · gateway.pageUrl) opened
        | some url => exact congrArg (Option.getD · gateway.pageUrl) opened
      ledger := rfl
      said := noted.trans (.reply outside (response.reply setup)) }

/-! ## Responses one after the other -/

/-- Nothing is different but the page, and what was said and answered in which order. -/
def SameButSaid (first second : Gateway) : Prop :=
  second = { first with
    pageUrl := second.pageUrl
    ledger := second.ledger
    outside := second.outside }

theorem SameButSaid.pending {first second : Gateway} (same : first.SameButSaid second) :
    second.pending = first.pending := by
  rw [same]

theorem SameButSaid.timers {first second : Gateway} (same : first.SameButSaid second) :
    second.timers = first.timers := by
  rw [same]

/-- The present process responds to calls, one after the other. -/
def respondAll (setup : Setup) (gateway : Gateway) (responses : List CallResponse) : Gateway :=
  gateway.run setup
    (responses.map fun response => .event (.serviceOutput gateway.generation response.line))

/-- The responses are to different calls that are pending. -/
structure Awaits (setup : Setup) (gateway : Gateway) (responses : List CallResponse) : Prop where
  once : (responses.map CallResponse.id).Nodup
  running : responses ≠ [] → gateway.state ≠ .noProcess
  found : ∀ response ∈ responses,
    CallTable.find? gateway.pending response.id = some response.call
  noProbe : ∀ response ∈ responses, Exchange.isProbeId setup response.id = false

theorem find?_filter_other {calls : List PendingCall} {id other : RequestId} (ne : id ≠ other) :
    CallTable.find? (calls.filter fun call => call.id ∉ [other]) id =
      CallTable.find? calls id := by
  unfold CallTable.find?
  rw [List.find?_filter]
  congr 1
  funext call
  by_cases same : call.id = id
  · simp [same, ne]
  · simp [same]

theorem Awaits.responded {responses : List CallResponse} (awaits : gateway.Awaits setup responses) :
    Responded setup gateway responses (gateway.respondAll setup responses) := by
  induction responses generalizing gateway with
  | nil => exact .none setup gateway
  | cons response responses ih =>
      have running := awaits.running (by simp)
      obtain ⟨fresh, once⟩ := List.nodup_cons.mp awaits.once
      have first := responded_handleServiceOutput response (awaits.found response (by simp))
        (awaits.noProbe response (by simp))
      have handled := step_serviceOutput_running setup response.line running
      generalize gateway.handleServiceOutput setup response.line = later at first handled
      have others : later.Awaits setup responses := by
        refine ⟨once, fun _ => first.state ▸ running, fun other listed => ?_,
          fun other listed => awaits.noProbe other (List.mem_cons_of_mem _ listed)⟩
        have ne : other.id ≠ response.id :=
          fun same => fresh (same ▸ List.mem_map_of_mem listed)
        rw [first.pending]
        exact (find?_filter_other ne).trans (awaits.found other (List.mem_cons_of_mem _ listed))
      have joined : gateway.respondAll setup (response :: responses) =
          later.respondAll setup responses := by
        rw [respondAll, List.map_cons, run_cons, handled, respondAll, first.generation]
      rw [joined]
      exact first.append (ih others)

theorem afterTurns_map_step (setup : Setup) (outside : Outside) (steps : List Step) :
    afterTurns setup outside (steps.map .step) = after setup outside steps :=
  List.foldl_map

theorem awaits_after (setup : Setup) (outside : Outside) (steps : List Step)
    {responses : List CallResponse}
    (pending : ∀ response ∈ responses, response.call ∈ (after setup outside steps).pending)
    (once : (responses.map CallResponse.call).Nodup) :
    (after setup outside steps).Awaits setup responses := by
  obtain ⟨present, accountable⟩ := isAccountable_after setup outside steps
  have apart : (afterTurns setup outside (steps.map .step)).KeepsApart setup :=
    keepsApart_afterTurns setup outside _
  rw [afterTurns_map_step] at apart
  have ids : ((after setup outside steps).pending.map PendingCall.id).Nodup :=
    (List.nodup_append.mp accountable.nodup).1
  have injective {first second : PendingCall} (one : first ∈ (after setup outside steps).pending)
      (other : second ∈ (after setup outside steps).pending) (same : first.id = second.id) :
      first = second := List.inj_on_of_nodup_map ids one other same
  refine ⟨?_, fun some idle => ?_, fun response listed => ?_, fun response listed =>
    apart.pending _ (pending response listed)⟩
  · have mapped : responses.map CallResponse.id =
        (responses.map CallResponse.call).map PendingCall.id := by simp [CallResponse.id]
    rw [mapped]
    refine List.Nodup.map_on (fun first one second other same => ?_) once
    obtain ⟨response, listed, rfl⟩ := List.mem_map.mp one
    obtain ⟨further, also, rfl⟩ := List.mem_map.mp other
    exact injective (pending response listed) (pending further also) same
  · obtain ⟨response, listed⟩ := List.exists_mem_of_ne_nil _ some
    have empty : (after setup outside steps).pending = [] := (present.idle idle).1
    simpa [empty] using pending response listed
  · cases found : CallTable.find? (after setup outside steps).pending response.id with
    | none =>
        have missing := List.find?_eq_none.mp found _ (pending response listed)
        simp [CallResponse.id] at missing
    | some call =>
        have same : call.id = response.id := by simpa using List.find?_some found
        rw [injective (List.mem_of_find?_eq_some found) (pending response listed) same]

/-- In whatever order the process responds to pending calls, each caller is sent the same line.
The lines are sent in the order of arrival, and no other call is touched.  The page is the one
that was opened last, and all else is the same in the end. -/
theorem responses_commute (setup : Setup) (outside : Outside) (steps : List Step)
    {responses others : List CallResponse}
    (pending : ∀ response ∈ responses, response.call ∈ (after setup outside steps).pending)
    (once : (responses.map CallResponse.call).Nodup) (reordered : responses.Perm others) :
    let gateway := after setup outside steps
    let first := gateway.respondAll setup responses
    let second := gateway.respondAll setup others
    Responded setup gateway responses first ∧ Responded setup gateway others second ∧
      (responses.map (CallResponse.reply setup)).Perm (others.map (CallResponse.reply setup)) ∧
      first.SameButSaid second := by
  intro gateway first second
  have firstAll : Responded setup gateway responses first :=
    (awaits_after setup outside steps pending once).responded
  have secondAll : Responded setup gateway others second :=
    (awaits_after setup outside steps
      (fun response listed => pending response (reordered.mem_iff.mpr listed))
      ((reordered.map _).nodup_iff.mp once)).responded
  have samePending : second.pending = first.pending := by
    have ids := reordered.map CallResponse.id
    rw [firstAll.pending, secondAll.pending]
    simp only [ids.mem_iff]
  have sameTimers : second.timers = first.timers := by
    have deadlines := reordered.map fun response => Timer.callDeadline response.id
    rw [firstAll.timers, secondAll.timers]
    simp only [deadlines.mem_iff]
  refine ⟨firstAll, secondAll, reordered.map _, ?_⟩
  unfold SameButSaid
  rw [secondAll.rest, firstAll.rest]
  simp only [samePending, sameTimers]

/-- Two pages are opened, and the present one is that whose response arrives last. -/
theorem two_responses_commute :
    let setup : Setup := { launch := ⟨"npx", [], none⟩ }
    let steps : List Step :=
      [.event (.clientLine
          "\x7b\"id\":\"1\",\"method\":\"browser/navigate\",\"params\":\x7b\"url\":\"a\"\x7d\x7d"),
        .event (.clientLine
          "\x7b\"id\":\"2\",\"method\":\"browser/navigate\",\"params\":\x7b\"url\":\"b\"\x7d\x7d"),
        .event (.serviceOutput 1 "\x7b\"id\":\"health_check_1\"\x7d")]
    ∃ one other : CallResponse,
      one.line = "\x7b\"id\":\"1\",\"result\":true\x7d" ∧
      other.line = "\x7b\"id\":\"2\",\"result\":true\x7d" ∧
      (after setup {} steps).pending = [one.call, other.call] ∧
      let first := (after setup {} steps).respondAll setup [one, other]
      let second := (after setup {} steps).respondAll setup [other, one]
      first.pageUrl = "b" ∧ second.pageUrl = "a" ∧
        second.pending = first.pending ∧ second.timers = first.timers := by
  have response (id : String) : (Json.object [("id", .string id), ("result", .bool true)]).ReadsBack
      Json.depthLimit :=
    Json.readsBack_object_iff.mpr ⟨List.pairwise_pair.mpr (show "id" < "result" by decide), by simp⟩
  have object : Json.parse (Text.trim "\x7b\"id\":\"1\",\"result\":true\x7d") =
      .ok (.object [("id", .string "1"), ("result", .bool true)]) := by
    rw [← Json.parse_compact (response "1")]
    exact congrArg Json.parse (by decide +kernel)
  have otherObject : Json.parse (Text.trim "\x7b\"id\":\"2\",\"result\":true\x7d") =
      .ok (.object [("id", .string "2"), ("result", .bool true)]) := by
    rw [← Json.parse_compact (response "2")]
    exact congrArg Json.parse (by decide +kernel)
  intro setup steps
  let call : PendingCall := ⟨.text "1", .navigate "a", 1⟩
  let otherCall : PendingCall := ⟨.text "2", .navigate "b", 1⟩
  have pending : (after setup {} steps).pending = [call, otherCall] := by decide +kernel
  have once : [call, otherCall].Nodup := by decide
  let one : CallResponse := ⟨call, _, _, object, rfl, by simp [List.lookup_cons]⟩
  let other : CallResponse := ⟨otherCall, _, _, otherObject, rfl, by simp [List.lookup_cons]⟩
  have each : ∀ response ∈ [one, other], response.call ∈ (after setup {} steps).pending := by
    rw [pending]
    exact fun response listed => List.mem_map_of_mem listed
  obtain ⟨firstAll, secondAll, -, alike⟩ :=
    responses_commute setup {} steps each once (.swap other one [])
  exact ⟨one, other, rfl, rfl, pending, firstAll.page, secondAll.page, alike.pending, alike.timers⟩

end Gateway

end BrowserRelay
