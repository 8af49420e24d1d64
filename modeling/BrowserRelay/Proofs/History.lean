import BrowserRelay.Proofs.Memory
import BrowserRelay.Proofs.Pending

/-!
# What a script is made of

Of a run it matters to the scripts which messages of the client were taken in, which calls were
responded to, and when a script was asked for.  This history alone, with the actions that an
earlier run left behind, tells what the emitter is given.
-/

namespace BrowserRelay

/-- What matters to the scripts. -/
inductive Happening where
  /-- A message of the client was taken in to be passed on. -/
  | forwarded (message : ClientMessage)
  /-- A pending call was responded to. -/
  | responded (id : RequestId) (message : ServiceMessage)
  /-- A script was asked for, at a reading of the clock, and was saved or not. -/
  | asked (reading : Nat) (saved : Bool)

namespace Happening

def message? : Happening → Option ClientMessage
  | forwarded message => some message
  | _ => none

/-- Whether a script was saved. -/
def isSaved : Happening → Bool
  | asked _ saved => saved
  | _ => false

end Happening

/-! ## What a history tells

In a history the latest happening comes first. -/

namespace History

/-- The plan of the last message that was taken in with an identifier. -/
def plan? (history : List Happening) (id : RequestId) : Option ResponsePlan :=
  ((history.filterMap Happening.message?).find? fun message => message.answerId = some id).map
    Gateway.responsePlan

/-- The page that was opened at last: by a navigation whose response has a result and no
error. -/
def openedPage? : List Happening → Option String
  | .responded id message :: past => (plan? past id).bind fun plan => plan.openedPage? message
  | _ => none

/-- The latest page that was opened, and no page if there was none. -/
def pageUrl : List Happening → String
  | [] => ""
  | happening :: past => (openedPage? (happening :: past)).getD (pageUrl past)

/-- The actions, oldest first, of the messages that were taken in since a script was last
saved.  If none was, the actions that an earlier run left behind come before them. -/
def actions (setup : Setup) (loaded : List RecordedAction) (history : List Happening) :
    List RecordedAction :=
  let since := history.takeWhile fun happening => !happening.isSaved
  let derived := (since.filterMap Happening.message?).filterMap (Gateway.derivedAction? setup)
  (if history.any Happening.isSaved then [] else loaded) ++ derived.reverse

variable {setup : Setup} {loaded : List RecordedAction} {past : List Happening}

theorem actions_cons_of_unsaved {happening : Happening} (unsaved : happening.isSaved = false) :
    actions setup loaded (happening :: past) =
      actions setup loaded past ++
        (happening.message?.bind (Gateway.derivedAction? setup)).toList := by
  cases taken : happening.message? with
  | none => simp [actions, unsaved, taken]
  | some message =>
      cases derived : Gateway.derivedAction? setup message with
      | none => simp [actions, unsaved, taken, derived]
      | some action => simp [actions, unsaved, taken, derived]

theorem actions_forwarded (message : ClientMessage) :
    actions setup loaded (.forwarded message :: past) =
      actions setup loaded past ++ (Gateway.derivedAction? setup message).toList :=
  actions_cons_of_unsaved rfl

theorem actions_responded (id : RequestId) (message : ServiceMessage) :
    actions setup loaded (.responded id message :: past) = actions setup loaded past :=
  (actions_cons_of_unsaved rfl).trans (List.append_nil _)

theorem actions_asked (reading : Nat) (saved : Bool) :
    actions setup loaded (.asked reading saved :: past) =
      if saved then [] else actions setup loaded past := by
  cases saved with
  | true => simp [actions, Happening.isSaved]
  | false => exact (actions_cons_of_unsaved rfl).trans (List.append_nil _)

theorem pageUrl_responded {id : RequestId} {plan : ResponsePlan} (message : ServiceMessage)
    (planned : plan? past id = some plan) :
    pageUrl (.responded id message :: past) = (plan.openedPage? message).getD (pageUrl past) := by
  simp [pageUrl, openedPage?, planned]

end History

/-! ## The history of a run -/

namespace Gateway

variable {setup : Setup} {gateway : Gateway}

/-- The call of the relay's own tool that a step is, if it is one that is not refused. -/
def ownCall? (setup : Setup) (gateway : Gateway) : Step → Option ClientMessage
  | .event (.clientLine line) =>
      if Text.isBlankText line then none
      else
        match ClientMessage.parse line with
        | .error _ => none
        | .ok message =>
            if (message.answerId.bind (gateway.idRefusal setup)).isSome then none
            else if message.toolName = some setup.settings.tool.name then some message
            else none
  | _ => none

/-- What happens in a step that matters to the scripts. -/
def happening? (setup : Setup) (gateway : Gateway) (step : Step) : Option Happening :=
  match gateway.arrival? setup step with
  | some (.message message served) => if served then some (.forwarded message) else none
  | some (.response response) =>
      if gateway.toExchange.isPending response.id then
        some (.responded response.id response.message)
      else none
  | none =>
      if (gateway.ownCall? setup step).isSome then
        some (.asked gateway.outside.nowMillis (gateway.emissionReport setup).isSuccess)
      else none

/-- The history after further steps, the latest happening first. -/
def historySince (setup : Setup) : Gateway → List Happening → List Step → List Happening
  | _, past, [] => past
  | gateway, past, first :: steps =>
      historySince setup (gateway.step setup first)
        ((gateway.happening? setup first).toList ++ past) steps

/-- The history of a run from the start. -/
def history (setup : Setup) (outside : Outside) (steps : List Step) : List Happening :=
  historySince setup (initial setup outside) [] steps

theorem historySince_append (gateway : Gateway) (past : List Happening)
    (first second : List Step) :
    historySince setup gateway past (first ++ second) =
      historySince setup (gateway.run setup first) (historySince setup gateway past first)
        second := by
  induction first generalizing gateway past with
  | nil => rfl
  | cons step first ih => exact ih _ _

theorem history_concat (setup : Setup) (outside : Outside) (steps : List Step) (step : Step) :
    history setup outside (steps ++ [step]) =
      ((after setup outside steps).happening? setup step).toList ++ history setup outside steps :=
  historySince_append (initial setup outside) [] steps [step]

/-- The memory after a happening, if there is one. -/
def memoryAfter (setup : Setup) (gateway : Gateway) : Option Happening → Memory
  | none => gateway.memory
  | some (.forwarded message) => gateway.memory.record (derivedAction? setup message)
  | some (.responded id message) =>
      gateway.memory.visit ((CallTable.find? gateway.pending id).bind fun call =>
        call.plan.openedPage? message)
  | some (.asked _ saved) => gateway.memory.emit (gateway.scriptPath setup) saved

theorem handleMessage_refused {message : ClientMessage} {failure : Failure}
    (refusal : message.answerId.bind (gateway.idRefusal setup) = some failure) :
    (gateway.handleMessage setup message).memory = gateway.memory := by
  obtain ⟨id, request, refused⟩ := Option.bind_eq_some_iff.mp refusal
  simp only [handleMessage, request, refused]
  exact memory_tell _

theorem handleMessage_allowed {message : ClientMessage}
    (allowed : message.answerId.bind (gateway.idRefusal setup) = none) :
    gateway.handleMessage setup message = gateway.acceptMessage setup message := by
  unfold handleMessage
  cases request : message.answerId with
  | none => rfl
  | some id =>
      rw [request, Option.bind_some] at allowed
      simp only [allowed]

/-- What a line of the client does to the memory. -/
theorem memory_handleClientLine (setup : Setup) (gateway : Gateway) (line : String) :
    (gateway.handleClientLine setup line).memory =
      gateway.memoryAfter setup (gateway.happening? setup (.event (.clientLine line))) := by
  unfold happening? arrival?
  by_cases blank : Text.isBlankText line = true
  · simp [handleClientLine, accepted?, ownCall?, blank, memoryAfter]
  cases parsed : ClientMessage.parse line with
  | error failure =>
      simp only [handleClientLine, accepted?, ownCall?, blank, parsed]
      exact memory_tell _
  | ok message =>
      have handled : gateway.handleClientLine setup line = gateway.handleMessage setup message := by
        simp only [handleClientLine, blank, parsed]
        rfl
      rw [handled]
      cases refusal : message.answerId.bind (gateway.idRefusal setup) with
      | some failure =>
          rw [handleMessage_refused refusal]
          simp [accepted?, ownCall?, blank, parsed, refusal, memoryAfter]
      | none =>
          rw [handleMessage_allowed refusal]
          by_cases own : message.toolName = some setup.settings.tool.name
          · simp only [acceptMessage, own, if_true, memory_generateScript]
            simp [accepted?, ownCall?, blank, parsed, refusal, own, memoryAfter]
          · simp only [acceptMessage, own, if_false, memory_forward]
            cases served : gateway.isServed setup message <;>
              simp [accepted?, blank, parsed, refusal, own, served, memoryAfter]

theorem memory_onServiceOutput (setup : Setup) (gateway : Gateway) (generation : Nat)
    (line : String) :
    (gateway.onServiceOutput setup generation line).memory =
      gateway.memoryAfter setup
        (gateway.happening? setup (.event (.serviceOutput generation line))) := by
  cases current : gateway.isCurrent generation with
  | false =>
      simp only [onServiceOutput, happening?, arrival?, presentResponse?, current, ownCall?]
      rfl
  | true =>
      simp only [onServiceOutput, happening?, arrival?, presentResponse?, current, if_true,
        memory_handleServiceOutput, ownCall?]
      cases response? setup line with
      | none => rfl
      | some response =>
          cases found : CallTable.find? gateway.pending response.id with
          | none => simp [found, Exchange.isPending, Memory.visit, memoryAfter]
          | some call => simp [found, Exchange.isPending, memoryAfter]

/-- The clock after a step. -/
def clockAfter (gateway : Gateway) : Step → Int
  | .meanwhile outside => outside.clock
  | _ => gateway.outside.clock

/-- What one step does to the memory. -/
theorem memory_step (setup : Setup) (gateway : Gateway) (step : Step) :
    (gateway.step setup step).memory =
      { gateway.memoryAfter setup (gateway.happening? setup step) with
        clock := gateway.clockAfter step } := by
  have steady : (gateway.memoryAfter setup (gateway.happening? setup step)).clock =
      gateway.outside.clock := by
    cases gateway.happening? setup step with
    | none => rfl
    | some happening => cases happening <;> rfl
  -- But for the steps in which the clock becomes another, the clock is kept.
  have keep (live : gateway.clockAfter step = gateway.outside.clock)
      (stepped : (gateway.step setup step).memory =
        gateway.memoryAfter setup (gateway.happening? setup step)) :
      (gateway.step setup step).memory =
        { gateway.memoryAfter setup (gateway.happening? setup step) with
          clock := gateway.clockAfter step } := by
    rw [stepped, live, ← steady]
  cases step with
  | start => exact keep rfl (memory_startService setup)
  | elapse timer =>
      refine keep rfl ?_
      unfold step
      dsimp only
      split
      · rfl
      · exact memory_onTimer timer
  | meanwhile outside => rfl
  | event event =>
      refine keep rfl ?_
      cases event with
      | clientLine line => exact memory_handleClientLine setup gateway line
      | serviceOutput generation line => exact memory_onServiceOutput setup gateway generation line
      | clientClosed => rfl
      | serviceError generation line => rfl
      | serviceExited generation code => exact memory_onServiceExited generation code
      | serviceFailed generation detail => exact memory_onServiceFailed generation detail
      | timer timer => exact memory_onTimer timer
      | shutdown => rfl

end Gateway

/-! ## Pending calls in the history -/

/-- The message of the client that is taken in. -/
def Deed.takenEntry? : Deed → Option QueuedRequest
  | forwarded entry => some entry
  | _ => none

def Arrival.takenEntry? : Arrival → Option QueuedRequest
  | message arrived served => if served then some arrived.entry else none
  | response _ => none

/-- The messages of the client that were taken in. -/
def Traffic.takenEntries (traffic : Traffic) : List QueuedRequest :=
  traffic.ledger.filterMap Deed.takenEntry?

theorem Moves.takenEntries {setup : Setup} {before after : Traffic}
    (moves : Moves setup before after) : after.takenEntries = before.takenEntries := by
  obtain ⟨deeds, grows, none⟩ := moves.grows
  have nothing : deeds.filterMap Deed.takenEntry? = [] := by
    rw [List.filterMap_eq_nil_iff]
    intro deed done
    cases deed with
    | forwarded entry => exact absurd done (none.untaken entry)
    | _ => rfl
  rw [Traffic.takenEntries, grows.ledger, List.filterMap_append, nothing, List.append_nil]
  rfl

theorem Passage.takenEntries {setup : Setup} {before after : Traffic} {arrival : Option Arrival}
    (passage : Passage setup before arrival after) :
    after.takenEntries =
      before.takenEntries ++ (arrival.bind Arrival.takenEntry?).toList := by
  cases passage with
  | quiet moves =>
      rw [moves.takenEntries]
      exact (List.append_nil _).symm
  | woken starting moves =>
      rw [moves.takenEntries]
      exact (List.append_nil _).symm
  | turnedAway message failure free moves =>
      rw [moves.takenEntries]
      cases request : message.answerId <;>
        simp [Traffic.takenEntries, Traffic.turnAway, Traffic.accept, Arrival.takenEntry?,
          List.filterMap_cons, Deed.takenEntry?]
  | takenIn message first kept free moves =>
      rw [moves.takenEntries, ← first.takenEntries]
      cases request : message.answerId <;>
        simp [Traffic.takenEntries, Traffic.takeIn, Traffic.accept, Traffic.enter,
          Traffic.armDeadline, Arrival.takenEntry?, ClientMessage.entry, request,
          List.filterMap_cons, Deed.takenEntry?]
  | responded response found => exact List.filterMap_append
  | recalled response missing timedOut => exact (List.append_nil _).symm
  | unmatched response missing unknown => exact List.filterMap_append

namespace Gateway

variable {setup : Setup} {gateway : Gateway}

theorem takenEntry?_arrival (setup : Setup) (gateway : Gateway) (step : Step) :
    (gateway.arrival? setup step).bind Arrival.takenEntry? =
      ((gateway.happening? setup step).bind Happening.message?).map ClientMessage.entry := by
  unfold happening?
  cases gateway.arrival? setup step with
  | none => cases gateway.ownCall? setup step <;> rfl
  | some arrival =>
      cases arrival with
      | message message served => cases served <;> rfl
      | response response =>
          cases pending : gateway.toExchange.isPending response.id <;>
            simp [pending, Arrival.takenEntry?, Happening.message?]

/-- The messages in the history are those in the ledger. -/
theorem takenEntries_after (setup : Setup) (outside : Outside) (steps : List Step) :
    (after setup outside steps).traffic.takenEntries =
      (((history setup outside steps).filterMap Happening.message?).map
        ClientMessage.entry).reverse := by
  induction steps using List.reverseRecOn with
  | nil =>
      have start : after setup outside [] = initial setup outside := rfl
      rw [start, traffic_initial]
      rfl
  | append_singleton steps step ih =>
      have passage := (passage_step setup _ step (settled_after setup outside steps)).1
      rw [after_concat, passage.takenEntries, ih, takenEntry?_arrival, history_concat]
      cases happened : (after setup outside steps).happening? setup step with
      | none => simp
      | some happening =>
          cases taken : happening.message? <;> simp [taken]

/-- Behind every pending call stands the last message in the history with its identifier. -/
theorem plan?_of_pending (setup : Setup) (outside : Outside) (steps : List Step)
    {call : PendingCall} (pending : call ∈ (after setup outside steps).pending) :
    History.plan? (history setup outside steps) call.id = some call.plan := by
  obtain ⟨entry, since, attempts, latest, plan, -⟩ :=
    (isBacked_after setup outside steps).pending call pending
  obtain ⟨earlier, ledger⟩ := latest.taken
  have untaken : (since.filterMap Deed.takenEntry?).reverse.find?
      (RequestQueue.hasId call.id) = none := by
    refine List.find?_eq_none.mpr fun other listed => ?_
    rw [RequestQueue.hasId, decide_eq_true_iff]
    obtain ⟨deed, done, same⟩ := List.mem_filterMap.mp (List.mem_reverse.mp listed)
    cases deed with
    | forwarded entry =>
        obtain rfl := Option.some.inj same
        exact latest.spared.untaken entry done
    | _ => simp [Deed.takenEntry?] at same
  have entries : ((history setup outside steps).filterMap Happening.message?).map
      ClientMessage.entry =
        (since.filterMap Deed.takenEntry?).reverse ++
          entry :: (earlier.filterMap Deed.takenEntry?).reverse := by
    have all := congrArg List.reverse (takenEntries_after setup outside steps)
    rw [List.reverse_reverse] at all
    have split : (after setup outside steps).traffic.takenEntries =
        earlier.filterMap Deed.takenEntry? ++ entry :: since.filterMap Deed.takenEntry? := by
      rw [Traffic.takenEntries, ledger, List.filterMap_append]
      rfl
    rw [← all, split]
    simp
  have own : RequestQueue.hasId call.id entry = true := decide_eq_true latest.request
  have found := congrArg (List.find? (RequestQueue.hasId call.id)) entries
  rw [List.find?_append, untaken, Option.none_or, List.find?_map,
    List.find?_cons_of_pos own] at found
  obtain ⟨message, isLast, rfl⟩ := Option.map_eq_some_iff.mp found
  rw [History.plan?, ← plan]
  exact congrArg (Option.map responsePlan) isLast

/-! ## What the emitter is given -/

theorem exists_call_of_responded {step : Step} {id : RequestId} {message : ServiceMessage}
    (happened : gateway.happening? setup step = some (.responded id message)) :
    ∃ call, CallTable.find? gateway.pending id = some call := by
  unfold happening? at happened
  split at happened
  · split at happened <;> simp at happened
  case h_2 response _ =>
    split at happened
    case isTrue pending =>
      obtain ⟨rfl, -⟩ := Happening.responded.inj (Option.some.inj happened)
      exact Option.isSome_iff_exists.mp pending
    case isFalse => simp at happened
  · split at happened <;> simp at happened

theorem arrival?_of_ownCall {step : Step} {message : ClientMessage}
    (own : gateway.ownCall? setup step = some message) : gateway.arrival? setup step = none := by
  unfold ownCall? at own
  split at own
  case h_2 => simp at own
  case h_1 line =>
    split at own
    case isTrue => simp at own
    case isFalse blank =>
      cases parsed : ClientMessage.parse line with
      | error failure => simp [parsed] at own
      | ok found =>
          simp only [parsed] at own
          split at own
          case isTrue => simp at own
          case isFalse allowed =>
            split at own
            case isTrue isOwn => simp [arrival?, accepted?, blank, parsed, allowed, isOwn]
            case isFalse => simp at own

theorem happening?_asked_iff {step : Step} {reading : Nat} {saved : Bool} :
    gateway.happening? setup step = some (.asked reading saved) ↔
      (gateway.ownCall? setup step).isSome ∧ gateway.outside.nowMillis = reading ∧
        (gateway.emissionReport setup).isSuccess = saved := by
  cases own : gateway.ownCall? setup step with
  | some message => simp [happening?, arrival?_of_ownCall own, own]
  | none =>
      refine iff_of_false (fun happened => ?_) (by simp)
      unfold happening? at happened
      split at happened
      · split at happened <;> simp at happened
      · split at happened <;> simp at happened
      · simp [own] at happened

/-- What the gateway remembers of the actions and the page is what the history tells. -/
theorem remembers_after (setup : Setup) (outside : Outside) (steps : List Step) :
    let loaded := (ActionLog.load outside.files setup.settings.recording.actionLogPath).1
    (after setup outside steps).actions =
        History.actions setup loaded (history setup outside steps) ∧
      (after setup outside steps).pageUrl = History.pageUrl (history setup outside steps) := by
  intro loaded
  induction steps using List.reverseRecOn with
  | nil =>
      have start : (after setup outside []).actions = loaded := rfl
      exact ⟨start.trans (List.append_nil _).symm, rfl⟩
  | append_singleton steps step ih =>
      obtain ⟨actions, page⟩ := ih
      have known {call : PendingCall} {id : RequestId}
          (found : CallTable.find? (after setup outside steps).pending id = some call) :
          History.plan? (history setup outside steps) id = some call.plan := by
        have same : call.id = id := by simpa using List.find?_some found
        exact same ▸ plan?_of_pending setup outside steps (List.mem_of_find?_eq_some found)
      have stepped := memory_step setup (after setup outside steps) step
      rw [← after_concat] at stepped
      have actionsStepped := congrArg Memory.actions stepped
      have pageStepped := congrArg Memory.pageUrl stepped
      rw [history_concat]
      cases happened : (after setup outside steps).happening? setup step with
      | none =>
          rw [happened] at actionsStepped pageStepped
          exact ⟨actionsStepped.trans actions, pageStepped.trans page⟩
      | some happening =>
          rw [happened] at actionsStepped pageStepped
          cases happening with
          | forwarded message =>
              refine ⟨actionsStepped.trans ?_, pageStepped.trans page⟩
              exact (congrArg (· ++ _) actions).trans (History.actions_forwarded message).symm
          | responded id message =>
              obtain ⟨call, found⟩ := exists_call_of_responded happened
              have planned := known found
              refine ⟨actionsStepped.trans ?_, pageStepped.trans ?_⟩
              · exact actions.trans (History.actions_responded id message).symm
              · rw [memoryAfter, found]
                exact (congrArg (Option.getD _) page).trans
                  (History.pageUrl_responded message planned).symm
          | asked reading saved =>
              refine ⟨actionsStepped.trans ?_, pageStepped.trans page⟩
              rw [Option.toList_some, List.singleton_append, History.actions_asked, ← actions]
              rfl

/-- At every call of the relay's own tool the emitter is given the page that was opened at last,
and the actions that were taken in since a script was last saved.  Nothing else is emitted. -/
theorem emitter_gets_the_history (setup : Setup) (outside : Outside) (steps : List Step)
    (step : Step) :
    let gateway := after setup outside steps
    let loaded := (ActionLog.load outside.files setup.settings.recording.actionLogPath).1
    let history := history setup outside steps
    (gateway.step setup step).outside.emissions =
      gateway.outside.emissions ++
        if (gateway.ownCall? setup step).isSome then
          [⟨History.pageUrl history, History.actions setup loaded history,
            gateway.scriptPath setup⟩]
        else [] := by
  intro gateway loaded history
  obtain ⟨actions, page⟩ := remembers_after setup outside steps
  have stepped := congrArg Memory.emissions (memory_step setup gateway step)
  refine stepped.trans ?_
  cases own : gateway.ownCall? setup step with
  | some message =>
      have happened : gateway.happening? setup step =
          some (.asked gateway.outside.nowMillis (gateway.emissionReport setup).isSuccess) :=
        happening?_asked_iff.mpr ⟨by simp [own], rfl, rfl⟩
      rw [happened, ← actions, ← page]
      rfl
  | none =>
      simp only [Option.isSome_none, Bool.false_eq_true, if_false, List.append_nil]
      cases happened : gateway.happening? setup step with
      | none => rfl
      | some happening =>
          cases happening with
          | forwarded message => rfl
          | responded id message => rfl
          | asked reading saved =>
              have isOwn := (happening?_asked_iff.mp happened).1
              simp [own] at isOwn

end Gateway

end BrowserRelay
