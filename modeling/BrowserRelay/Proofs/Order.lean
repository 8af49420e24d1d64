import BrowserRelay.Proofs.Ledger

/-!
# Messages are passed on in their order

What was written of the client's lines to the processes, and what still waits, is a sublist of
the lines that were taken in.
-/

namespace BrowserRelay

theorem ClientMessage.raw_of_parse {line : String} {message : ClientMessage}
    (parsed : ClientMessage.parse line = .ok message) : message.raw = Text.trim line := by
  unfold ClientMessage.parse at parsed
  dsimp only at parsed
  split at parsed
  case h_1 => simp at parsed
  case h_2 value _ =>
    unfold ClientMessage.ofJson at parsed
    split at parsed
    case h_2 => simp at parsed
    case h_1 =>
      split at parsed
      case h_1 => simp at parsed
      case h_2 =>
        split at parsed
        case h_1 => simp at parsed
        case h_2 =>
          rw [← Except.ok.inj parsed]

namespace Gateway

variable {setup : Setup} {gateway : Gateway}

theorem parse_of_accepted {line : String} {message : ClientMessage}
    (accepted : gateway.accepted? setup (.event (.clientLine line)) = some message) :
    ClientMessage.parse line = .ok message := by
  unfold accepted? at accepted
  dsimp only at accepted
  split at accepted
  case isTrue => simp at accepted
  case isFalse =>
    split at accepted
    case h_1 => simp at accepted
    case h_2 found parsed =>
      have same : found = message := by
        split at accepted
        case isTrue => simp at accepted
        case isFalse =>
          split at accepted
          case isTrue => simp at accepted
          case isFalse => exact Option.some.inj accepted
      rw [← same]
      exact parsed

theorem raw_of_accepted {line : String} {message : ClientMessage}
    (accepted : gateway.accepted? setup (.event (.clientLine line)) = some message) :
    message.raw = Text.trim line :=
  ClientMessage.raw_of_parse (parse_of_accepted accepted)

theorem presentResponse?_bind (setup : Setup) (gateway : Gateway) (generation : Nat)
    (line : String) :
    (gateway.presentResponse? setup generation line).bind Arrival.acceptedId? = none ∧
      (gateway.presentResponse? setup generation line).bind Arrival.takenLine? = none := by
  unfold presentResponse?
  split
  · cases response? setup line with
    | none => exact ⟨rfl, rfl⟩
    | some response => exact ⟨rfl, rfl⟩
  · exact ⟨rfl, rfl⟩

theorem acceptedId?_arrival (setup : Setup) (gateway : Gateway) (step : Step) :
    (gateway.arrival? setup step).bind Arrival.acceptedId? =
      (gateway.accepted? setup step).bind ClientMessage.answerId := by
  cases step with
  | start => rfl
  | elapse timer => rfl
  | meanwhile outside => rfl
  | event event =>
      cases event with
      | clientLine line => simp [arrival?, Option.bind_map, Function.comp_def, Arrival.acceptedId?]
      | serviceOutput generation line =>
          exact (presentResponse?_bind setup gateway generation line).1
      | _ => rfl

theorem takenLine?_arrival (setup : Setup) (gateway : Gateway) (step : Step) :
    (gateway.arrival? setup step).bind Arrival.takenLine? = gateway.forwardedLine? setup step := by
  cases step with
  | start => rfl
  | elapse timer => rfl
  | meanwhile outside => rfl
  | event event =>
      cases event with
      | clientLine line =>
          cases accepted : gateway.accepted? setup (.event (.clientLine line)) with
          | none => simp [forwardedLine?, arrival?, accepted]
          | some message =>
              simp [forwardedLine?, arrival?, accepted, Arrival.takenLine?,
                raw_of_accepted accepted]
      | serviceOutput generation line =>
          exact (presentResponse?_bind setup gateway generation line).2
      | _ => rfl

/-- The deeds of a run tell which requests it accepted and which lines it took in. -/
theorem run_grows (setup : Setup) {gateway : Gateway} (settled : gateway.traffic.IsSettled)
    (steps : List Step) :
    ∃ deeds, Grows gateway.traffic deeds (gateway.run setup steps).traffic ∧
      deeds.filterMap Deed.acceptedId? = acceptedIds setup gateway steps ∧
      deeds.filterMap Deed.takenLine? = forwardedLines setup gateway steps := by
  induction steps generalizing gateway with
  | nil => exact ⟨[], .same rfl rfl rfl, rfl, rfl⟩
  | cons first steps ih =>
      obtain ⟨passage, stillSettled⟩ := passage_step setup gateway first settled
      obtain ⟨deeds, grows, accepted, taken, -⟩ := passage.grows
      obtain ⟨later, further, acceptedLater, takenLater⟩ := ih stillSettled
      refine ⟨deeds ++ later, grows.trans further, ?_, ?_⟩
      · rw [List.filterMap_append, accepted, acceptedLater, acceptedIds, acceptedId?_arrival]
      · rw [List.filterMap_append, taken, takenLater, forwardedLines, takenLine?_arrival]

theorem traffic_initial (setup : Setup) (outside : Outside) :
    (initial setup outside).traffic =
      { state := .noProcess
        generation := 0
        armed := fun _ => none
        written := outside.written
        pending := []
        expired := []
        queue := []
        ledger := [] } := by
  unfold initial
  dsimp only
  split <;> rfl

theorem settled_initial (setup : Setup) (outside : Outside) :
    (initial setup outside).traffic.IsSettled := by
  rw [traffic_initial]
  exact fun _ => rfl

/-- The lines that wait in the queue. -/
def waitingLines (gateway : Gateway) : List String :=
  gateway.traffic.waitingLines

theorem settled_after (setup : Setup) (outside : Outside) (steps : List Step) :
    (after setup outside steps).traffic.IsSettled :=
  run_induction (fun gateway step settled => (passage_step setup gateway step settled).2)
    (settled_initial setup outside) steps

/-- From any point of a run on, what is passed on and what waits in the end is a sublist of what
waited at that point and what was taken in since. -/
theorem order_since (setup : Setup) (outside : Outside) (first second : List Step) :
    ∃ deeds,
      (after setup outside (first ++ second)).ledger = (after setup outside first).ledger ++ deeds ∧
      (deeds.filterMap Deed.passedLine? ++
          (after setup outside (first ++ second)).waitingLines).Sublist
        ((after setup outside first).waitingLines ++
          forwardedLines setup (after setup outside first) second) := by
  obtain ⟨deeds, grows, -, taken⟩ := run_grows setup (settled_after setup outside first) second
  have joined : after setup outside (first ++ second) =
      (after setup outside first).run setup second :=
    run_append setup (initial setup outside) first second
  rw [joined]
  exact ⟨deeds, grows.ledger, taken ▸ grows.order⟩

/-- The lines of the client that were ever written to a process, followed by those that wait,
are a sublist of the trimmed lines that were taken in: each is written at most once, byte for
byte, in the order of arrival, whatever becomes of the processes, and what waits lies behind all
that was written.  The same holds from any point of the run on.  What the processes received is
what the ledger says, and when the service is ready nothing waits. -/
theorem lines_are_passed_on_in_order (setup : Setup) (outside : Outside) (steps : List Step) :
    let gateway := after setup outside steps
    gateway.outside.written = outside.written ++ gateway.ledger.filterMap Deed.write? ∧
      (gateway.ledger.filterMap Deed.passedLine? ++ gateway.waitingLines).Sublist
        (forwardedLines setup (initial setup outside) steps) ∧
      (gateway.state = .ready → gateway.queue = []) ∧
      ∀ first second, steps = first ++ second →
        ∃ deeds, gateway.ledger = (after setup outside first).ledger ++ deeds ∧
          (deeds.filterMap Deed.passedLine? ++ gateway.waitingLines).Sublist
            ((after setup outside first).waitingLines ++
              forwardedLines setup (after setup outside first) second) := by
  intro gateway
  obtain ⟨deeds, grows, -, taken⟩ := run_grows setup (settled_initial setup outside) steps
  have ledger : gateway.ledger = deeds := by
    have all := grows.ledger
    rwa [traffic_initial] at all
  have written : gateway.outside.written = outside.written ++ deeds.filterMap Deed.write? := by
    have all := grows.written
    rwa [traffic_initial] at all
  have order := grows.order
  rw [traffic_initial, taken] at order
  refine ⟨by rw [written, ledger], ?_, settled_after setup outside steps, ?_⟩
  · rw [ledger]
    exact order
  · rintro first second rfl
    exact order_since setup outside first second

end Gateway

end BrowserRelay
