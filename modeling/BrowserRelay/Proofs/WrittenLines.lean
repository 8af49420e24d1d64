import BrowserRelay.Proofs.CompactText
import BrowserRelay.Proofs.Framing
import BrowserRelay.Proofs.LoopSteps
import BrowserRelay.Proofs.Readiness
import BrowserRelay.Proofs.Replies

/-!
# Every message is a line of its own

What the relay writes to a process or to the client is compact JSON, or the trimmed line of
someone else that could be read as JSON.  Where no line that comes in is broken, none that goes
out is, and none is empty or ends with a carriage return.
-/

namespace BrowserRelay

/-! ## The lines that are written -/

namespace Text

/-- A line that says something. -/
def IsMessage (line : String) : Prop := line ≠ "" ∧ IsLine line

theorem mem_trimBlanks {text : List Char} {character : Char}
    (listed : character ∈ trimBlanks text) : character ∈ text := by
  rw [trimBlanks, List.mem_reverse] at listed
  have kept := (List.dropWhile_sublist isBlank).mem listed
  exact (List.dropWhile_sublist isBlank).mem (List.mem_reverse.mp kept)

theorem isBlank_getLast?_trimBlanks {text : List Char} {last : Char}
    (ends : (trimBlanks text).getLast? = some last) : isBlank last = false := by
  rw [trimBlanks, List.getLast?_reverse] at ends
  have first := List.head?_dropWhile_not isBlank (text.dropWhile isBlank).reverse
  rw [ends] at first
  exact first

theorem isLine_trim {line : String} (unbroken : '\n' ∉ line.toList) :
    IsLine (trim line) where
  unbroken := by
    rw [trim, String.toList_ofList]
    exact fun listed => unbroken (mem_trimBlanks listed)
  uncut := by
    rw [trim, String.toList_ofList]
    exact fun ends => absurd (isBlank_getLast?_trimBlanks ends) (by decide)

end Text

theorem Json.ne_empty_of_parse {text : String} {value : Json}
    (parsed : Json.parse text = .ok value) : text ≠ "" := by
  rintro rfl
  obtain ⟨error, unread⟩ : ∃ error, Json.parse "" = .error error := ⟨_, rfl⟩
  cases parsed.symm.trans unread

theorem Json.IsCompact.isMessage {line : String} (compact : Json.IsCompact line) :
    Text.IsMessage line := by
  obtain ⟨value, rfl⟩ := compact
  have uncontrolled := isUncontrolled_compact value
  refine ⟨?_, uncontrolled.not_mem (by decide), fun ends => ?_⟩
  · rw [Json.compact, ne_eq, String.ofList_eq_empty_iff]
    exact compactChars_ne_nil value
  · exact uncontrolled.not_mem (by decide) (List.mem_of_getLast? ends)

theorem ClientMessage.isMessage_trim {line : String} {message : ClientMessage}
    (parsed : ClientMessage.parse line = .ok message) (unbroken : '\n' ∉ line.toList) :
    Text.IsMessage (Text.trim line) := by
  refine ⟨?_, Text.isLine_trim unbroken⟩
  unfold ClientMessage.parse at parsed
  dsimp only at parsed
  split at parsed
  case h_1 => simp at parsed
  case h_2 read => exact Json.ne_empty_of_parse read

theorem ServiceMessage.Relays.isMessage {line raw : String}
    (relays : ServiceMessage.Relays line raw) (unbroken : '\n' ∉ line.toList) :
    Text.IsMessage raw := by
  obtain ⟨rfl, message, parsed⟩ := relays
  refine ⟨?_, Text.isLine_trim unbroken⟩
  unfold ServiceMessage.parse at parsed
  split at parsed
  case h_1 => simp at parsed
  case h_2 read => exact Json.ne_empty_of_parse read
  case h_3 => simp at parsed

/-! ## Lines that go out -/

/-- Only messages were written to the processes and to the client. -/
structure OnlyMessages (before after : Outside) : Prop where
  written : ∃ writes, after.written = before.written ++ writes ∧
    ∀ write ∈ writes, Text.IsMessage write.line
  replies : ∃ lines, after.replies = before.replies ++ lines ∧
    ∀ line ∈ lines, Text.IsMessage line

namespace OnlyMessages

theorem same {before after : Outside} (written : after.written = before.written)
    (replies : after.replies = before.replies) : OnlyMessages before after :=
  ⟨⟨[], by simp [written], by simp⟩, ⟨[], by simp [replies], by simp⟩⟩

theorem trans {before middle after : Outside} (first : OnlyMessages before middle)
    (second : OnlyMessages middle after) : OnlyMessages before after := by
  obtain ⟨⟨writes, written, areMessages⟩, ⟨lines, replies, areToo⟩⟩ := first
  obtain ⟨⟨more, writtenLater, areMore⟩, ⟨others, repliesLater, areOthers⟩⟩ := second
  refine ⟨⟨writes ++ more, ?_, ?_⟩, ⟨lines ++ others, ?_, ?_⟩⟩
  · rw [writtenLater, written, List.append_assoc]
  · exact List.forall_mem_append.mpr ⟨areMessages, areMore⟩
  · rw [repliesLater, replies, List.append_assoc]
  · exact List.forall_mem_append.mpr ⟨areToo, areOthers⟩

end OnlyMessages

/-- Of lines that are sent, those arrive that are not lost. -/
theorem exists_replies_replyAll (outside : Outside) (lines : List String) :
    ∃ sent, (outside.replyAll lines).replies = outside.replies ++ sent ∧ sent.Sublist lines := by
  induction lines generalizing outside with
  | nil => exact ⟨[], by simp [Outside.replyAll], List.Sublist.refl []⟩
  | cons line lines ih =>
      obtain ⟨replies, -⟩ := Prod.mk.inj (outside.voice_reply line)
      obtain ⟨sent, later, behind⟩ := ih (outside.reply line)
      have all : (outside.replyAll (line :: lines)).replies = outside.replies ++
          ((if outside.replyOutcomes.next = none then [line] else []) ++ sent) := by
        rw [← List.append_assoc, ← replies]
        exact later
      refine ⟨_, all, ?_⟩
      split
      · exact behind.cons_cons line
      · exact behind.cons line

/-! ## Lines that come in -/

/-- The line of the client or of a process that comes in with a turn. -/
def Turn.incomingLine? : Turn → Option String
  | .step (.event (.clientLine line)) => some line
  | .step (.event (.serviceOutput _ line)) => some line
  | _ => none

namespace Gateway

variable {setup : Setup} {gateway : Gateway}

section Incoming

variable {step : Step} {raw : String}
  (unbroken : ∀ line, Turn.incomingLine? (.step step) = some line → '\n' ∉ line.toList)
include unbroken

theorem isMessage_of_relays (relays : Relays step raw) : Text.IsMessage raw := by
  cases step with
  | event event =>
      cases event with
      | serviceOutput generation line =>
          exact ServiceMessage.Relays.isMessage relays (unbroken line rfl)
      | _ => exact relays.elim
  | _ => exact relays.elim

theorem isMessage_of_forwarded
    (forwarded : gateway.forwardedLine? setup step = some raw) : Text.IsMessage raw := by
  cases step with
  | event event =>
      cases event with
      | clientLine line =>
          unfold forwardedLine? at forwarded
          dsimp only at forwarded
          split at forwarded
          case h_1 => simp at forwarded
          case h_2 message accepted =>
            split at forwarded
            case isTrue =>
              obtain rfl := Option.some.inj forwarded
              exact ClientMessage.isMessage_trim (parse_of_accepted accepted) (unbroken line rfl)
            case isFalse => simp at forwarded
      | _ => simp [forwardedLine?] at forwarded
  | _ => simp [forwardedLine?] at forwarded

end Incoming

/-- If only messages wait, only messages are written in a step, and only messages wait then. -/
theorem onlyMessages_step {step : Step} (settled : gateway.traffic.IsSettled)
    (waiting : ∀ line ∈ gateway.waitingLines, Text.IsMessage line)
    (unbroken : ∀ line, Turn.incomingLine? (.step step) = some line → '\n' ∉ line.toList) :
    OnlyMessages gateway.outside (gateway.step setup step).outside ∧
      ∀ line ∈ (gateway.step setup step).waitingLines, Text.IsMessage line := by
  obtain ⟨deeds, grows, -, taken, -⟩ := (passage_step setup gateway step settled).1.grows
  have worded := worded_step grows.ledger
  -- What is passed on or goes on waiting has waited before or comes in now.
  have incoming : ∀ line ∈ gateway.waitingLines ++ deeds.filterMap Deed.takenLine?,
      Text.IsMessage line := by
    rw [taken, takenLine?_arrival]
    exact List.forall_mem_append.mpr ⟨waiting, fun line forwarded =>
      isMessage_of_forwarded unbroken (Option.mem_toList.mp forwarded)⟩
  obtain ⟨passed, waits⟩ : (∀ line ∈ deeds.filterMap Deed.passedLine?, Text.IsMessage line) ∧
      ∀ line ∈ (gateway.step setup step).waitingLines, Text.IsMessage line :=
    List.forall_mem_append.mp fun line listed => incoming line (grows.order.mem listed)
  have written : ∀ write ∈ deeds.filterMap Deed.write?, Text.IsMessage write.line := by
    intro write listed
    obtain ⟨deed, done, writes⟩ := List.mem_filterMap.mp listed
    cases deed with
    | written generation entry =>
        obtain rfl := Option.some.inj writes
        exact passed entry.line (List.mem_filterMap.mpr ⟨_, done, rfl⟩)
    | probed generation id line =>
        obtain rfl := Option.some.inj writes
        exact Json.IsCompact.isMessage (worded _ done)
    | _ => simp [Deed.write?] at writes
  have replied : ∀ line ∈ deeds.filterMap Deed.reply?, Text.IsMessage line := by
    intro line listed
    obtain ⟨deed, done, reply⟩ := List.mem_filterMap.mp listed
    rcases (worded deed done).of_reply? reply with compact | relayed
    · exact compact.isMessage
    · exact isMessage_of_relays unbroken relayed
  obtain ⟨sent, replies, among⟩ :=
    exists_replies_replyAll gateway.outside (deeds.filterMap Deed.reply?)
  exact ⟨⟨⟨_, grows.written, written⟩, ⟨sent, (replies_step grows.ledger).trans replies,
    fun line listed => replied line (among.mem listed)⟩⟩, waits⟩

theorem onlyMessages_turn {turn : Turn} (settled : gateway.traffic.IsSettled)
    (waiting : ∀ line ∈ gateway.waitingLines, Text.IsMessage line)
    (unbroken : ∀ line, turn.incomingLine? = some line → '\n' ∉ line.toList) :
    OnlyMessages gateway.outside (gateway.turn setup turn).outside ∧
      ∀ line ∈ (gateway.turn setup turn).waitingLines, Text.IsMessage line := by
  cases turn with
  | step step => exact onlyMessages_step settled waiting unbroken
  | terminate =>
      have replies := congrArg Prod.fst gateway.voice_terminate
      exact ⟨.same (Host.written_terminate _) replies, waiting⟩

theorem onlyMessages_afterTurns (setup : Setup) (outside : Outside) {turns : List Turn}
    (unbroken : ∀ line ∈ turns.filterMap Turn.incomingLine?, '\n' ∉ line.toList) :
    OnlyMessages outside (afterTurns setup outside turns).outside ∧
      ∀ line ∈ (afterTurns setup outside turns).waitingLines, Text.IsMessage line := by
  induction turns using List.reverseRecOn with
  | nil =>
      have start := traffic_initial setup outside
      have replies : (initial setup outside).outside.replies = outside.replies := by
        unfold initial
        dsimp only
        split <;> rfl
      refine ⟨.same (congrArg Traffic.written start) replies, ?_⟩
      have nobody : (afterTurns setup outside []).waitingLines = [] :=
        congrArg Traffic.waitingLines start
      simp [nobody]
  | append_singleton turns turn ih =>
      rw [List.filterMap_append] at unbroken
      obtain ⟨earlier, last⟩ := List.forall_mem_append.mp unbroken
      obtain ⟨before, waiting⟩ := ih earlier
      rw [afterTurns_concat]
      obtain ⟨now, waits⟩ := onlyMessages_turn (settled_afterTurns setup outside turns) waiting
        fun line incoming => last line (List.mem_filterMap.mpr ⟨turn, by simp, incoming⟩)
      exact ⟨before.trans now, waits⟩

/-- If no line that comes in is broken, every line that is written to a process or to the client
says something, holds no line feed and does not end with a carriage return.  Lines without line
feeds, and without carriage returns at their ends, are read from the bytes they are written in as
they were.  From any bytes a line is read that takes at least one of them, unless they are at
their end. -/
theorem messages_are_lines (setup : Setup) (outside : Outside) (turns : List Turn)
    (unbroken : ∀ line ∈ turns.filterMap Turn.incomingLine?, '\n' ∉ line.toList) :
    let gateway := afterTurns setup outside turns
    (∃ writes, gateway.outside.written = outside.written ++ writes ∧
        ∀ write ∈ writes, write.line ≠ "" ∧ Text.IsLine write.line) ∧
      (∃ lines, gateway.outside.replies = outside.replies ++ lines ∧
        ∀ line ∈ lines, line ≠ "" ∧ Text.IsLine line) ∧
      (∀ lines, (∀ line ∈ lines, Text.IsLine line) → Text.linesOf (Text.stream lines) = lines) ∧
      ∀ bytes, (bytes = [] ∧ Text.nextLine bytes = none) ∨
        ∃ line taken after, Text.nextLine bytes = some (line, after) ∧ taken ≠ [] ∧
          bytes = taken ++ after := by
  intro gateway
  obtain ⟨⟨written, replies⟩, -⟩ := onlyMessages_afterTurns setup outside unbroken
  refine ⟨written, replies, fun lines areLines => ?_, Text.nextLine_cases⟩
  have read := Text.linesOf_stream_append areLines []
  rwa [Text.linesOf_nil, List.append_nil, List.append_nil] at read

/-- A call and its response, both with blanks around them and a carriage return at the end. -/
theorem messages_of_a_call_are_lines :
    let setup : Setup := { launch := ⟨"npx", [], none⟩ }
    let turns :=
      [.step .start, .step (.event (.serviceOutput 1 "\x7b\"id\":\"health_check_1\"\x7d\r")),
        .step (.event (.clientLine " \x7b\"id\":1,\"method\":\"page/content\"\x7d \r")),
        Turn.step (.event (.serviceOutput 1 "\t\x7b\"id\":1,\"result\":\"\"\x7d\r"))]
    let gateway := afterTurns setup {} turns
    let outside : Outside := {}
    (∀ line ∈ turns.filterMap Turn.incomingLine?, '\n' ∉ line.toList) ∧
      (∃ writes, gateway.outside.written = outside.written ++ writes ∧
        ∀ write ∈ writes, write.line ≠ "" ∧ Text.IsLine write.line) ∧
      ∃ lines, gateway.outside.replies = outside.replies ++ lines ∧
        ∀ line ∈ lines, line ≠ "" ∧ Text.IsLine line :=
  have all := messages_are_lines { launch := ⟨"npx", [], none⟩ } {}
    [.step .start, .step (.event (.serviceOutput 1 "\x7b\"id\":\"health_check_1\"\x7d\r")),
      .step (.event (.clientLine " \x7b\"id\":1,\"method\":\"page/content\"\x7d \r")),
      .step (.event (.serviceOutput 1 "\t\x7b\"id\":1,\"result\":\"\"\x7d\r"))] (by decide)
  ⟨by decide, all.1, all.2.1⟩

end Gateway

end BrowserRelay
