import BrowserRelay.Proofs.History
import BrowserRelay.Proofs.ReadBack
import BrowserRelay.Proofs.WrittenLines
import Mathlib.Data.List.TakeWhile

/-!
# Lines of the client that are rejected

A line of the client is read just far enough to route it.  A line that is no message, or a
request whose identifier may not be used, goes no further: the client is told so, and nothing
else becomes different.  Every other line is accepted.
-/

namespace BrowserRelay

theorem Text.isBlankText_iff {text : String} : isBlankText text = true ↔ trim text = "" := by
  rw [trim, String.ofList_eq_empty_iff, isBlankText, List.all_eq_true, trimBlanks,
    List.reverse_eq_nil_iff, List.dropWhile_eq_nil_iff]
  constructor
  · intro blank character listed
    exact blank character ((List.dropWhile_sublist isBlank).mem (List.mem_reverse.mp listed))
  · intro blank
    -- What is left in front of the reversed list would begin with a character that is not blank.
    have gone : text.toList.dropWhile isBlank = [] := by
      cases rest : text.toList.dropWhile isBlank with
      | nil => rfl
      | cons first others =>
          have kept := List.head?_dropWhile_not isBlank text.toList
          have isFirst : isBlank first = true := blank first (by simp [rest])
          simp [rest, isFirst] at kept
    exact List.dropWhile_eq_nil_iff.mp gone

/-- The error that a caller is told. -/
structure Rejection where
  id : Option RequestId
  code : Int
  message : String
  deriving DecidableEq

namespace Rejection

def line (rejection : Rejection) : String :=
  Envelope.errorLine rejection.id rejection.code rejection.message

/-- What the caller is told about a failure. -/
def of (id : Option RequestId) : Failure → Rejection
  | .parse _ => ⟨none, -32700, "Parse error"⟩
  | .invalidRequest detail => ⟨id, -32600, "Invalid Request: " ++ detail⟩
  | .timeout milliseconds => ⟨id, -32001, (Failure.timeout milliseconds).message⟩
  | other => ⟨id, -32603, other.message⟩

theorem line_of (id : Option RequestId) (failure : Failure) :
    (Rejection.of id failure).line = Envelope.errorLineFor id failure := by
  cases failure <;> rfl

end Rejection

/-! ## Which lines are messages -/

namespace ClientMessage

/-- A line is an object with the given members. -/
def Shows (line : String) (members : List (String × Json)) : Prop :=
  Json.parse (Text.trim line) = .ok (.object members)

/-- The identifier that a member of that name gives to a message.  It is a text or a 64-bit
integer; `null` counts as none. -/
inductive ReadsId : Option Json → Option RequestId → Prop where
  | missing : ReadsId none none
  | null : ReadsId (some .null) none
  | text (value : String) : ReadsId (some (.string value)) (some (.text value))
  | number (value : Int64) :
      ReadsId (some (.number (.integer value.toInt))) (some (.number value))

/-- The method that a member of that name gives to a message. -/
inductive ReadsMethod : Option Json → Option String → Prop where
  | missing : ReadsMethod none none
  | text (value : String) : ReadsMethod (some (.string value)) (some value)

/-- What is read from a line that is a message. -/
inductive Reads (line : String) : ClientMessage → Prop where
  | message {members : List (String × Json)} {id : Option RequestId} {method : Option String}
      (object : Shows line members) (readsId : ReadsId (members.lookup "id") id)
      (readsMethod : ReadsMethod (members.lookup "method") method) :
      Reads line ⟨id, method, (members.lookup "params").getD .null, Text.trim line⟩

theorem Reads.shown {line : String} {message : ClientMessage} (reads : Reads line message) :
    Text.trim line ≠ "" := by
  obtain ⟨object, -, -⟩ := reads
  exact Json.ne_empty_of_parse object

/-- What is wrong with a line that is no message.  The first fault counts. -/
inductive IsUnread (line : String) : Rejection → Prop where
  | noJson {error : ReadError Json.ReadFault}
      (unread : Json.parse (Text.trim line) = .error error) :
      IsUnread line ⟨none, -32700, "Parse error"⟩
  | noObject {value : Json} (read : Json.parse (Text.trim line) = .ok value)
      (other : ∀ members, value ≠ .object members) :
      IsUnread line ⟨none, -32600, "Invalid Request: message must be a JSON object"⟩
  | noId {members : List (String × Json)} (object : Shows line members)
      (unread : ∀ id, ¬ ReadsId (members.lookup "id") id) :
      IsUnread line ⟨none, -32600, "Invalid Request: id must be a string or an integer"⟩
  | noMethod {members : List (String × Json)} {id : Option RequestId}
      (object : Shows line members) (readsId : ReadsId (members.lookup "id") id)
      (unread : ∀ method, ¬ ReadsMethod (members.lookup "method") method) :
      IsUnread line ⟨none, -32600, "Invalid Request: method must be a string"⟩

theorem readsId_of_ofJson? {value : Json} {id : RequestId}
    (read : RequestId.ofJson? value = some id) : ReadsId (some value) (some id) := by
  unfold RequestId.ofJson? at read
  split at read
  case h_1 text =>
    obtain rfl := Option.some.inj read
    exact .text text
  case h_2 number =>
    split at read
    case isTrue fits =>
      obtain rfl := Option.some.inj read
      have below : number < 2 ^ 63 := Int.lt_of_le_of_lt fits.2 (by decide)
      have reads := ReadsId.number (Int64.ofInt number)
      rwa [Int64.toInt_ofInt_of_le fits.1 below] at reads
    case isFalse => cases read
  case h_3 => cases read

theorem readId_of_reads {members : List (String × Json)} {id : Option RequestId}
    (reads : ReadsId (members.lookup "id") id) : readId (.object members) = .ok id := by
  have member : (Json.object members).get? "id" = members.lookup "id" := rfl
  unfold readId
  rw [member]
  generalize members.lookup "id" = member at reads
  cases reads with
  | missing => rfl
  | null => rfl
  | text value => rfl
  | number value =>
      have read := RequestId.ofJson?_toJson (.number value)
      rw [RequestId.toJson] at read
      simp only [read]

theorem readId_of_unread {members : List (String × Json)}
    (unread : ∀ id, ¬ ReadsId (members.lookup "id") id) :
    readId (.object members) = .error (.invalidRequest "id must be a string or an integer") := by
  have member : (Json.object members).get? "id" = members.lookup "id" := rfl
  unfold readId
  rw [member]
  cases listed : members.lookup "id" with
  | none => exact absurd (listed ▸ .missing) (unread none)
  | some value =>
      rw [listed] at unread
      cases read : RequestId.ofJson? value with
      | some id => exact absurd (readsId_of_ofJson? read) (unread (some id))
      | none =>
          cases value with
          | null => exact absurd .null (unread none)
          | _ => simp only [read]

theorem readMethod_of_reads {members : List (String × Json)} {method : Option String}
    (reads : ReadsMethod (members.lookup "method") method) :
    readMethod (.object members) = .ok method := by
  have member : (Json.object members).get? "method" = members.lookup "method" := rfl
  unfold readMethod
  rw [member]
  generalize members.lookup "method" = member at reads
  cases reads <;> rfl

theorem readMethod_of_unread {members : List (String × Json)}
    (unread : ∀ method, ¬ ReadsMethod (members.lookup "method") method) :
    readMethod (.object members) = .error (.invalidRequest "method must be a string") := by
  have member : (Json.object members).get? "method" = members.lookup "method" := rfl
  unfold readMethod
  rw [member]
  cases listed : members.lookup "method" with
  | none => exact absurd (listed ▸ .missing) (unread none)
  | some value =>
      cases value with
      | string text => exact absurd (listed ▸ .text text) (unread (some text))
      | _ => rfl

theorem parse_of_reads {line : String} {message : ClientMessage} (reads : Reads line message) :
    parse line = .ok message := by
  obtain ⟨object, isId, isMethod⟩ := reads
  have read : Json.parse (Text.trim line) = _ := object
  simp only [parse, read, ofJson, readId_of_reads isId, readMethod_of_reads isMethod, Json.get?]

/-- The compact text of an object with an identifier and a method is a message. -/
theorem parse_of_compact {line : String} {members : List (String × Json)}
    {id : Option RequestId} {method : Option String}
    (back : (Json.object members).ReadsBack Json.depthLimit) (trimmed : Text.trim line = line)
    (text : line = (Json.object members).compact) (isId : ReadsId (members.lookup "id") id)
    (isMethod : ReadsMethod (members.lookup "method") method) :
    parse line = .ok ⟨id, method, (members.lookup "params").getD .null, line⟩ := by
  have object : Shows line members := by
    rw [Shows, trimmed, text]
    exact Json.parse_compact back
  have parsed := parse_of_reads (.message object isId isMethod)
  rwa [trimmed] at parsed

theorem parse_of_isUnread {line : String} {rejection : Rejection} (unread : IsUnread line rejection) :
    ∃ failure, parse line = .error failure ∧ rejection = .of none failure := by
  cases unread with
  | @noJson error unread => exact ⟨.parse (.json error), by simp only [parse, unread], rfl⟩
  | noObject read other =>
      refine ⟨.invalidRequest "message must be a JSON object", ?_, rfl⟩
      simp only [parse, read]
      unfold ofJson
      split
      case h_1 members => exact absurd rfl (other members)
      case h_2 => rfl
  | noId object unread =>
      have read : Json.parse (Text.trim line) = _ := object
      refine ⟨.invalidRequest "id must be a string or an integer", ?_, rfl⟩
      simp only [parse, read, ofJson, readId_of_unread unread]
  | noMethod object isId unread =>
      have read : Json.parse (Text.trim line) = _ := object
      refine ⟨.invalidRequest "method must be a string", ?_, rfl⟩
      simp only [parse, read, ofJson, readId_of_reads isId, readMethod_of_unread unread]

theorem reads_or_isUnread (line : String) :
    (∃ message, Reads line message) ∨ ∃ rejection, IsUnread line rejection := by
  cases read : Json.parse (Text.trim line) with
  | error error => exact .inr ⟨_, .noJson read⟩
  | ok value =>
      by_cases object : ∃ members, value = .object members
      · obtain ⟨members, rfl⟩ := object
        by_cases isId : ∃ id, ReadsId (members.lookup "id") id
        · obtain ⟨id, isId⟩ := isId
          by_cases isMethod : ∃ method, ReadsMethod (members.lookup "method") method
          · obtain ⟨method, isMethod⟩ := isMethod
            exact .inl ⟨_, .message read isId isMethod⟩
          · exact .inr ⟨_, .noMethod read isId (not_exists.mp isMethod)⟩
        · exact .inr ⟨_, .noId read (not_exists.mp isId)⟩
      · exact .inr ⟨_, .noObject read (not_exists.mp object)⟩

/-- The lines that can be read are the messages, and what is read from them is what they
say. -/
theorem parse_eq_ok_iff {line : String} {message : ClientMessage} :
    parse line = .ok message ↔ Reads line message := by
  constructor
  · intro read
    rcases reads_or_isUnread line with ⟨other, reads⟩ | ⟨rejection, unread⟩
    · obtain rfl := Except.ok.inj ((parse_of_reads reads).symm.trans read)
      exact reads
    · obtain ⟨failure, failed, -⟩ := parse_of_isUnread unread
      cases failed.symm.trans read
  · exact parse_of_reads

theorem parse_eq_error_iff {line : String} {rejection : Rejection} :
    (∃ failure, parse line = .error failure ∧ rejection = .of none failure) ↔
      IsUnread line rejection := by
  constructor
  · rintro ⟨failure, failed, rfl⟩
    rcases reads_or_isUnread line with ⟨message, reads⟩ | ⟨other, unread⟩
    · cases failed.symm.trans (parse_of_reads reads)
    · obtain ⟨same, again, rfl⟩ := parse_of_isUnread unread
      obtain rfl := Except.error.inj (failed.symm.trans again)
      exact unread
  · exact parse_of_isUnread

end ClientMessage

/-! ## Which messages are accepted -/

namespace Gateway

variable {setup : Setup} {gateway : Gateway}

/-- An identifier is a text that begins like those of the probes. -/
def IsReserved (setup : Setup) (id : RequestId) : Prop :=
  ∃ text, id = .text text ∧ setup.settings.health.idPrefix.toList <+: text.toList

/-- A request with an identifier is pending or waits in the queue. -/
def IsInFlight (gateway : Gateway) (id : RequestId) : Prop :=
  (∃ call ∈ gateway.pending, call.id = id) ∨ ∃ entry ∈ gateway.queue, entry.id = some id

/-- A line of the client goes no further, and the client is told an error, or nothing if the
line is blank. -/
inductive Rejects (gateway : Gateway) (setup : Setup) (line : String) :
    Option Rejection → Prop where
  | blank (blank : Text.trim line = "") : gateway.Rejects setup line none
  | unread {rejection : Rejection} (shown : Text.trim line ≠ "")
      (unread : ClientMessage.IsUnread line rejection) :
      gateway.Rejects setup line (some rejection)
  | reserved {message : ClientMessage} {id : RequestId} (reads : ClientMessage.Reads line message)
      (request : message.answerId = some id) (reserved : IsReserved setup id) :
      gateway.Rejects setup line (some ⟨some id, -32600,
        "Invalid Request: id prefix " ++ setup.settings.health.idPrefix ++ " is reserved"⟩)
  | inFlight {message : ClientMessage} {id : RequestId} (reads : ClientMessage.Reads line message)
      (request : message.answerId = some id) (other : ¬ IsReserved setup id)
      (inFlight : gateway.IsInFlight id) :
      gateway.Rejects setup line (some ⟨some id, -32600,
        "Invalid Request: request id " ++ id.display ++ " is already in flight"⟩)

/-- The client is told an error, and the run log is told why; all else is as it was. -/
structure OnlyTells (before : Gateway) (rejection : Rejection) (later : Gateway) : Prop where
  rest : later = { before with
    ledger := before.ledger ++ [.told rejection.line]
    outside := later.outside }
  said : before.outside.Says [rejection.line] later.outside

theorem isProbeId_iff {id : RequestId} :
    Exchange.isProbeId setup id = true ↔ IsReserved setup id := by
  cases id with
  | number value => simp [Exchange.isProbeId, RequestId.asText?, IsReserved]
  | text text => simp [Exchange.isProbeId, RequestId.asText?, IsReserved]

theorem isInFlight_iff {id : RequestId} :
    (gateway.toExchange.isPending id || RequestQueue.contains gateway.queue id) = true ↔
      gateway.IsInFlight id := by
  simp [Exchange.isPending, CallTable.find?, RequestQueue.contains, RequestQueue.hasId, IsInFlight]

theorem idRefusal_reserved {id : RequestId} (reserved : IsReserved setup id) :
    gateway.idRefusal setup id = some (.invalidRequest
      ("id prefix " ++ setup.settings.health.idPrefix ++ " is reserved")) := by
  rw [idRefusal, if_pos (isProbeId_iff.mpr reserved)]

theorem idRefusal_inFlight {id : RequestId} (other : ¬ IsReserved setup id)
    (inFlight : gateway.IsInFlight id) :
    gateway.idRefusal setup id = some (.invalidRequest
      ("request id " ++ id.display ++ " is already in flight")) := by
  rw [idRefusal, if_neg (mt isProbeId_iff.mp other), if_pos (isInFlight_iff.mpr inFlight)]

theorem idRefusal_free {id : RequestId} (other : ¬ IsReserved setup id)
    (free : ¬ gateway.IsInFlight id) : gateway.idRefusal setup id = none := by
  rw [idRefusal, if_neg (mt isProbeId_iff.mp other), if_neg (mt isInFlight_iff.mp free)]

theorem onlyTells_tell_note (gateway : Gateway) (type : String) (payload : List (String × Json))
    (rejection : Rejection) :
    gateway.OnlyTells rejection ((gateway.note .warning type payload).tell rejection.line) :=
  ⟨rfl, (Outside.Says.note gateway.outside .warning type payload).trans (.reply _ _)⟩

theorem handleClientLine_blank {line : String} (blank : Text.trim line = "") :
    gateway.handleClientLine setup line = gateway := by
  simp only [handleClientLine, Text.isBlankText_iff.mpr blank, if_true]

theorem handleClientLine_unread {line : String} {rejection : Rejection}
    (shown : Text.trim line ≠ "") (unread : ClientMessage.IsUnread line rejection) :
    gateway.OnlyTells rejection (gateway.handleClientLine setup line) := by
  obtain ⟨failure, failed, rfl⟩ := ClientMessage.parse_of_isUnread unread
  have notBlank : ¬ Text.isBlankText line = true := mt Text.isBlankText_iff.mp shown
  simp only [handleClientLine, notBlank, failed, Bool.false_eq_true, if_false, ← Rejection.line_of]
  exact onlyTells_tell_note gateway _ _ _

theorem handleClientLine_reads {line : String} {message : ClientMessage}
    (reads : ClientMessage.Reads line message) :
    gateway.handleClientLine setup line = gateway.handleMessage setup message := by
  have read : ClientMessage.parse line = .ok message := ClientMessage.parse_of_reads reads
  have notBlank : ¬ Text.isBlankText line = true := mt Text.isBlankText_iff.mp reads.shown
  simp only [handleClientLine, notBlank, read, Bool.false_eq_true, if_false]

theorem handleMessage_onlyTells {message : ClientMessage} {id : RequestId} {failure : Failure}
    (request : message.answerId = some id) (refused : gateway.idRefusal setup id = some failure) :
    gateway.OnlyTells (.of (some id) failure) (gateway.handleMessage setup message) := by
  simp only [handleMessage, request, refused, ← Rejection.line_of]
  exact onlyTells_tell_note gateway _ _ _

/-- What the gateway finds a line to be: whether it is rejected, and what is told then. -/
def verdict (gateway : Gateway) (setup : Setup) (line : String) : Option (Option Rejection) :=
  if Text.isBlankText line then some none
  else
    match ClientMessage.parse line with
    | .error failure => some (some (.of none failure))
    | .ok message =>
        message.answerId.bind fun id =>
          (gateway.idRefusal setup id).map fun failure => some (.of (some id) failure)

theorem verdict_unread {line : String} {failure : Failure} (shown : Text.trim line ≠ "")
    (failed : ClientMessage.parse line = .error failure) :
    gateway.verdict setup line = some (some (.of none failure)) := by
  have notBlank : ¬ Text.isBlankText line = true := mt Text.isBlankText_iff.mp shown
  simp only [verdict, notBlank, failed, Bool.false_eq_true, if_false]

theorem verdict_reads {line : String} {message : ClientMessage}
    (reads : ClientMessage.Reads line message) :
    gateway.verdict setup line = message.answerId.bind fun id =>
      (gateway.idRefusal setup id).map fun failure => some (.of (some id) failure) := by
  have read : ClientMessage.parse line = .ok message := ClientMessage.parse_of_reads reads
  have notBlank : ¬ Text.isBlankText line = true := mt Text.isBlankText_iff.mp reads.shown
  simp only [verdict, notBlank, read, Bool.false_eq_true, if_false]

/-- The lines that are rejected are those that the gateway finds at fault. -/
theorem rejects_iff {line : String} {rejection : Option Rejection} :
    gateway.Rejects setup line rejection ↔ gateway.verdict setup line = some rejection := by
  constructor
  · intro rejects
    cases rejects with
    | blank blank => simp only [verdict, Text.isBlankText_iff.mpr blank, if_true]
    | unread shown unread =>
        obtain ⟨failure, failed, rfl⟩ := ClientMessage.parse_of_isUnread unread
        exact verdict_unread shown failed
    | reserved reads request reserved =>
        rw [verdict_reads reads, request, Option.bind_some, idRefusal_reserved reserved]
        rfl
    | inFlight reads request other inFlight =>
        rw [verdict_reads reads, request, Option.bind_some, idRefusal_inFlight other inFlight]
        rfl
  · intro found
    by_cases blank : Text.trim line = ""
    · simp only [verdict, Text.isBlankText_iff.mpr blank, if_true, Option.some.injEq] at found
      exact found ▸ .blank blank
    cases parsed : ClientMessage.parse line with
    | error failure =>
        rw [verdict_unread blank parsed] at found
        exact Option.some.inj found ▸
          .unread blank (ClientMessage.parse_eq_error_iff.mp ⟨failure, parsed, rfl⟩)
    | ok message =>
        have reads : ClientMessage.Reads line message := ClientMessage.parse_eq_ok_iff.mp parsed
        rw [verdict_reads reads] at found
        obtain ⟨id, request, refused⟩ := Option.bind_eq_some_iff.mp found
        by_cases reserved : IsReserved setup id
        · rw [idRefusal_reserved reserved] at refused
          exact Option.some.inj refused ▸ .reserved reads request reserved
        by_cases inFlight : gateway.IsInFlight id
        · rw [idRefusal_inFlight reserved inFlight] at refused
          exact Option.some.inj refused ▸ .inFlight reads request reserved inFlight
        · simp [idRefusal_free reserved inFlight] at refused

/-! ## What rejected lines do -/

/-- What is left behind by a line that is rejected: nothing, but for what the client is told. -/
def Dismisses (before : Gateway) : Option Rejection → Gateway → Prop
  | none, later => later = before
  | some rejection, later => before.OnlyTells rejection later

theorem dismisses_of_rejects {line : String} {rejection : Option Rejection}
    (rejects : gateway.Rejects setup line rejection) :
    gateway.Dismisses rejection (gateway.handleClientLine setup line) := by
  cases rejects with
  | blank blank => exact handleClientLine_blank blank
  | unread shown unread => exact handleClientLine_unread shown unread
  | reserved reads request reserved =>
      rw [handleClientLine_reads reads]
      exact handleMessage_onlyTells request (idRefusal_reserved reserved)
  | inFlight reads request other inFlight =>
      rw [handleClientLine_reads reads]
      exact handleMessage_onlyTells request (idRefusal_inFlight other inFlight)

/-- A line that is blank, that is no message, or that is a request whose identifier is reserved
or in flight is rejected in one way.  It changes nothing: one error is told, and none for a
blank line.  Every other line is a message, and is accepted. -/
theorem rejected_lines_change_nothing (setup : Setup) (gateway : Gateway) (line : String) :
    let later := gateway.handleEvent setup (.clientLine line)
    (∃ rejection, gateway.Rejects setup line rejection ∧
        (∀ other, gateway.Rejects setup line other → other = rejection) ∧
        gateway.Dismisses rejection later) ∨
      (∀ rejection, ¬ gateway.Rejects setup line rejection) ∧
        ∃ message, ClientMessage.parse line = .ok message ∧
          ClientMessage.Reads line message ∧
          later = gateway.acceptMessage setup message := by
  intro later
  have handled : later = gateway.handleClientLine setup line := rfl
  cases found : gateway.verdict setup line with
  | some rejection =>
      have rejects : gateway.Rejects setup line rejection := rejects_iff.mpr found
      rw [handled]
      refine .inl ⟨rejection, rejects, fun other also => ?_, dismisses_of_rejects rejects⟩
      exact Option.some.inj ((rejects_iff.mp also).symm.trans found)
  | none =>
      have allowed (rejection : Option Rejection) : ¬ gateway.Rejects setup line rejection := by
        rw [rejects_iff, found]
        exact nofun
      have shown : Text.trim line ≠ "" := fun blank => allowed none (.blank blank)
      refine .inr ⟨allowed, ?_⟩
      rcases ClientMessage.reads_or_isUnread line with ⟨message, reads⟩ | ⟨rejection, unread⟩
      · refine ⟨message, ClientMessage.parse_of_reads reads, reads, ?_⟩
        rw [verdict_reads reads] at found
        have free : message.answerId.bind (gateway.idRefusal setup) = none := by
          simpa using found
        rw [handled, handleClientLine_reads reads, handleMessage_allowed free]
      · exact absurd (.unread shown unread) (allowed (some rejection))

/-- A number that the reader takes for too large makes a line no message, although the nearest
double of it is finite; with the one before it the line is accepted. -/
theorem number_out_of_range_is_rejected :
    let setup : Setup := { launch := ⟨"npx", [], none⟩ }
    let gateway := initial setup {}
    let line (params : String) :=
      "\x7b\"id\":\"1\",\"method\":\"m\",\"params\":" ++ params ++ "\x7d"
    let later (params : String) := gateway.handleEvent setup (.clientLine (line params))
    gateway.OnlyTells ⟨none, -32700, "Parse error"⟩ (later "1.7976931348623158e308") ∧
      ∃ message, ClientMessage.Reads (line "1.7976931348623157e308") message ∧
        later "1.7976931348623157e308" = gateway.acceptMessage setup message := by
  intro setup gateway line later
  have tooLarge : gateway.verdict setup (line "1.7976931348623158e308") =
      some (some ⟨none, -32700, "Parse error"⟩) := by
    decide +kernel
  have largest : gateway.verdict setup (line "1.7976931348623157e308") = none := by
    decide +kernel
  constructor
  · rcases rejected_lines_change_nothing setup gateway (line "1.7976931348623158e308") with
      ⟨rejection, rejects, -, dismisses⟩ | ⟨allowed, -⟩
    · obtain rfl := Option.some.inj ((rejects_iff.mp rejects).symm.trans tooLarge)
      exact dismisses
    · exact absurd (rejects_iff.mpr tooLarge) (allowed _)
  · rcases rejected_lines_change_nothing setup gateway (line "1.7976931348623157e308") with
      ⟨rejection, rejects, -⟩ | ⟨-, message, -, reads, accepted⟩
    · cases (rejects_iff.mp rejects).symm.trans largest
    · exact ⟨message, reads, accepted⟩

end Gateway

end BrowserRelay
