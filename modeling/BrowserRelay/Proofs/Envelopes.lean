import BrowserRelay.Proofs.RejectedLines

/-!
# Envelopes are read back

What the relay writes as a request, as a success or as an error is one line, from which the
identifier, with its type, and everything else that was put into it are read back.
-/

namespace BrowserRelay

/-! ## Trimming -/

theorem Text.trim_of_solid {text : String}
    (first : ∀ character ∈ text.toList.head?, isBlank character = false)
    (last : ∀ character ∈ text.toList.getLast?, isBlank character = false) : trim text = text := by
  have kept {characters : List Char}
      (solid : ∀ character ∈ characters.head?, isBlank character = false) :
      characters.dropWhile isBlank = characters := by
    cases characters with
    | nil => rfl
    | cons character rest => exact List.dropWhile_cons_of_neg (by simp [solid character rfl])
  have reversed : text.toList.reverse.dropWhile isBlank = text.toList.reverse := by
    apply kept
    rwa [List.head?_reverse]
  rw [trim, trimBlanks, kept first, reversed, List.reverse_reverse, String.ofList_toList]

/-! ## Objects made of members -/

namespace Json

variable {members : List (String × Json)}

theorem getLast?_compactMembers (members : List (String × Json)) :
    (compactMembers members).getLast? = some '\x7d' := by
  induction members with
  | nil => rfl
  | cons member rest ih =>
      cases rest with
      | nil => simp [compactMembers, List.getLast?_cons]
      | cons next rest => simp [compactMembers, List.getLast?_cons, ih]

theorem trim_compact_object (members : List (String × Json)) :
    Text.trim (Json.object members).compact = (Json.object members).compact := by
  apply Text.trim_of_solid <;> rw [compact, String.toList_ofList, compactChars]
  · rintro _ ⟨⟩
    decide
  · rw [List.getLast?_cons, getLast?_compactMembers]
    rintro _ ⟨⟩
    decide

/-- An object that was written as a line is read from the trimmed line. -/
theorem parse_trim_compact (back : ∀ member ∈ members, member.2.ReadsBack 126) :
    parse (Text.trim (ofMembers members).compact) = .ok (ofMembers members) := by
  have whole := readsBack_ofMembers back
  obtain ⟨held, made, -⟩ := mem_ofMembers members
  rw [made] at whole ⊢
  rw [trim_compact_object]
  exact parse_compact whole

theorem readsBack_ofInt64 (value : Int64) (limit : Nat) : (ofInt value.toInt).ReadsBack limit := by
  have below : value.toInt < 2 ^ 64 := Int.lt_of_le_of_lt (Int64.toInt_le value) (by decide)
  exact readsBack_integer (Int64.le_toInt value) below limit

end Json

/-! ## Reading lines back -/

theorem RequestId.readsBack_toJson (id : RequestId) (limit : Nat) : id.toJson.ReadsBack limit := by
  cases id with
  | number value => exact Json.readsBack_ofInt64 value limit
  | text value => exact Json.readsBack_string value limit

/-- An object that has an identifier and no method is read as a response. -/
theorem ServiceMessage.parse_of_members {members : List (String × Json)} {id : RequestId}
    (back : ∀ member ∈ members, member.2.ReadsBack 126)
    (isId : members.reverse.lookup "id" = some id.toJson)
    (noMethod : members.reverse.lookup "method" = none) :
    parse (Json.ofMembers members).compact = .ok ⟨some id, none, Json.ofMembers members⟩ := by
  have ownId : (Json.ofMembers members).get? "id" = some id.toJson :=
    (Json.get?_ofMembers members "id").trans isId
  have ownMethod : (Json.ofMembers members).get? "method" = none :=
    (Json.get?_ofMembers members "method").trans noMethod
  have read := Json.parse_trim_compact back
  obtain ⟨held, made, -⟩ := Json.mem_ofMembers members
  rw [made] at read ownId ownMethod ⊢
  simp only [parse, read, ownId, ownMethod, Option.bind_some, Option.bind_none,
    RequestId.ofJson?_toJson]

/-- The text of an object shows which identifier it has. -/
theorem RequestId.eq_of_compact_eq {id other : RequestId} {members others : List (String × Json)}
    (proper : ∀ member ∈ members, member.2.IsProper)
    (otherProper : ∀ member ∈ others, member.2.IsProper)
    (isId : members.reverse.lookup "id" = some id.toJson)
    (otherId : others.reverse.lookup "id" = some other.toJson)
    (same : (Json.ofMembers members).compact = (Json.ofMembers others).compact) : id = other := by
  have written : Json.ofMembers members = Json.ofMembers others :=
    Json.compact_inj (Json.isProper_ofMembers proper) (Json.isProper_ofMembers otherProper) same
  have ids := congrArg (·.get? "id") written
  simp only [Json.get?_ofMembers, isId, otherId, Option.some.injEq] at ids
  have read := congrArg RequestId.ofJson? ids
  rw [ofJson?_toJson, ofJson?_toJson] at read
  exact Option.some.inj read

namespace Envelope

variable {id : RequestId} {method text : String} {params : Option Json} {result : Json}

/-- The members of a request in the order in which they are put together. -/
def requestMembers (id : RequestId) (method : String) (params : Option Json) :
    List (String × Json) :=
  [("jsonrpc", version), ("method", .string method), ("id", id.toJson)] ++
    params.toList.map fun params => ("params", params)

theorem request_eq (id : RequestId) (method : String) (params : Option Json) :
    request id method params = Json.ofMembers (requestMembers id method params) := by
  cases params <;> rfl

theorem parse_requestLine (back : ∀ value ∈ params, value.ReadsBack 126) :
    ClientMessage.parse (requestLine id method params) =
      .ok ⟨some id, some method, params.getD .null, requestLine id method params⟩ := by
  have all : ∀ member ∈ requestMembers id method params, member.2.ReadsBack 126 := by
    simpa [requestMembers, version, id.readsBack_toJson] using back
  have whole := Json.readsBack_ofMembers all
  have found := Json.get?_ofMembers (requestMembers id method params)
  rw [requestLine, request_eq]
  obtain ⟨held, made, -⟩ := Json.mem_ofMembers (requestMembers id method params)
  rw [made] at whole found ⊢
  have isId : held.lookup "id" = some id.toJson := by
    rw [← Json.get?, found]
    cases params <;> simp [requestMembers, List.lookup_cons]
  have isMethod : held.lookup "method" = some (.string method) := by
    rw [← Json.get?, found]
    cases params <;> simp [requestMembers, List.lookup_cons]
  have isParams : held.lookup "params" = params := by
    rw [← Json.get?, found]
    cases params <;> simp [requestMembers, List.lookup_cons]
  have readId : ClientMessage.ReadsId (held.lookup "id") (some id) := by
    rw [isId]
    exact ClientMessage.readsId_of_ofJson? id.ofJson?_toJson
  have readMethod : ClientMessage.ReadsMethod (held.lookup "method") (some method) := by
    rw [isMethod]
    exact .text method
  rw [ClientMessage.parse_of_compact whole (Json.trim_compact_object held) rfl readId readMethod,
    isParams]

theorem parse_successLine (back : result.ReadsBack 126) :
    ServiceMessage.parse (successLine id result) = .ok ⟨some id, none, success id result⟩ := by
  apply ServiceMessage.parse_of_members
  · simpa [version, id.readsBack_toJson] using back
  · simp [List.lookup_cons]
  · simp [List.lookup_cons]

theorem parse_errorLine (id : RequestId) (code : Int64) (text : String) :
    ServiceMessage.parse (errorLine (some id) code.toInt text) =
      .ok ⟨some id, none, error (some id) code.toInt text⟩ := by
  have detail : (Json.ofMembers [("code", .ofInt code.toInt), ("message", .string text)]).ReadsBack
      126 := Json.readsBack_ofMembers (by simpa using Json.readsBack_ofInt64 code _)
  apply ServiceMessage.parse_of_members
  · simpa [version, Json.ofOption, id.readsBack_toJson] using detail
  · simp [List.lookup_cons, Json.ofOption]
  · simp [List.lookup_cons]

/-! ## What is read back -/

/-- A message of the client asks for an answer to one request. -/
structure Asks (message : ClientMessage) (id : RequestId) (method : String) (params : Json) :
    Prop where
  id : message.id = some id
  method : message.method = some method
  params : message.params = params
  expectsResponse : message.expectsResponse = true

/-- A message of the service answers a request with a result. -/
structure Succeeds (message : ServiceMessage) (id : RequestId) (result : Json) : Prop where
  id : message.id = some id
  isResponse : message.isResponse = true
  isSuccess : message.isSuccess = true
  result : message.value.get? "result" = some result

/-- A message of the service answers a request with an error. -/
structure Fails (message : ServiceMessage) (id : RequestId) (code : Int) (text : String) :
    Prop where
  id : message.id = some id
  isResponse : message.isResponse = true
  notSuccess : message.isSuccess = false
  code : ((message.value.get? "error").bind (·.get? "code")) = some (.ofInt code)
  text : ((message.value.get? "error").bind (·.get? "message")) = some (.string text)

theorem asks_of_requestLine (id : RequestId) (method : String) {params : Option Json}
    (back : ∀ value ∈ params, value.ReadsBack 126) :
    ∃ message, ClientMessage.parse (requestLine id method params) = .ok message ∧
      Asks message id method (params.getD .null) :=
  ⟨_, parse_requestLine back, rfl, rfl, rfl, rfl⟩

theorem succeeds_of_successLine (id : RequestId) (back : result.ReadsBack 126) :
    ∃ message, ServiceMessage.parse (successLine id result) = .ok message ∧
      Succeeds message id result := by
  have isResult : (success id result).get? "result" = some result := by
    simp [success, Json.get?_ofMembers]
  have noError : (success id result).get? "error" = none := by
    simp [success, Json.get?_ofMembers, List.lookup_cons]
  refine ⟨_, parse_successLine back, rfl, rfl, ?_, isResult⟩
  simp [ServiceMessage.isSuccess, isResult, noError]

theorem fails_of_errorLine (id : RequestId) (code : Int64) (text : String) :
    ∃ message, ServiceMessage.parse (errorLine (some id) code.toInt text) = .ok message ∧
      Fails message id code.toInt text := by
  have noResult : (error (some id) code.toInt text).get? "result" = none := by
    simp [error, Json.get?_ofMembers, List.lookup_cons]
  refine ⟨_, parse_errorLine id code text, rfl, rfl, ?_, ?_, ?_⟩
  · simp [ServiceMessage.isSuccess, noResult]
  all_goals simp [error, Json.get?_ofMembers, List.lookup_cons]

theorem requestMembers_proper (fits : ∀ value ∈ params, value.Fits 126) :
    ∀ member ∈ requestMembers id method params, member.2.IsProper := by
  have identified := (id.readsBack_toJson 126).proper
  simpa [requestMembers, version, identified, Json.IsProper.string] using
    fun value carried => (fits value carried).proper

theorem lookup_requestMembers (id : RequestId) (method : String) (params : Option Json) :
    (requestMembers id method params).reverse.lookup "id" = some id.toJson := by
  cases params <;> simp [requestMembers, List.lookup_cons]

theorem successMembers_proper (fits : result.Fits 126) :
    ∀ member ∈ [("jsonrpc", version), ("id", id.toJson), ("result", result)],
      member.2.IsProper := by
  simpa [version, Json.IsProper.string, (id.readsBack_toJson 126).proper] using fits.proper

/-- From every envelope that the relay writes, the request, the success or the error that was put
into it is read, and envelopes with different identifiers are different lines. -/
theorem envelopes_are_read_back :
    (∀ (id : RequestId) (method : String) (params : Option Json),
      (∀ value ∈ params, value.ReadsBack 126) →
        ∃ message, ClientMessage.parse (requestLine id method params) = .ok message ∧
          Asks message id method (params.getD .null)) ∧
    (∀ (id : RequestId) (result : Json), result.ReadsBack 126 →
      ∃ message, ServiceMessage.parse (successLine id result) = .ok message ∧
        Succeeds message id result) ∧
    (∀ (id : RequestId) (code : Int64) (text : String),
      ∃ message, ServiceMessage.parse (errorLine (some id) code.toInt text) = .ok message ∧
        Fails message id code.toInt text) ∧
    (∀ id other : RequestId, id ≠ other →
      (∀ (method otherMethod : String) (params otherParams : Option Json),
        (∀ value ∈ params, value.Fits 126) → (∀ value ∈ otherParams, value.Fits 126) →
          requestLine id method params ≠ requestLine other otherMethod otherParams) ∧
      (∀ result otherResult : Json, result.Fits 126 → otherResult.Fits 126 →
        successLine id result ≠ successLine other otherResult) ∧
      ∀ (code otherCode : Int64) (text otherText : String),
        errorLine (some id) code.toInt text ≠
          errorLine (some other) otherCode.toInt otherText) := by
  refine ⟨fun id method params => asks_of_requestLine id method,
    fun id result => succeeds_of_successLine id, fails_of_errorLine,
    fun id other differ => ⟨?_, ?_, ?_⟩⟩
  · intro method otherMethod params otherParams fits otherFits same
    rw [requestLine, requestLine, request_eq, request_eq] at same
    refine differ (RequestId.eq_of_compact_eq (requestMembers_proper fits)
      (requestMembers_proper otherFits) ?_ ?_ same)
    all_goals exact lookup_requestMembers _ _ _
  · intro result otherResult fits otherFits same
    refine differ (RequestId.eq_of_compact_eq (successMembers_proper fits)
      (successMembers_proper otherFits) ?_ ?_ same)
    all_goals simp [List.lookup_cons]
  · intro code otherCode text otherText same
    have read := parse_errorLine id code text
    rw [same, parse_errorLine other] at read
    exact differ (Option.some.inj (congrArg ServiceMessage.id (Except.ok.inj read))).symm

/-- The number 7 and the text "7" are sent with nested parameters, and read back apart. -/
theorem seven_is_read_back_as_sent :
    ∃ params : Json, params.ReadsBack 126 ∧ RequestId.number 7 ≠ .text "7" ∧
      requestLine (.number 7) "go" (some params) =
        "\x7b\"id\":7,\"jsonrpc\":\"2.0\",\"method\":\"go\",\"params\":[[-3],\"\\n\"]\x7d" ∧
      requestLine (.text "7") "go" (some params) =
        "\x7b\"id\":\"7\",\"jsonrpc\":\"2.0\",\"method\":\"go\",\"params\":[[-3],\"\\n\"]\x7d" ∧
      (∃ message, ClientMessage.parse (requestLine (.number 7) "go" (some params)) = .ok message ∧
        Asks message (.number 7) "go" params) ∧
      (∃ message, ServiceMessage.parse (successLine (.text "7") params) = .ok message ∧
        Succeeds message (.text "7") params) ∧
      successLine (.number 7) params ≠ successLine (.text "7") params := by
  let params : Json := .array [.array [.number (.integer (-3))], .string "\n"]
  have back : params.ReadsBack 126 := by
    have number : (Json.number (.integer (-3))).ReadsBack 124 :=
      Json.readsBack_integer (by decide) (by decide) 124
    simp [params, Json.readsBack_array_iff, number]
  have differ : RequestId.number 7 ≠ .text "7" := by decide
  obtain ⟨requests, successes, -, apart⟩ := envelopes_are_read_back
  exact ⟨params, back, differ, by decide +kernel, by decide +kernel,
    requests (.number 7) "go" (some params) (by simpa using back),
    successes (.text "7") params back, (apart _ _ differ).2.1 params params back.toFits back.toFits⟩

end Envelope

end BrowserRelay
