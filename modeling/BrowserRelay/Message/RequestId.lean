import BrowserRelay.Json.Value

/-!
# Request identifiers

A request and its response carry the same identifier, which is a text or a
64-bit integer.  The number 7 and the text "7" are different identifiers.
-/

namespace BrowserRelay

/-- The identifier that pairs a response with its request. -/
inductive RequestId where
  | number (value : Int64)
  | text (value : String)
  deriving DecidableEq

namespace RequestId

/-- The identifier that a JSON value stands for: a string, or a whole number that
fits into 64 bits with a sign. -/
def ofJson? : Json → Option RequestId
  | .string value => some (.text value)
  | .number (.integer value) =>
      if Int64.minValue.toInt ≤ value ∧ value ≤ Int64.maxValue.toInt then
        some (.number (Int64.ofInt value))
      else none
  | _ => none

def toJson : RequestId → Json
  | number value => .number (.integer value.toInt)
  | text value => .string value

def asText? : RequestId → Option String
  | text value => some value
  | number _ => none

/-- An identifier as it appears within a message to a reader. -/
def display : RequestId → String
  | number value => toString value.toInt
  | text value => value

/-- Reading the JSON value of an identifier gives the identifier back. -/
theorem ofJson?_toJson (id : RequestId) : ofJson? id.toJson = some id := by
  cases id with
  | number value =>
      have atLeast : -9223372036854775808 ≤ value.toInt := Int64.le_toInt value
      have atMost := Int64.toInt_le value
      simp [ofJson?, toJson, atLeast, atMost]
  | text value => rfl

end RequestId

end BrowserRelay
