import BrowserRelay.Decimal.Binary64

/-!
# JSON values

The members of an object are kept in the order of their keys, each key once.
Keys are compared by code points, which orders their UTF-8 bytes alike.
-/

namespace BrowserRelay

/-- A JSON number: a whole number from `-2 ^ 63` to `2 ^ 64 - 1`, or a number in
the 64-bit binary format. -/
inductive Number where
  | integer (value : Int)
  | binary (value : Decimal.Binary64)
  deriving DecidableEq

/-- A JSON value. -/
inductive Json where
  | null
  | bool (value : Bool)
  | number (value : Number)
  | string (value : String)
  | array (items : List Json)
  | object (members : List (String × Json))
  deriving Inhabited

namespace Json

/-- Put a member among members in key order; a member with the same key is
replaced. -/
def insertMember (key : String) (value : Json) :
    List (String × Json) → List (String × Json)
  | [] => [(key, value)]
  | (other, otherValue) :: rest =>
      if key < other then (key, value) :: (other, otherValue) :: rest
      else if key = other then (key, value) :: rest
      else (other, otherValue) :: insertMember key value rest

/-- The object with the given members; of members with one key the last counts. -/
def ofMembers (members : List (String × Json)) : Json :=
  .object (members.foldl (fun sorted member => insertMember member.1 member.2 sorted) [])

/-- The value of a member of an object; nothing else has members. -/
def get? (value : Json) (key : String) : Option Json :=
  match value with
  | .object members => members.lookup key
  | _ => none

/-- Give a member of an object a value; nothing else is changed. -/
def set (value : Json) (key : String) (member : Json) : Json :=
  match value with
  | .object members => .object (insertMember key member members)
  | other => other

def asString? : Json → Option String
  | .string text => some text
  | _ => none

def asArray? : Json → Option (List Json)
  | .array items => some items
  | _ => none

/-- The whole number of a value, if it is not negative. -/
def asNat? : Json → Option Nat
  | .number (.integer value) => value.toNat?
  | _ => none

def ofInt (value : Int) : Json := .number (.integer value)

def ofNat (value : Nat) : Json := .number (.integer value)

def ofStrings (texts : List String) : Json := .array (texts.map .string)

/-- A value that may be missing; what is missing becomes `null`. -/
def ofOption : Option Json → Json
  | none => .null
  | some value => value

end Json

end BrowserRelay
