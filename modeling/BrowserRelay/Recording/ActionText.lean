import BrowserRelay.Json.Printer
import BrowserRelay.Recording.Action

/-!
# The text of recorded actions

An action is written as an object of its kind, its target and its payload, in
this order and without those that are missing.  When it is read, null counts as
missing, unknown members are passed over and a repeated one is refused; the kind
may also be written as an object with its name for a key, and the whole action as
an array of its three parts.
-/

namespace BrowserRelay.RecordedAction

/-- The JSON value of an action. -/
def toJson (action : RecordedAction) : Json :=
  .object
    (("kind", .string action.kind.name) ::
      ((action.target.map fun target => ("target", Json.string target)).toList ++
        (action.payload.map fun payload => ("payload", payload)).toList))

def compact (action : RecordedAction) : String := action.toJson.compact

def prettyList (actions : List RecordedAction) : String :=
  (Json.array (actions.map toJson)).pretty

open Json (skipBlanks)

/-- A fault of the JSON text within the text of an action. -/
def liftStop (stop : Stop Json.ReadFault) : Stop ActionFault :=
  ⟨.json stop.fault, stop.rest, stop.atNext⟩

/-- A reading of JSON text within the text of an action. -/
def lift {α : Type} (reading : Reading Json.ReadFault α) : Reading ActionFault α :=
  match reading with
  | .error stop => .error (liftStop stop)
  | .ok read => .ok read

def typeName : Json → String
  | .null => "null"
  | .bool value => "boolean `" ++ toString value ++ "`"
  | .number (.integer value) => "integer `" ++ toString value ++ "`"
  | .number (.binary value) =>
      "floating point `" ++ String.ofList (Json.binaryText value) ++ "`"
  | .string text => "string " ++ (Json.string text).compact
  | .array _ => "sequence"
  | .object _ => "map"

def wrongType {α : Type} (expected : String) (characters : List Char) : Reading ActionFault α :=
  match skipBlanks characters with
  | '[' :: rest => stopHere (.invalidType "sequence" expected) ('[' :: rest)
  | '\x7b' :: rest => stopHere (.invalidType "map" expected) ('\x7b' :: rest)
  | rest =>
      match Json.readValue 0 rest with
      | .error stop => .error (liftStop stop)
      | .ok (value, rest) => stopHere (.invalidType (typeName value) expected) rest

def readOptional {α : Type} (read : List Char → Reading ActionFault α)
    (characters : List Char) : Reading ActionFault (Option α) :=
  match skipBlanks characters with
  | [] => stopAtNext (.json .endInValue) []
  | 'n' :: rest => withValue (lift (Json.readWord ['u', 'l', 'l'] rest)) fun _ => none
  | rest => withValue (read rest) some

def readTarget (characters : List Char) : Reading ActionFault String :=
  match skipBlanks characters with
  | [] => stopAtNext (.json .endInValue) []
  | '"' :: rest => lift (Json.readString .value rest)
  | rest => wrongType "a string" rest

/-- Read the name of a kind behind its opening quote. -/
def readKindName (characters : List Char) : Reading ActionFault ActionKind :=
  match lift (Json.readString .value characters) with
  | .error stop => .error stop
  | .ok (name, rest) =>
      match ActionKind.ofName? name with
      | some kind => .ok (kind, rest)
      | none => stopHere (.unknownKind name) rest

/-- Read a kind written as an object, behind its opening brace. -/
def readKindObject (characters : List Char) : Reading ActionFault ActionKind :=
  match skipBlanks characters with
  | '"' :: rest =>
      match readKindName rest with
      | .error stop => .error stop
      | .ok (kind, rest) =>
          match lift (Json.readColon rest) with
          | .error stop => .error stop
          | .ok ((), rest) =>
              match skipBlanks rest with
              | 'n' :: rest =>
                  match lift (Json.readWord ['u', 'l', 'l'] rest) with
                  | .error stop => .error stop
                  | .ok ((), rest) =>
                      match skipBlanks rest with
                      | [] => stopAtNext (.json .endInObject) []
                      | '\x7d' :: rest => .ok (kind, rest)
                      | rest => stopHere (.json .expectedValue) rest
              | rest => wrongType "unit variant" rest
  | rest => wrongType "variant identifier" rest

def readKind (depth : Nat) (characters : List Char) : Reading ActionFault ActionKind :=
  match skipBlanks characters with
  | [] => stopAtNext (.json .endInValue) []
  | '"' :: rest => readKindName rest
  | '\x7b' :: rest =>
      if depth = 0 then stopAtNext (.json .tooDeep) ('\x7b' :: rest) else readKindObject rest
  | rest => stopAtNext (.json .expectedValue) rest

/-- The members of an action read so far; a member that was null counts as read. -/
structure Members where
  kind : Option ActionKind := none
  target : Option (Option String) := none
  payload : Option (Option Json) := none

def ofMembers? (members : Members) : Option RecordedAction :=
  members.kind.map fun kind =>
    ⟨kind, members.target.getD none, members.payload.getD none⟩

/-- Read the value behind a known or unknown key and note it. -/
def readMember (depth : Nat) (members : Members) (key : String) (characters : List Char) :
    Reading ActionFault Members :=
  match lift (Json.readColon characters) with
  | .error stop => .error stop
  | .ok ((), rest) =>
      if key = "kind" then
        withValue (readKind depth rest) fun kind => { members with kind := some kind }
      else if key = "target" then
        withValue (readOptional readTarget rest)
          fun target => { members with target := some target }
      else if key = "payload" then
        withValue (readOptional (fun rest => lift (Json.readValue depth rest)) rest)
          fun payload => { members with payload := some payload }
      else withValue (lift (Json.skipValue rest)) fun _ => members

/-- Whether a key names a member that was read before. -/
def Members.has (members : Members) (key : String) : Bool :=
  (key = "kind" && members.kind.isSome) || (key = "target" && members.target.isSome) ||
    (key = "payload" && members.payload.isSome)

/-- Read the members of an action up to its closing brace.  Each member takes a
character, so fuel of the number of characters suffices. -/
def readMembers (depth : Nat) :
    (fuel : Nat) → Bool → Members → List Char → Reading ActionFault RecordedAction
  | 0, _, _, rest => stopAtNext (.json .endInObject) rest
  | fuel + 1, first, members, characters =>
      match Json.nextKey first characters with
      | .error stop => .error (liftStop stop)
      | .ok (.closed rest) =>
          match ofMembers? members with
          | some action => .ok (action, rest)
          | none => stopHere (.missingField "kind") rest
      | .ok (.more rest) =>
          match lift (Json.readString .value rest) with
          | .error stop => .error stop
          | .ok (key, rest) =>
              if members.has key then stopHere (.duplicateField key) rest
              else
                match readMember depth members key rest with
                | .error stop => .error stop
                | .ok (members, rest) => readMembers depth fuel false members rest

/-- Read one part of an action written as an array, or find its end. -/
def readPart {α : Type} (first : Bool) (read : List Char → Reading ActionFault α)
    (characters : List Char) : Reading ActionFault (Option α) :=
  match Json.nextItem first characters with
  | .error stop => .error (liftStop stop)
  | .ok (.closed _) => .ok (none, characters)
  | .ok (.more rest) => withValue (read rest) some

/-- Read an action written as an array, behind its opening bracket.  The kind has
to be there, and nothing may follow the payload. -/
def readParts (depth : Nat) (characters : List Char) : Reading ActionFault RecordedAction :=
  match readPart true (readKind depth) characters with
  | .error stop => .error stop
  | .ok (none, rest) => stopHere (.tooShort 0) rest
  | .ok (some kind, rest) =>
      match readPart false (readOptional readTarget) rest with
      | .error stop => .error stop
      | .ok (target, rest) =>
          match readPart false
            (readOptional fun rest => lift (Json.readValue depth rest)) rest with
          | .error stop => .error stop
          | .ok (payload, rest) =>
              match Json.nextItem false rest with
              | .error stop => .error (liftStop stop)
              | .ok (.closed rest) => .ok (⟨kind, target.getD none, payload.getD none⟩, rest)
              | .ok (.more rest) => stopAtNext (.json .textAfterValue) rest

/-- Read an action; `depth` is the number of containers that may still be opened. -/
def read (depth : Nat) (characters : List Char) : Reading ActionFault RecordedAction :=
  match skipBlanks characters with
  | [] => stopAtNext (.json .endInValue) []
  | '\x7b' :: rest => readMembers (depth - 1) (rest.length + 1) true {} rest
  | '[' :: rest => readParts (depth - 1) rest
  | rest => wrongType "struct RecordedAction" rest

/-- Read the actions of a list up to its closing bracket; those read are kept in
reverse. -/
def readItems (depth : Nat) :
    (fuel : Nat) → Bool → List RecordedAction → List Char →
      Reading ActionFault (List RecordedAction)
  | 0, _, _, rest => stopAtNext (.json .endInArray) rest
  | fuel + 1, first, actions, characters =>
      match Json.nextItem first characters with
      | .error stop => .error (liftStop stop)
      | .ok (.closed rest) => .ok (actions.reverse, rest)
      | .ok (.more rest) =>
          match read depth rest with
          | .error stop => .error stop
          | .ok (action, rest) => readItems depth fuel false (action :: actions) rest

def readList (depth : Nat) (characters : List Char) : Reading ActionFault (List RecordedAction) :=
  match skipBlanks characters with
  | [] => stopAtNext (.json .endInValue) []
  | '[' :: rest => readItems (depth - 1) (rest.length + 1) true [] rest
  | rest => wrongType "a sequence" rest

/-- Read a whole text with a reader and give a fault its place. -/
def parseWith {α : Type} (reader : List Char → Reading ActionFault α) (text : String) :
    Except (ReadError ActionFault) α :=
  let result : Except (Stop ActionFault) α :=
    match reader text.toList with
    | .error stop => .error stop
    | .ok (value, rest) => Json.readEnd (.json .textAfterValue) value rest
  match result with
  | .error stop => .error (stop.locate text.toList)
  | .ok value => .ok value

def parse (text : String) : Except (ReadError ActionFault) RecordedAction :=
  parseWith (read Json.depthLimit) text

def parseList (text : String) : Except (ReadError ActionFault) (List RecordedAction) :=
  parseWith (readList Json.depthLimit) text

end BrowserRelay.RecordedAction
