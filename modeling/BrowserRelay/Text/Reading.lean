/-!
# Readers of text

A reader takes characters from the front of a text and answers with a value and
the characters it left, or stops at a fault whose line and column can be found
afterwards.
-/

namespace BrowserRelay

/-- Where reading stopped: the fault, the characters not yet taken, and whether
the first of these is at fault itself. -/
structure Stop (Fault : Type) where
  fault : Fault
  rest : List Char
  atNext : Bool

/-- A reader takes characters and answers with a value and the characters left. -/
abbrev Reading (Fault α : Type) := Except (Stop Fault) (α × List Char)

def stopHere {Fault α : Type} (fault : Fault) (rest : List Char) : Reading Fault α :=
  .error ⟨fault, rest, false⟩

/-- Stop at the next character, which is the one at fault. -/
def stopAtNext {Fault α : Type} (fault : Fault) (rest : List Char) : Reading Fault α :=
  .error ⟨fault, rest, true⟩

def withValue {Fault α β : Type} (reading : Reading Fault α) (change : α → β) :
    Reading Fault β :=
  match reading with
  | .error stop => .error stop
  | .ok (value, rest) => .ok (change value, rest)

/-- A fault with its place: a line counted from one and the number of bytes of
that line up to and including the fault. -/
structure ReadError (Fault : Type) where
  fault : Fault
  line : Nat
  column : Nat
  deriving DecidableEq

/-- The line and column reached after a number of bytes of a text. -/
def placeAfter : List Char → Nat → Nat × Nat → Nat × Nat
  | [], _, place => place
  | character :: rest, bytes, (line, column) =>
      if character.utf8Size ≤ bytes then
        placeAfter rest (bytes - character.utf8Size)
          (if character = '\n' then (line + 1, 0) else (line, column + character.utf8Size))
      else (line, column + bytes)

def byteLength (characters : List Char) : Nat :=
  characters.foldl (fun total character => total + character.utf8Size) 0

def Stop.locate {Fault : Type} (stop : Stop Fault) (whole : List Char) : ReadError Fault :=
  let next := if stop.atNext && !stop.rest.isEmpty then 1 else 0
  let (line, column) := placeAfter whole (byteLength whole - byteLength stop.rest + next) (1, 0)
  ⟨stop.fault, line, column⟩

def ReadError.describe {Fault : Type} (message : Fault → String) (error : ReadError Fault) :
    String :=
  message error.fault ++ " at line " ++ toString error.line ++ " column " ++
    toString error.column

end BrowserRelay
