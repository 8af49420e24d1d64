import BrowserRelay.Json.Numeral
import BrowserRelay.Text.Reading

/-!
# Reading JSON

The reader follows the JSON grammar strictly: blanks are only the space, the tab,
the line feed and the carriage return; strings hold no raw control characters and
no half of a surrogate pair; numbers that come out too large are refused, and so
are containers nested deeper than a limit.  It also passes over a value without
keeping it; then only the grammar counts, and the limits on depth, numbers and
surrogates do not.
-/

namespace BrowserRelay.Json

/-- Why a text is not JSON. -/
inductive ReadFault where
  | endInValue
  | endInString
  | endInArray
  | endInObject
  | expectedValue
  | expectedWord
  | expectedColon
  | expectedItemEnd
  | expectedMemberEnd
  | keyNotString
  | commaAtEnd
  | invalidNumber
  | numberOutOfRange
  | invalidEscape
  | loneSurrogate
  | unfinishedSurrogatePair
  | controlCharacter
  | tooDeep
  | textAfterValue
  deriving DecidableEq, Repr

/-- The wording of a fault. -/
def ReadFault.message : ReadFault → String
  | endInValue => "EOF while parsing a value"
  | endInString => "EOF while parsing a string"
  | endInArray => "EOF while parsing a list"
  | endInObject => "EOF while parsing an object"
  | expectedValue => "expected value"
  | expectedWord => "expected ident"
  | expectedColon => "expected `:`"
  | expectedItemEnd => "expected `,` or `]`"
  | expectedMemberEnd => "expected `,` or `\x7d`"
  | keyNotString => "key must be a string"
  | commaAtEnd => "trailing comma"
  | invalidNumber => "invalid number"
  | numberOutOfRange => "number out of range"
  | invalidEscape => "invalid escape"
  | loneSurrogate => "lone leading surrogate in hex escape"
  | unfinishedSurrogatePair => "unexpected end of hex escape"
  | controlCharacter => "control character (\\u0000-\\u001F) found while parsing a string"
  | tooDeep => "recursion limit exceeded"
  | textAfterValue => "trailing characters"

/-- What the reader makes of a numeral, and whether it keeps values at all and so
minds their depth and their surrogates. -/
structure Keeping where
  number? : Numeral → Option Number
  isStrict : Bool

/-- Whole values are kept, with their numbers converted in a given way. -/
def Keeping.all (number? : Numeral → Option Number) : Keeping := ⟨number?, true⟩

/-- Whole values are kept. -/
abbrev Keeping.value : Keeping := .all Numeral.number?

/-- Nothing is kept, and every number will do. -/
def Keeping.nothing : Keeping := ⟨fun _ => some (.integer 0), false⟩

def isJsonBlank (character : Char) : Bool :=
  character = ' ' || character = '\n' || character = '\t' || character = '\r'

def skipBlanks (characters : List Char) : List Char :=
  characters.dropWhile isJsonBlank

/-! ## Words and numbers -/

/-- Take the rest of a word whose first letter was seen. -/
def readWord : List Char → List Char → Reading ReadFault Unit
  | [], rest => .ok ((), rest)
  | _ :: _, [] => stopHere .endInValue []
  | expected :: word, character :: rest =>
      if character = expected then readWord word rest else stopHere .expectedWord rest

/-- What follows the digit with which an exponent exceeds the limit, or all of its
digits. -/
def behindExponent (exponent : Nat) : List Char → List Char
  | [] => []
  | digit :: rest =>
      if !digit.isDigit then digit :: rest
      else
        let longer := exponent * 10 + digitValue digit
        if longer > Numeral.exponentLimit then rest else behindExponent longer rest

/-- Convert a numeral that has ended; one that is too large is noticed at `stop`. -/
def finishNumber (keeping : Keeping) (numeral : Numeral) (stop rest : List Char) :
    Reading ReadFault Number :=
  match keeping.number? numeral with
  | some found => .ok (found, rest)
  | none => stopHere .numberOutOfRange stop

/-- Read the exponent behind its letter and finish the number. -/
def readExponent (keeping : Keeping) (numeral : Numeral) (characters : List Char) :
    Reading ReadFault Number :=
  let (downward, unsigned) :=
    match characters with
    | '+' :: rest => (false, rest)
    | '-' :: rest => (true, rest)
    | rest => (false, rest)
  match unsigned with
  | [] => stopHere .endInValue []
  | first :: rest =>
      if first.isDigit then
        let size : Int := digitsValue (unsigned.takeWhile Char.isDigit)
        finishNumber keeping { numeral with exponent := some (if downward then -size else size) }
          (behindExponent 0 unsigned) (unsigned.dropWhile Char.isDigit)
      else stopHere .invalidNumber rest

/-- Read the fraction behind its point and finish the number. -/
def readFraction (keeping : Keeping) (numeral : Numeral) (characters : List Char) :
    Reading ReadFault Number :=
  let fraction := characters.takeWhile Char.isDigit
  let rest := characters.dropWhile Char.isDigit
  if fraction.isEmpty then
    stopAtNext (if characters.isEmpty then .endInValue else .invalidNumber) characters
  else
    let numeral := { numeral with fraction }
    match rest with
    | 'e' :: exponent => readExponent keeping numeral exponent
    | 'E' :: exponent => readExponent keeping numeral exponent
    | rest => finishNumber keeping numeral rest rest

def readNumber (keeping : Keeping) (negative : Bool) (characters : List Char) :
    Reading ReadFault Number :=
  match characters with
  | [] => stopHere .endInValue []
  | first :: afterFirst =>
      let whole := characters.takeWhile Char.isDigit
      if !first.isDigit then stopHere .invalidNumber afterFirst
      else if first = '0' ∧ whole.length > 1 then stopAtNext .invalidNumber afterFirst
      else
        let numeral : Numeral := { isNegative := negative, whole }
        match characters.dropWhile Char.isDigit with
        | '.' :: fraction => readFraction keeping numeral fraction
        | 'e' :: exponent => readExponent keeping numeral exponent
        | 'E' :: exponent => readExponent keeping numeral exponent
        | rest => finishNumber keeping numeral rest rest

/-! ## Strings -/

/-- Where the reader stands inside a string: among plain characters, behind a
backslash, inside the four digits of a code unit, or behind the first half of a
surrogate pair and its following backslash.  `value` is `none` once a digit was
not hexadecimal. -/
inductive StringState where
  | plain
  | escaped
  | hex (taken : Nat) (value : Option Nat) (high : Option Nat)
  | paired (high : Nat)
  | pairedEscape (high : Nat)

def shortEscape? (character : Char) : Option Char :=
  match character with
  | '"' => some '"'
  | '\\' => some '\\'
  | '/' => some '/'
  | 'b' => some '\x08'
  | 'f' => some '\x0c'
  | 'n' => some '\n'
  | 'r' => some '\r'
  | 't' => some '\t'
  | _ => none

/-- What the reader does with a code unit that it has just completed: stop, or go
on with a character gathered or the first half of a pair kept in mind. -/
def completeUnit (strict : Bool) (unit : Nat) (high : Option Nat) :
    Except ReadFault (Option Char × StringState) :=
  if !strict then .ok (none, .plain)
  else
    match high with
    | none =>
        if 0xDC00 ≤ unit ∧ unit ≤ 0xDFFF then .error .loneSurrogate
        else if 0xD800 ≤ unit ∧ unit ≤ 0xDBFF then .ok (none, .paired unit)
        else .ok (some (Char.ofNat unit), .plain)
    | some high =>
        if 0xDC00 ≤ unit ∧ unit ≤ 0xDFFF then
          .ok (some (Char.ofNat ((high - 0xD800) * 0x400 + (unit - 0xDC00) + 0x10000)), .plain)
        else .error .loneSurrogate

/-- Read a string behind its opening quote.  The characters gathered so far are
kept in reverse. -/
def readStringFrom (strict : Bool) :
    StringState → List Char → List Char → Reading ReadFault String
  | _, _, [] => stopHere .endInString []
  | .plain, gathered, character :: rest =>
      if character = '"' then .ok (String.ofList gathered.reverse, rest)
      else if character = '\\' then readStringFrom strict .escaped gathered rest
      else if character.toNat < 0x20 then stopHere .controlCharacter rest
      else readStringFrom strict .plain (character :: gathered) rest
  | .escaped, gathered, character :: rest =>
      if character = 'u' then readStringFrom strict (.hex 0 (some 0) none) gathered rest
      else
        match shortEscape? character with
        | some plain => readStringFrom strict .plain (plain :: gathered) rest
        | none => stopHere .invalidEscape rest
  | .hex taken value high, gathered, character :: rest =>
      let value := value.bind fun value => (hexValue? character).map (value * 16 + ·)
      if taken < 3 then readStringFrom strict (.hex (taken + 1) value high) gathered rest
      else
        match value with
        | none => stopHere .invalidEscape rest
        | some unit =>
            match completeUnit strict unit high with
            | .error fault => stopHere fault rest
            | .ok (none, state) => readStringFrom strict state gathered rest
            | .ok (some decoded, state) => readStringFrom strict state (decoded :: gathered) rest
  | .paired high, gathered, character :: rest =>
      if character = '\\' then readStringFrom strict (.pairedEscape high) gathered rest
      else stopHere .unfinishedSurrogatePair rest
  | .pairedEscape high, gathered, character :: rest =>
      if character = 'u' then readStringFrom strict (.hex 0 (some 0) (some high)) gathered rest
      else stopHere .unfinishedSurrogatePair rest

def readString (keeping : Keeping) (characters : List Char) : Reading ReadFault String :=
  readStringFrom keeping.isStrict .plain [] characters

/-! ## Values -/

/-- The greatest number of containers that may be nested. -/
def depthLimit : Nat := 127

def readColon (characters : List Char) : Reading ReadFault Unit :=
  match skipBlanks characters with
  | [] => stopAtNext .endInObject []
  | ':' :: rest => .ok ((), rest)
  | rest => stopAtNext .expectedColon rest

/-- What comes next in a container: its end, or one more item or member. -/
inductive NextPart where
  | closed (rest : List Char)
  | more (rest : List Char)

def nextItem (first : Bool) (characters : List Char) : Except (Stop ReadFault) NextPart :=
  match skipBlanks characters with
  | [] => .error ⟨.endInArray, [], true⟩
  | ']' :: rest => .ok (.closed rest)
  | next =>
      if first then .ok (.more next)
      else
        match next with
        | ',' :: rest =>
            match skipBlanks rest with
            | [] => .error ⟨.endInValue, [], true⟩
            | ']' :: rest => .error ⟨.commaAtEnd, ']' :: rest, true⟩
            | rest => .ok (.more rest)
        | rest => .error ⟨.expectedItemEnd, rest, true⟩

/-- Find the key of the next member of an object, behind its opening quote, or
the end of the object. -/
def nextKey (first : Bool) (characters : List Char) : Except (Stop ReadFault) NextPart :=
  match skipBlanks characters with
  | [] => .error ⟨.endInObject, [], true⟩
  | '\x7d' :: rest => .ok (.closed rest)
  | next =>
      if first then
        match next with
        | '"' :: rest => .ok (.more rest)
        | rest => .error ⟨.keyNotString, rest, true⟩
      else
        match next with
        | ',' :: rest =>
            match skipBlanks rest with
            | [] => .error ⟨.endInValue, [], true⟩
            | '"' :: rest => .ok (.more rest)
            | '\x7d' :: rest => .error ⟨.commaAtEnd, '\x7d' :: rest, true⟩
            | rest => .error ⟨.keyNotString, rest, true⟩
        | rest => .error ⟨.expectedMemberEnd, rest, true⟩

mutual

/-- Read a value.  `depth` is the number of containers that may still be opened;
each step takes at least one character or opens an item, so fuel of twice the
number of characters suffices. -/
def readValueFrom (keeping : Keeping) :
    (fuel depth : Nat) → List Char → Reading ReadFault Json
  | 0, _, rest => stopAtNext .endInValue rest
  | fuel + 1, depth, characters =>
      match skipBlanks characters with
      | [] => stopAtNext .endInValue []
      | 'n' :: rest => withValue (readWord ['u', 'l', 'l'] rest) fun _ => .null
      | 't' :: rest => withValue (readWord ['r', 'u', 'e'] rest) fun _ => .bool true
      | 'f' :: rest => withValue (readWord ['a', 'l', 's', 'e'] rest) fun _ => .bool false
      | '"' :: rest => withValue (readString keeping rest) .string
      | '-' :: rest => withValue (readNumber keeping true rest) .number
      | '[' :: rest =>
          if depth = 0 ∧ keeping.isStrict then stopAtNext .tooDeep ('[' :: rest)
          else withValue (readItems keeping fuel (depth - 1) true [] rest) .array
      | '\x7b' :: rest =>
          if depth = 0 ∧ keeping.isStrict then stopAtNext .tooDeep ('\x7b' :: rest)
          else withValue (readMembers keeping fuel (depth - 1) true [] rest) .object
      | character :: rest =>
          if character.isDigit then
            withValue (readNumber keeping false (character :: rest)) .number
          else stopAtNext .expectedValue (character :: rest)

/-- Read the items of an array up to its end; those read are kept in reverse. -/
def readItems (keeping : Keeping) :
    (fuel depth : Nat) → Bool → List Json → List Char → Reading ReadFault (List Json)
  | 0, _, _, _, rest => stopAtNext .endInArray rest
  | fuel + 1, depth, first, items, characters =>
      match nextItem first characters with
      | .error stop => .error stop
      | .ok (.closed rest) => .ok (items.reverse, rest)
      | .ok (.more rest) =>
          match readValueFrom keeping fuel depth rest with
          | .error stop => .error stop
          | .ok (item, rest) => readItems keeping fuel depth false (item :: items) rest

/-- Read the members of an object up to its end; those read are kept in the order
of their keys. -/
def readMembers (keeping : Keeping) :
    (fuel depth : Nat) → Bool → List (String × Json) → List Char →
      Reading ReadFault (List (String × Json))
  | 0, _, _, _, rest => stopAtNext .endInObject rest
  | fuel + 1, depth, first, members, characters =>
      match nextKey first characters with
      | .error stop => .error stop
      | .ok (.closed rest) => .ok (members, rest)
      | .ok (.more rest) =>
          match readString keeping rest with
          | .error stop => .error stop
          | .ok (key, rest) =>
              match readColon rest with
              | .error stop => .error stop
              | .ok ((), rest) =>
                  match readValueFrom keeping fuel depth rest with
                  | .error stop => .error stop
                  | .ok (value, rest) =>
                      readMembers keeping fuel depth false (insertMember key value members) rest

end

/-- Read a value at the start of a text, leaving what follows it. -/
def readValue (depth : Nat) (characters : List Char) : Reading ReadFault Json :=
  readValueFrom .value (2 * characters.length + 2) depth characters

def skipValue (characters : List Char) : Reading ReadFault Unit :=
  match readValueFrom .nothing (2 * characters.length + 2) 0 characters with
  | .error stop => .error stop
  | .ok (_, rest) => .ok ((), rest)

def readEnd {Fault α : Type} (after : Fault) (value : α) (characters : List Char) :
    Except (Stop Fault) α :=
  match skipBlanks characters with
  | [] => .ok value
  | rest => .error ⟨after, rest, true⟩

/-- Read the characters of a text that holds one value and nothing else. -/
def parseChars (characters : List Char) : Except (Stop ReadFault) Json :=
  match readValue depthLimit characters with
  | .error stop => .error stop
  | .ok (value, rest) => readEnd .textAfterValue value rest

/-- Read a text that holds one value and nothing else. -/
def parse (text : String) : Except (ReadError ReadFault) Json :=
  match parseChars text.toList with
  | .error stop => .error (stop.locate text.toList)
  | .ok value => .ok value

end BrowserRelay.Json
