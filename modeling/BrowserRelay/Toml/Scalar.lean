import BrowserRelay.Decimal.Binary64
import BrowserRelay.Text.Digits
import BrowserRelay.Text.Reading
import BrowserRelay.Toml.Value

/-!
# Strings, numbers and dates of TOML

Lines end in a line feed here: a carriage return in front of one is dropped before
reading, and any other carriage return is a control character like the rest.
-/

namespace BrowserRelay.Toml

/-- The outcome of reading, unless it stopped at a fault. -/
abbrev Attempt := Except (Stop ReadFault)

/-- Whether a character may stand in a comment or a string: a tab, or anything that
is no control character. -/
def isTextCharacter (character : Char) : Bool :=
  character = '\t' || (0x20 ≤ character.toNat && character.toNat ≠ 0x7F)

def isLineBlank (character : Char) : Bool :=
  character = ' ' || character = '\t'

def skipLineBlanks (characters : List Char) : List Char :=
  characters.dropWhile isLineBlank

/-! ## Strings -/

/-- Where the reader stands inside a quoted string: among plain characters, behind
a backslash, inside the digits of a code point, behind a backslash and blanks that
must reach the end of the line, or behind that end, where blank space is left
out. -/
inductive QuotedState where
  | plain
  | escaped
  | code (missing value : Nat)
  | beforeLineEnd
  | afterLineEnd

def shortEscape? (character : Char) : Option Char :=
  match character with
  | 'b' => some '\x08'
  | 't' => some '\t'
  | 'n' => some '\n'
  | 'f' => some '\x0c'
  | 'r' => some '\r'
  | '"' => some '"'
  | '\\' => some '\\'
  | _ => none

/-- Finish a string of several lines at a run of quotes, three of which end it.
Up to two more belong to the string; they come first. -/
def closeMultiline (quote : Char) (gathered afterDelimiter : List Char) : String × List Char :=
  let inside := ((afterDelimiter.takeWhile (· = quote)).take 2)
  (String.ofList (gathered.reverse ++ inside), afterDelimiter.drop inside.length)

/-- Read a quoted string behind its opening quotes.  The characters gathered so far
are kept in reverse. -/
def readQuotedFrom (multiline : Bool) :
    QuotedState → List Char → List Char → Attempt (String × List Char)
  | _, _, [] => stopHere .endOfText []
  | .plain, gathered, character :: rest =>
      if character = '"' then
        if multiline then
          match rest with
          | '"' :: '"' :: rest => .ok (closeMultiline '"' gathered rest)
          | _ => readQuotedFrom multiline .plain ('"' :: gathered) rest
        else .ok (String.ofList gathered.reverse, rest)
      else if character = '\\' then readQuotedFrom multiline .escaped gathered rest
      else if isTextCharacter character || (multiline && character = '\n') then
        readQuotedFrom multiline .plain (character :: gathered) rest
      else stopHere .controlCharacter rest
  | .escaped, gathered, character :: rest =>
      if character = 'u' then readQuotedFrom multiline (.code 4 0) gathered rest
      else if character = 'U' then readQuotedFrom multiline (.code 8 0) gathered rest
      else if multiline && character = '\n' then
        readQuotedFrom multiline .afterLineEnd gathered rest
      else if multiline && isLineBlank character then
        readQuotedFrom multiline .beforeLineEnd gathered rest
      else
        match shortEscape? character with
        | some plain => readQuotedFrom multiline .plain (plain :: gathered) rest
        | none => stopHere .invalidEscape rest
  | .code missing value, gathered, character :: rest =>
      match hexValue? character with
      | none => stopHere .invalidEscape rest
      | some digit =>
          let value := value * 16 + digit
          if 1 < missing then readQuotedFrom multiline (.code (missing - 1) value) gathered rest
          else if value.isValidChar then
            readQuotedFrom multiline .plain (Char.ofNat value :: gathered) rest
          else stopHere .invalidEscape rest
  | .beforeLineEnd, gathered, character :: rest =>
      if character = '\n' then readQuotedFrom multiline .afterLineEnd gathered rest
      else if isLineBlank character then readQuotedFrom multiline .beforeLineEnd gathered rest
      else stopHere .invalidEscape rest
  | .afterLineEnd, gathered, character :: rest =>
      if isLineBlank character || character = '\n' then
        readQuotedFrom multiline .afterLineEnd gathered rest
      else if character = '"' then
        match rest with
        | '"' :: '"' :: rest => .ok (closeMultiline '"' gathered rest)
        | _ => readQuotedFrom multiline .plain ('"' :: gathered) rest
      else if character = '\\' then readQuotedFrom multiline .escaped gathered rest
      else if isTextCharacter character then
        readQuotedFrom multiline .plain (character :: gathered) rest
      else stopHere .controlCharacter rest

/-- Read a literal string of several lines behind its opening quotes. -/
def readLiteralLines (gathered : List Char) : List Char → Attempt (String × List Char)
  | [] => stopHere .endOfText []
  | character :: rest =>
      if character = '\'' then
        match rest with
        | '\'' :: '\'' :: rest => .ok (closeMultiline '\'' gathered rest)
        | _ => readLiteralLines ('\'' :: gathered) rest
      else if isTextCharacter character || character = '\n' then
        readLiteralLines (character :: gathered) rest
      else stopHere .controlCharacter rest

/-- Read a literal string of one line behind its opening quote. -/
def readLiteral (characters : List Char) : Attempt (String × List Char) :=
  let isInside (character : Char) := isTextCharacter character && character ≠ '\''
  match characters.dropWhile isInside with
  | '\'' :: rest => .ok (String.ofList (characters.takeWhile isInside), rest)
  | [] => stopHere .endOfText []
  | _ :: rest => stopHere .controlCharacter rest

/-- Leave out the line feed behind the quotes that open a string of several
lines. -/
def dropFirstLineEnd : List Char → List Char
  | '\n' :: rest => rest
  | characters => characters

/-- Read a quoted or literal string of one line, as keys may be. -/
def readLineString? : List Char → Option (Attempt (String × List Char))
  | '"' :: rest => some (readQuotedFrom false .plain [] rest)
  | '\'' :: rest => some (readLiteral rest)
  | _ => none

def readString? : List Char → Option (Attempt (String × List Char))
  | '"' :: '"' :: '"' :: rest =>
      some (readQuotedFrom true .plain [] (dropFirstLineEnd rest))
  | '\'' :: '\'' :: '\'' :: rest => some (readLiteralLines [] (dropFirstLineEnd rest))
  | characters => readLineString? characters

/-! ## Numbers -/

/-- Take digits between which single underscores may stand. -/
def takeDigits (isDigit : Char → Bool) : List Char → Attempt (List Char × List Char)
  | [] => stopHere .invalidNumber []
  | first :: rest =>
      if isDigit first then go [first] rest else stopAtNext .invalidNumber (first :: rest)
where
  go (taken : List Char) : List Char → Attempt (List Char × List Char)
    | [] => .ok (taken.reverse, [])
    | '_' :: digit :: rest =>
        if isDigit digit then go (digit :: taken) rest
        else stopAtNext .invalidNumber (digit :: rest)
    | character :: rest =>
        if isDigit character then go (character :: taken) rest
        else if character = '_' then stopHere .invalidNumber rest
        else .ok (taken.reverse, character :: rest)

/-- Take the sign of a number; it is negative or not. -/
def takeSign : List Char → Bool × List Char
  | '-' :: rest => (true, rest)
  | '+' :: rest => (false, rest)
  | rest => (false, rest)

def wholeNumber (negative : Bool) (magnitude : Nat) (rest : List Char) :
    Attempt (Toml × List Char) :=
  let value : Int := if negative then -magnitude else magnitude
  if -Int.pow 2 63 ≤ value ∧ value < Int.pow 2 63 then .ok (.integer value, rest)
  else stopHere .numberOutOfRange rest

/-- Read a whole number in a base other than ten behind its two first
characters. -/
def readInBase (base : Nat) (characters : List Char) : Attempt (Toml × List Char) := do
  let isDigit (character : Char) : Bool :=
    match hexValue? character with
    | none => false
    | some value => decide (value < base)
  let (digits, rest) ← takeDigits isDigit characters
  wholeNumber false (valueInBase base digits) rest

/-- Check that a number with a fraction or an exponent is not too large. -/
def decimalNumber (negative : Bool) (digits : List Char) (power : Int)
    (written rest : List Char) : Attempt (Toml × List Char) :=
  let magnitude := digitsValue digits
  if !negative && (Decimal.Binary64.ofDecimal negative magnitude power).isNone then
    stopHere .numberOutOfRange rest
  else
    .ok (.decimal (String.ofList (written.take (written.length - rest.length))), rest)

def readPower (characters : List Char) : Attempt (Int × List Char) := do
  let (downward, unsigned) := takeSign characters
  let (digits, rest) ← takeDigits Char.isDigit unsigned
  let power : Int := digitsValue digits
  .ok (if downward then -power else power, rest)

def readPowerIfAny : List Char → Attempt (Int × List Char)
  | 'e' :: rest => readPower rest
  | 'E' :: rest => readPower rest
  | rest => .ok (0, rest)

/-- Read the digits in front of a point: a single zero, or digits that start with
another one. -/
def readWholeDigits : List Char → Attempt (List Char × List Char)
  | '0' :: rest => .ok (['0'], rest)
  | characters => takeDigits Char.isDigit characters

def readDecimal (characters : List Char) : Attempt (Toml × List Char) := do
  let (negative, unsigned) := takeSign characters
  match unsigned with
  | 'i' :: 'n' :: 'f' :: rest =>
      .ok (.decimal (String.ofList (characters.take (characters.length - rest.length))), rest)
  | 'n' :: 'a' :: 'n' :: rest =>
      .ok (.decimal (String.ofList (characters.take (characters.length - rest.length))), rest)
  | unsigned =>
      let (whole, rest) ← readWholeDigits unsigned
      match rest with
      | '.' :: rest =>
          let (fraction, rest) ← takeDigits Char.isDigit rest
          let (power, rest) ← readPowerIfAny rest
          decimalNumber negative (whole ++ fraction) (power - fraction.length) characters rest
      | 'e' :: rest =>
          let (power, rest) ← readPower rest
          decimalNumber negative whole power characters rest
      | 'E' :: rest =>
          let (power, rest) ← readPower rest
          decimalNumber negative whole power characters rest
      | rest => wholeNumber negative (digitsValue whole) rest

def readNumber : List Char → Attempt (Toml × List Char)
  | '0' :: 'x' :: rest => readInBase 16 rest
  | '0' :: 'o' :: rest => readInBase 8 rest
  | '0' :: 'b' :: rest => readInBase 2 rest
  | characters => readDecimal characters

/-! ## Dates and times -/

/-- Take a number of a fixed count of digits within bounds. -/
def takeBounded? (count least greatest : Nat) (characters : List Char) :
    Option (Nat × List Char) :=
  let digits := characters.take count
  let value := digitsValue digits
  if digits.length = count ∧ digits.all Char.isDigit ∧ least ≤ value ∧ value ≤ greatest then
    some (value, characters.drop count)
  else none

def takeMark? (mark : Char) : List Char → Option (List Char)
  | [] => none
  | character :: rest => if character = mark then some rest else none

def daysIn (year month : Nat) : Nat :=
  if month = 2 then
    if year % 4 = 0 ∧ (year % 100 ≠ 0 ∨ year % 400 = 0) then 29 else 28
  else if month ∈ [4, 6, 9, 11] then 30
  else 31

/-- Take the month and the day behind the year of a date. -/
def takeMonthAndDay? (year : Nat) (characters : List Char) : Option (List Char) := do
  let (month, rest) ← takeBounded? 2 1 12 characters
  let rest ← takeMark? '-' rest
  let (_, rest) ← takeBounded? 2 1 (daysIn year month) rest
  some rest

/-- Take the minute and the second behind the hour of a time. -/
def takeMinuteAndSecond? (characters : List Char) : Option (List Char) := do
  let (_, rest) ← takeBounded? 2 0 59 characters
  let rest ← takeMark? ':' rest
  let (_, rest) ← takeBounded? 2 0 60 rest
  match rest with
  | '.' :: digit :: more =>
      some (if digit.isDigit then more.dropWhile Char.isDigit else rest)
  | rest => some rest

/-- Take the distance from universal time, if there is one. -/
def takeOffset? : List Char → Option (List Char)
  | [] => some []
  | character :: rest =>
      if character = 'Z' ∨ character = 'z' then some rest
      else if character = '+' ∨ character = '-' then do
        let (_, rest) ← takeBounded? 2 0 23 rest
        let rest ← takeMark? ':' rest
        let (_, rest) ← takeBounded? 2 0 59 rest
        some rest
      else some (character :: rest)

def takeHour? (characters : List Char) : Option (List Char) := do
  let (_, rest) ← takeBounded? 2 0 23 characters
  takeMark? ':' rest

def takeTimeBehindDate? : List Char → Option (List Char)
  | [] => some []
  | character :: rest =>
      if character ∈ ['T', 't', ' '] then
        match takeHour? rest with
        | none => some (character :: rest)
        | some rest => (takeMinuteAndSecond? rest).bind takeOffset?
      else some (character :: rest)

/-- Read a date, a time or both; `none` if the text starts otherwise. -/
def readMoment? (characters : List Char) : Option (Attempt (Toml × List Char)) :=
  let finish (rest? : Option (List Char)) : Attempt (Toml × List Char) :=
    match rest? with
    | none => stopHere .invalidDate characters
    | some rest =>
        .ok (.moment (String.ofList (characters.take (characters.length - rest.length))), rest)
  match takeBounded? 4 0 9999 characters with
  | some (year, '-' :: rest) =>
      some (finish ((takeMonthAndDay? year rest).bind takeTimeBehindDate?))
  | _ =>
      match takeHour? characters with
      | some rest => some (finish (takeMinuteAndSecond? rest))
      | none => none

/-! ## Values that hold no others -/

def readScalar (characters : List Char) : Attempt (Toml × List Char) :=
  match readString? characters with
  | some reading => withValue reading .string
  | none =>
      match characters with
      | 't' :: 'r' :: 'u' :: 'e' :: rest => .ok (.bool true, rest)
      | 'f' :: 'a' :: 'l' :: 's' :: 'e' :: rest => .ok (.bool false, rest)
      | [] => stopHere .endOfText []
      | first :: _ =>
          if first.isDigit ∨ first ∈ ['+', '-', 'i', 'n'] then
            match readMoment? characters with
            | some reading => reading
            | none => readNumber characters
          else stopAtNext .expectedValue characters

end BrowserRelay.Toml
