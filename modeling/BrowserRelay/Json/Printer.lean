import BrowserRelay.Json.NumberText

/-!
# Writing JSON

Compact text has no blanks; pretty text puts every item and member on a line of
its own, indented by two blanks for each level.  In strings, only the quote, the
backslash and the control characters below U+0020 are escaped.
-/

namespace BrowserRelay.Json

/-- The lower-case hexadecimal digit of a number below sixteen. -/
def hexDigit (value : Nat) : Char := Nat.digitChar value

def escapedChar (character : Char) : List Char :=
  if character = '"' then ['\\', '"']
  else if character = '\\' then ['\\', '\\']
  else if character = '\x08' then ['\\', 'b']
  else if character = '\x0c' then ['\\', 'f']
  else if character = '\n' then ['\\', 'n']
  else if character = '\r' then ['\\', 'r']
  else if character = '\t' then ['\\', 't']
  else if character.toNat < 0x20 then
    ['\\', 'u', '0', '0', hexDigit (character.toNat / 16), hexDigit (character.toNat % 16)]
  else [character]

def quoted (text : String) : List Char :=
  '"' :: (text.toList.flatMap escapedChar ++ ['"'])

mutual

def compactChars : Json → List Char
  | .null => ['n', 'u', 'l', 'l']
  | .bool true => ['t', 'r', 'u', 'e']
  | .bool false => ['f', 'a', 'l', 's', 'e']
  | .number value => numberText value
  | .string text => quoted text
  | .array items => '[' :: compactItems items
  | .object members => '\x7b' :: compactMembers members

def compactItems : List Json → List Char
  | [] => [']']
  | [item] => compactChars item ++ [']']
  | item :: rest => compactChars item ++ ',' :: compactItems rest

/-- The members of an object up to its closing brace. -/
def compactMembers : List (String × Json) → List Char
  | [] => ['\x7d']
  | [(key, value)] => quoted key ++ ':' :: (compactChars value ++ ['\x7d'])
  | (key, value) :: rest =>
      quoted key ++ ':' :: (compactChars value ++ ',' :: compactMembers rest)

end

def compact (value : Json) : String := String.ofList (compactChars value)

def lineStart (level : Nat) : List Char :=
  '\n' :: List.replicate (2 * level) ' '

mutual

/-- The pretty text of a value that stands at a level of indentation. -/
def prettyChars (level : Nat) : Json → List Char
  | .array items => '[' :: prettyItems level items
  | .object members => '\x7b' :: prettyMembers level members
  | .null => compactChars .null
  | .bool value => compactChars (.bool value)
  | .number value => compactChars (.number value)
  | .string text => compactChars (.string text)

def prettyItems (level : Nat) : List Json → List Char
  | [] => [']']
  | [item] => lineStart (level + 1) ++ prettyChars (level + 1) item ++ lineStart level ++ [']']
  | item :: rest =>
      lineStart (level + 1) ++ prettyChars (level + 1) item ++ ',' :: prettyItems level rest

/-- The members of an object up to its closing brace. -/
def prettyMembers (level : Nat) : List (String × Json) → List Char
  | [] => ['\x7d']
  | [(key, value)] =>
      lineStart (level + 1) ++ quoted key ++ ':' :: ' ' :: prettyChars (level + 1) value ++
        lineStart level ++ ['\x7d']
  | (key, value) :: rest =>
      lineStart (level + 1) ++ quoted key ++ ':' :: ' ' :: prettyChars (level + 1) value ++
        ',' :: prettyMembers level rest

end

def pretty (value : Json) : String := String.ofList (prettyChars 0 value)

end BrowserRelay.Json
