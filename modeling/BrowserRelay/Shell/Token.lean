import BrowserRelay.Shell.Command

/-!
# Words and operators of a shell script

A script is cut into words, operators and redirections.  What counts as special
depends on where a character stands: outside of quotes, inside double quotes,
inside the braces of a parameter or inside an arithmetic expression.
-/

namespace BrowserRelay.Shell

/-- A token of a script. -/
inductive Token where
  | word (word : Word)
  | operator (text : String)
  | redirection (stream : Nat) (kind : RedirectionKind)

/-- Where a part of a word stands. -/
inductive WordPlace where
  | bare
  | doubleQuotes
  | braces (inQuotes : Bool)
  | arithmetic (openParentheses : Nat)

/-- Whether what stands here is expanded as in double quotes. -/
def WordPlace.inQuotes : WordPlace → Bool
  | bare => false
  | doubleQuotes => true
  | braces inQuotes => inQuotes
  | arithmetic _ => true

def isNameStart (character : Char) : Bool :=
  character.isAlpha || character = '_'

def isNameCharacter (character : Char) : Bool :=
  character.isAlphanum || character = '_'

def endsWord (character : Char) : Bool :=
  character ∈ [' ', '\t', '\n', ';', '&', '|', '(', ')', '<', '>']

/-- Whether a backslash takes the meaning of a character at a place. -/
def isEscapable (place : WordPlace) (character : Char) : Bool :=
  match place with
  | .bare => true
  | .braces false => true
  | .braces true => character ∈ ['$', '\x60', '"', '\\', '\x7d']
  | _ => character ∈ ['$', '\x60', '"', '\\']

/-- Whether a quote ends a text, and whether a parenthesis does, while the end of a
command in parentheses is looked for. -/
inductive ScanState where
  | plain
  | singleQuotes
  | doubleQuotes
  | escaped (before : Bool)

/-- Take the text of a command up to the parenthesis that closes it; the characters
taken so far are kept in reverse. -/
def takeCommand : ScanState → (openParentheses : Nat) → ByteText → ByteText →
    Option (ByteText × ByteText)
  | _, _, _, [] => none
  | .plain, opened, taken, character :: rest =>
      if character = ')' then
        match opened with
        | 0 => some (taken.reverse, rest)
        | opened + 1 => takeCommand .plain opened (character :: taken) rest
      else if character = '(' then takeCommand .plain (opened + 1) (character :: taken) rest
      else if character = '\'' then takeCommand .singleQuotes opened (character :: taken) rest
      else if character = '"' then takeCommand .doubleQuotes opened (character :: taken) rest
      else if character = '\\' then
        takeCommand (.escaped false) opened (character :: taken) rest
      else takeCommand .plain opened (character :: taken) rest
  | .singleQuotes, opened, taken, character :: rest =>
      takeCommand (if character = '\'' then .plain else .singleQuotes) opened
        (character :: taken) rest
  | .doubleQuotes, opened, taken, character :: rest =>
      if character = '"' then takeCommand .plain opened (character :: taken) rest
      else if character = '\\' then
        takeCommand (.escaped true) opened (character :: taken) rest
      else takeCommand .doubleQuotes opened (character :: taken) rest
  | .escaped inQuotes, opened, taken, character :: rest =>
      takeCommand (if inQuotes then .doubleQuotes else .plain) opened (character :: taken) rest

def takeBackquoted (escaped : Bool) (taken : ByteText) : ByteText →
    Option (ByteText × ByteText)
  | [] => none
  | character :: rest =>
      if escaped then
        if character ∈ ['$', '\x60', '\\'] then takeBackquoted false (character :: taken) rest
        else takeBackquoted false (character :: '\\' :: taken) rest
      else if character = '\\' then takeBackquoted true taken rest
      else if character = '\x60' then some (taken.reverse, rest)
      else takeBackquoted false (character :: taken) rest

/-- Take the name of a parameter: a name, a number or a special character. -/
def takeParameterName (characters : ByteText) : Option (ByteText × ByteText) :=
  match characters with
  | [] => none
  | first :: rest =>
      if isNameStart first then
        some (characters.takeWhile isNameCharacter, characters.dropWhile isNameCharacter)
      else if first.isDigit then some ([first], rest)
      else if first ∈ ['?', '$', '#', '@', '*', '!', '-'] then some ([first], rest)
      else none

/-- Take what is asked of a parameter behind its name. -/
def takeParameterUse : ByteText → ParameterUse × ByteText
  | ':' :: '-' :: rest => (.orElse true, rest)
  | ':' :: '=' :: rest => (.assign true, rest)
  | ':' :: '?' :: rest => (.require true, rest)
  | ':' :: '+' :: rest => (.instead true, rest)
  | '-' :: rest => (.orElse false, rest)
  | '=' :: rest => (.assign false, rest)
  | '?' :: rest => (.require false, rest)
  | '+' :: rest => (.instead false, rest)
  | '#' :: '#' :: rest => (.dropFront true, rest)
  | '#' :: rest => (.dropFront false, rest)
  | '%' :: '%' :: rest => (.dropBack true, rest)
  | '%' :: rest => (.dropBack false, rest)
  | rest => (.value, rest)

def joinParts : List WordPart → List WordPart
  | [] => []
  | part :: rest =>
      match part, joinParts rest with
      | .plain first, .plain second :: others => .plain (first ++ second) :: others
      | .quoted first, .quoted second :: others => .quoted (first ++ second) :: others
      | part, others => part :: others

mutual

/-- Read the parts of a word up to the end of its place, which is passed over
unless the word is bare; the parts read so far are kept in reverse. -/
def readParts : (fuel : Nat) → WordPlace → List WordPart → ByteText →
    Option (List WordPart × ByteText)
  | 0, _, _, _ => none
  | fuel + 1, place, parts, characters =>
      let finish (rest : ByteText) := some (joinParts parts.reverse, rest)
      let literal (character : Char) : WordPart :=
        match place with
        | .doubleQuotes => .quoted [character]
        | _ => .plain [character]
      match place, characters with
      | .bare, [] => finish []
      | _, [] => none
      | .doubleQuotes, '"' :: rest => finish rest
      | .braces _, '\x7d' :: rest => finish rest
      | .arithmetic 0, ')' :: ')' :: rest => finish rest
      | .arithmetic opened, '(' :: rest =>
          readParts fuel (.arithmetic (opened + 1)) (.plain ['('] :: parts) rest
      | .arithmetic (opened + 1), ')' :: rest =>
          readParts fuel (.arithmetic opened) (.plain [')'] :: parts) rest
      | _, '\\' :: '\n' :: rest => readParts fuel place parts rest
      | _, '\\' :: character :: rest =>
          if isEscapable place character then
            readParts fuel place (.quoted [character] :: parts) rest
          else readParts fuel place (literal character :: literal '\\' :: parts) rest
      | _, '$' :: rest =>
          match readExpansion fuel place.inQuotes rest with
          | none => none
          | some (part, rest) => readParts fuel place (part :: parts) rest
      | _, '\x60' :: rest =>
          match takeBackquoted false [] rest with
          | none => none
          | some (script, rest) =>
              readParts fuel place (.output place.inQuotes script :: parts) rest
      | .doubleQuotes, character :: rest =>
          readParts fuel place (.quoted [character] :: parts) rest
      | .arithmetic _, character :: rest =>
          readParts fuel place (.plain [character] :: parts) rest
      | _, '"' :: rest =>
          match readParts fuel .doubleQuotes [] rest with
          | none => none
          | some ([], rest) => readParts fuel place (.quoted [] :: parts) rest
          | some (inner, rest) => readParts fuel place (inner.reverse ++ parts) rest
      | .braces true, character :: rest =>
          readParts fuel place (.plain [character] :: parts) rest
      | _, '\'' :: rest =>
          let inside := rest.takeWhile (· ≠ '\'')
          match rest.dropWhile (· ≠ '\'') with
          | [] => none
          | _ :: rest => readParts fuel place (.quoted inside :: parts) rest
      | .bare, character :: rest =>
          if endsWord character then finish (character :: rest)
          else readParts fuel place (.plain [character] :: parts) rest
      | .braces false, character :: rest =>
          readParts fuel place (.plain [character] :: parts) rest

/-- Read an expansion behind its dollar sign.  A dollar sign before anything else
stands for itself. -/
def readExpansion : (fuel : Nat) → (inQuotes : Bool) → ByteText → Option (WordPart × ByteText)
  | 0, _, _ => none
  | fuel + 1, inQuotes, characters =>
      match characters with
      | '(' :: '(' :: rest =>
          match readParts fuel (.arithmetic 0) [] rest with
          | none => none
          | some (operand, rest) => some (.arithmetic inQuotes operand, rest)
      | '(' :: rest =>
          match takeCommand .plain 0 [] rest with
          | none => none
          | some (script, rest) => some (.output inQuotes script, rest)
      | '\x7b' :: '#' :: '\x7d' :: rest => some (.parameter inQuotes ['#'] .value [], rest)
      | '\x7b' :: '#' :: rest =>
          match takeParameterName rest with
          | some (name, '\x7d' :: rest) => some (.parameter inQuotes name .length [], rest)
          | _ => none
      | '\x7b' :: rest =>
          let named :=
            if rest.head?.any Char.isDigit then
              some (rest.takeWhile Char.isDigit, rest.dropWhile Char.isDigit)
            else takeParameterName rest
          match named with
          | none => none
          | some (name, rest) =>
              let (use, rest) := takeParameterUse rest
              match readParts fuel (.braces inQuotes) [] rest with
              | none => none
              | some (operand, rest) => some (.parameter inQuotes name use operand, rest)
      | characters =>
          match takeParameterName characters with
          | some (name, rest) => some (.parameter inQuotes name .value [], rest)
          | none => some (if inQuotes then .quoted ['$'] else .plain ['$'], characters)

end

def takeOperator? : ByteText → Option (String × ByteText)
  | '&' :: '&' :: rest => some ("&&", rest)
  | '|' :: '|' :: rest => some ("||", rest)
  | ';' :: ';' :: rest => some (";;", rest)
  | '&' :: rest => some ("&", rest)
  | '|' :: rest => some ("|", rest)
  | ';' :: rest => some (";", rest)
  | '(' :: rest => some ("(", rest)
  | ')' :: rest => some (")", rest)
  | '\n' :: rest => some ("\n", rest)
  | _ => none

/-- Take a redirection with the number of its stream, if it has one. -/
def takeRedirection? (characters : ByteText) : Option (Nat × RedirectionKind × ByteText) :=
  let digits := characters.takeWhile Char.isDigit
  let stream (usual : Nat) : Nat :=
    match digits with
    | [] => usual
    | digits => digits.foldl (fun value digit => value * 10 + (digit.toNat - '0'.toNat)) 0
  match characters.dropWhile Char.isDigit with
  | '<' :: '&' :: rest => some (stream 0, .sameAs, rest)
  | '<' :: rest => some (stream 0, .reading, rest)
  | '>' :: '&' :: rest => some (stream 1, .sameAs, rest)
  | '>' :: '>' :: rest => some (stream 1, .writing, rest)
  | '>' :: '|' :: rest => some (stream 1, .writing, rest)
  | '>' :: rest => some (stream 1, .writing, rest)
  | _ => none

/-- Cut a script into tokens; those found so far are kept in reverse. -/
def tokensFrom : (fuel : Nat) → List Token → ByteText → Option (List Token)
  | 0, _, _ => none
  | fuel + 1, found, characters =>
      match characters with
      | [] => some found.reverse
      | ' ' :: rest => tokensFrom fuel found rest
      | '\t' :: rest => tokensFrom fuel found rest
      | '\\' :: '\n' :: rest => tokensFrom fuel found rest
      | '#' :: rest => tokensFrom fuel found (rest.dropWhile (· ≠ '\n'))
      | characters =>
          match takeRedirection? characters with
          | some (stream, kind, rest) =>
              tokensFrom fuel (.redirection stream kind :: found) rest
          | none =>
              match takeOperator? characters with
              | some (operator, rest) => tokensFrom fuel (.operator operator :: found) rest
              | none =>
                  match readParts (2 * characters.length + 2) .bare [] characters with
                  | none => none
                  | some (word, rest) => tokensFrom fuel (.word word :: found) rest

/-- Cut a script into tokens, if all quotes and brackets in it are closed. -/
def tokensOf (script : ByteText) : Option (List Token) :=
  tokensFrom (script.length + 1) [] script

end BrowserRelay.Shell
