import BrowserRelay.Toml.Scalar
import BrowserRelay.Toml.Tables

/-!
# Reading TOML

A document is a sequence of lines: headers that open a table, keys with their
values, comments and blank lines.  Arrays may span lines; inline tables may not.
-/

namespace BrowserRelay.Toml

/-- How many parts a dotted key has at most, and how deeply arrays and inline tables
are nested at most. -/
def depthLimit : Nat := 79

/-! ## Space, comments and keys -/

def skipComment : List Char → Attempt (Unit × List Char)
  | '#' :: rest =>
      match rest.dropWhile isTextCharacter with
      | [] => .ok ((), [])
      | '\n' :: rest => .ok ((), '\n' :: rest)
      | rest => stopAtNext .controlCharacter rest
  | characters => .ok ((), characters)

/-- Pass over the rest of a line, which holds only blanks and a comment. -/
def readLineEnd (characters : List Char) : Attempt (Unit × List Char) := do
  let ((), rest) ← skipComment (skipLineBlanks characters)
  match rest with
  | [] => .ok ((), [])
  | '\n' :: rest => .ok ((), rest)
  | rest => stopAtNext .expectedLineEnd rest

def skipSpace (inComment : Bool) : List Char → Attempt (Unit × List Char)
  | [] => if inComment then stopHere .endOfText [] else .ok ((), [])
  | character :: rest =>
      if character = '\n' then skipSpace false rest
      else if inComment then
        if isTextCharacter character then skipSpace true rest
        else stopHere .controlCharacter rest
      else if isLineBlank character then skipSpace false rest
      else if character = '#' then skipSpace true rest
      else .ok ((), character :: rest)

/-- Whether a character may stand in a key that is not quoted. -/
def isKeyCharacter (character : Char) : Bool :=
  character.isAlphanum || character = '-' || character = '_'

def readKeyPart (characters : List Char) : Attempt (String × List Char) :=
  match readLineString? characters with
  | some reading => reading
  | none =>
      match characters.takeWhile isKeyCharacter with
      | [] => stopAtNext .expectedKey characters
      | part => .ok (String.ofList part, characters.dropWhile isKeyCharacter)

/-- Read the parts of a key that come behind some others, kept in reverse.  The
answer is the last part and those before it, in order. -/
def readKeyFrom (before : List String) (limit : Nat) (characters : List Char) :
    Attempt ((List String × String) × List Char) := do
  let (part, rest) ← readKeyPart (skipLineBlanks characters)
  match skipLineBlanks rest, limit with
  | '.' :: rest, limit + 1 => readKeyFrom (part :: before) limit rest
  | '.' :: rest, 0 => stopHere .tooDeep rest
  | rest, _ => .ok ((before.reverse, part), rest)

/-- Read a key of one or more parts with the blanks around them. -/
def readKey (characters : List Char) : Attempt ((List String × String) × List Char) :=
  readKeyFrom [] (depthLimit - 1) characters

def readMark (mark : Char) : List Char → Attempt (Unit × List Char)
  | [] => stopHere .endOfText []
  | character :: rest =>
      if character = mark then .ok ((), rest)
      else stopAtNext .unexpectedCharacter (character :: rest)

/-- Give a fault of the tables the place behind the characters taken so far. -/
def placed {α : Type} (rest : List Char) (result : Except ReadFault α) : Attempt α :=
  match result with
  | .error fault => .error ⟨fault, rest, false⟩
  | .ok value => .ok value

/-! ## Values -/

mutual

/-- Read a value.  `depth` is the number of containers that may still be opened;
each step takes a character or starts an item, so fuel of twice the number of
characters suffices. -/
def readValueFrom : (fuel depth : Nat) → List Char → Attempt (Toml × List Char)
  | 0, _, rest => stopHere .endOfText rest
  | fuel + 1, depth, characters =>
      match characters, depth with
      | '[' :: rest, 0 => stopHere .tooDeep rest
      | '\x7b' :: rest, 0 => stopHere .tooDeep rest
      | '[' :: rest, depth + 1 => do
          let (items, rest) ← readItems fuel depth [] rest
          .ok (.array items, rest)
      | '\x7b' :: rest, depth + 1 =>
          match skipLineBlanks rest with
          | '\x7d' :: rest => .ok (.table [], rest)
          | _ => do
              let (entries, rest) ← readMembers fuel depth [] rest
              .ok (.table (Entry.membersToValues entries), rest)
      | characters, _ => readScalar characters

/-- Read the items of an array up to its end; those read are kept in reverse. -/
def readItems : (fuel depth : Nat) → List Toml → List Char → Attempt (List Toml × List Char)
  | 0, _, _, rest => stopHere .endOfText rest
  | fuel + 1, depth, items, characters => do
      let ((), rest) ← skipSpace false characters
      match rest with
      | ']' :: rest => .ok (items.reverse, rest)
      | rest =>
          let (item, rest) ← readValueFrom fuel depth rest
          let ((), rest) ← skipSpace false rest
          match rest with
          | ',' :: rest => readItems fuel depth (item :: items) rest
          | rest =>
              let ((), rest) ← readMark ']' rest
              .ok ((item :: items).reverse, rest)

/-- Read the members of an inline table up to its end. -/
def readMembers : (fuel depth : Nat) → Entries → List Char → Attempt (Entries × List Char)
  | 0, _, _, rest => stopHere .endOfText rest
  | fuel + 1, depth, entries, characters => do
      let ((path, key), rest) ← readKey characters
      let ((), rest) ← readMark '=' rest
      let (value, rest) ← readValueFrom fuel depth (skipLineBlanks rest)
      let entries ← placed rest (entries.addValue path key value)
      match skipLineBlanks rest with
      | ',' :: rest => readMembers fuel depth entries rest
      | rest =>
          let ((), rest) ← readMark '\x7d' rest
          .ok (entries, rest)

end

/-- Read a value at the start of a text, leaving what follows it. -/
def readValue (characters : List Char) : Attempt (Toml × List Char) :=
  readValueFrom (2 * characters.length + 2) depthLimit characters

/-! ## Documents -/

/-- A document read in part: its tables and the path of the table that was opened
last. -/
structure Draft where
  entries : Entries := []
  opened : List String := []

def readHeader (draft : Draft) (characters : List Char) : Attempt (Draft × List Char) := do
  match characters with
  | '[' :: characters =>
      let ((path, key), rest) ← readKey characters
      let ((), rest) ← readMark ']' rest
      let ((), rest) ← readMark ']' rest
      let ((), rest) ← readLineEnd rest
      let entries ← placed rest (draft.entries.openNextTable path key)
      .ok (⟨entries, path ++ [key]⟩, rest)
  | characters =>
      let ((path, key), rest) ← readKey characters
      let ((), rest) ← readMark ']' rest
      let ((), rest) ← readLineEnd rest
      let entries ← placed rest (draft.entries.openTable path key)
      .ok (⟨entries, path ++ [key]⟩, rest)

def readKeyValue (draft : Draft) (characters : List Char) : Attempt (Draft × List Char) := do
  let ((path, key), rest) ← readKey characters
  let ((), rest) ← readMark '=' rest
  let (value, rest) ← readValue (skipLineBlanks rest)
  let ((), rest) ← readLineEnd rest
  let entries ← placed rest (draft.entries.addValueTo draft.opened path key value)
  .ok (⟨entries, draft.opened⟩, rest)

/-- Read a line of a document, or several that belong together. -/
def readStatement (draft : Draft) (characters : List Char) : Attempt (Draft × List Char) := do
  match characters with
  | '\n' :: rest => .ok (draft, rest)
  | '#' :: _ =>
      let ((), rest) ← readLineEnd characters
      .ok (draft, rest)
  | '[' :: rest => readHeader draft rest
  | _ => readKeyValue draft characters

/-- Read the lines of a document.  Each takes a character, so their number is
fuel. -/
def readStatements : (fuel : Nat) → Draft → List Char → Attempt Draft
  | 0, draft, _ => .ok draft
  | fuel + 1, draft, characters =>
      match skipLineBlanks characters with
      | [] => .ok draft
      | characters => do
          let (draft, rest) ← readStatement draft characters
          readStatements fuel draft rest

/-- Drop the carriage returns in front of line feeds. -/
def plainLineEnds : List Char → List Char
  | [] => []
  | '\r' :: '\n' :: rest => '\n' :: plainLineEnds rest
  | character :: rest => character :: plainLineEnds rest

def dropByteOrderMark : List Char → List Char
  | '\uFEFF' :: rest => rest
  | characters => characters

/-- Read a document: the members of its outermost table. -/
def parse (text : String) : Except (ReadError ReadFault) (List (String × Toml)) :=
  let characters := plainLineEnds (dropByteOrderMark text.toList)
  match readStatements (characters.length + 1) {} characters with
  | .error stop => .error (stop.locate characters)
  | .ok draft => .ok (Entry.membersToValues draft.entries)

end BrowserRelay.Toml
