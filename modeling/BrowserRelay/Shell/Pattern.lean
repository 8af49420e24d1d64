import BrowserRelay.Shell.Command

/-!
# Patterns of a shell script

A pattern is read from characters that know whether they were quoted: a quoted
character stands only for itself.
-/

namespace BrowserRelay.Shell

/-- A character of a pattern and whether it was quoted. -/
structure PatternCharacter where
  character : Char
  isQuoted : Bool

/-- What a bracket accepts: a range of characters, or a class of them by its name. -/
inductive BracketItem where
  | range (least greatest : Char)
  | named (name : String)

/-- A part of a pattern. -/
inductive PatternPart where
  | exactly (character : Char)
  | anyOne
  | anyMany
  | bracket (excluded : Bool) (items : List BracketItem)

/-- Whether a character belongs to a class. -/
def isInClass (name : String) (character : Char) : Bool :=
  match name with
  | "alpha" => character.isAlpha
  | "digit" => character.isDigit
  | "alnum" => character.isAlphanum
  | "upper" => character.isUpper
  | "lower" => character.isLower
  | "space" => character ∈ [' ', '\t', '\n', '\x0b', '\x0c', '\r']
  | "blank" => character = ' ' || character = '\t'
  | "xdigit" =>
      character.isDigit || ('a' ≤ character && character ≤ 'f') ||
        ('A' ≤ character && character ≤ 'F')
  | "punct" =>
      0x21 ≤ character.toNat && character.toNat ≤ 0x7E && !character.isAlphanum
  | _ => false

/-- Whether an item of a bracket accepts a character. -/
def BracketItem.accepts (character : Char) : BracketItem → Bool
  | range least greatest => least ≤ character && character ≤ greatest
  | named name => isInClass name character

/-- Whether a part of a pattern accepts a single character. -/
def PatternPart.accepts (character : Char) : PatternPart → Bool
  | exactly expected => character = expected
  | anyOne => true
  | anyMany => false
  | bracket excluded items => items.any (·.accepts character) != excluded

/-- Take the items of a bracket behind its start.  A closing bracket in first place
stands for itself. -/
def takeBracket : (fuel : Nat) → (isFirst : Bool) → List BracketItem →
    List PatternCharacter → Option (List BracketItem × List PatternCharacter)
  | 0, _, _, _ => none
  | fuel + 1, isFirst, items, characters =>
      match characters with
      | [] => none
      | ⟨']', false⟩ :: rest =>
          if isFirst then takeBracket fuel false (.range ']' ']' :: items) rest
          else some (items, rest)
      | ⟨'[', false⟩ :: ⟨':', false⟩ :: rest =>
          let name := rest.takeWhile fun next => next.character ≠ ':'
          match rest.dropWhile fun next => next.character ≠ ':' with
          | _ :: ⟨']', _⟩ :: rest =>
              takeBracket fuel false
                (.named (String.ofList (name.map PatternCharacter.character)) :: items) rest
          | _ => none
      | ⟨least, _⟩ :: ⟨'-', false⟩ :: ⟨greatest, isQuoted⟩ :: rest =>
          if greatest = ']' && !isQuoted then
            takeBracket fuel false (.range least least :: items)
              (⟨'-', false⟩ :: ⟨greatest, isQuoted⟩ :: rest)
          else takeBracket fuel false (.range least greatest :: items) rest
      | ⟨character, _⟩ :: rest =>
          takeBracket fuel false (.range character character :: items) rest

/-- Read a pattern.  A bracket that is never closed stands for itself. -/
def readPattern : (fuel : Nat) → List PatternCharacter → List PatternPart
  | 0, _ => []
  | _, [] => []
  | fuel + 1, ⟨character, isQuoted⟩ :: rest =>
      if isQuoted then .exactly character :: readPattern fuel rest
      else if character = '*' then .anyMany :: readPattern fuel rest
      else if character = '?' then .anyOne :: readPattern fuel rest
      else if character = '[' then
        let (excluded, inside) :=
          match rest with
          | ⟨'!', false⟩ :: inside => (true, inside)
          | ⟨'^', false⟩ :: inside => (true, inside)
          | inside => (false, inside)
        match takeBracket (inside.length + 1) true [] inside with
        | some (items, rest) => .bracket excluded items :: readPattern fuel rest
        | none => .exactly '[' :: readPattern fuel rest
      else .exactly character :: readPattern fuel rest

def patternOf (characters : List PatternCharacter) : List PatternPart :=
  readPattern (characters.length + 1) characters

def accepts : List PatternPart → ByteText → Bool
  | [], text => text.isEmpty
  | .anyMany :: parts, [] => accepts parts []
  | .anyMany :: parts, character :: text =>
      accepts parts (character :: text) || accepts (.anyMany :: parts) text
  | _ :: _, [] => false
  | part :: parts, character :: text => part.accepts character && accepts parts text
termination_by parts text => parts.length + text.length

/-- The lengths that the front of a text may have, shortest first. -/
def lengthsOf (text : ByteText) : List Nat :=
  List.range (text.length + 1)

/-- Drop the shortest or longest front of a text that a pattern accepts. -/
def dropFront (longest : Bool) (pattern : List PatternPart) (text : ByteText) : ByteText :=
  let lengths := if longest then (lengthsOf text).reverse else lengthsOf text
  match lengths.find? fun length => accepts pattern (text.take length) with
  | some length => text.drop length
  | none => text

/-- Drop the shortest or longest back of a text that a pattern accepts. -/
def dropBack (longest : Bool) (pattern : List PatternPart) (text : ByteText) : ByteText :=
  let lengths := if longest then lengthsOf text else (lengthsOf text).reverse
  match lengths.find? fun length => accepts pattern (text.drop length) with
  | some length => text.take length
  | none => text

end BrowserRelay.Shell
