/-!
# Shell commands

A service may be a shell script.  This module holds what such a script consists of:
words, which are expanded before they are used, and the commands made of them.
-/

namespace BrowserRelay.Shell

/-- A text of bytes, each held as the character of its value. -/
abbrev ByteText := List Char

/-- What a parameter expands to.  The flags say whether an empty value counts as
missing, and whether the longest match is dropped. -/
inductive ParameterUse where
  | value
  | length
  | orElse (evenIfEmpty : Bool)
  | assign (evenIfEmpty : Bool)
  | require (evenIfEmpty : Bool)
  | instead (evenIfEmpty : Bool)
  | dropFront (longest : Bool)
  | dropBack (longest : Bool)

/-- A part of a word. -/
inductive WordPart where
  | plain (text : ByteText)
  | quoted (text : ByteText)
  | parameter (inQuotes : Bool) (name : ByteText) (use : ParameterUse) (operand : List WordPart)
  | arithmetic (inQuotes : Bool) (operand : List WordPart)
  | output (inQuotes : Bool) (script : ByteText)

abbrev Word := List WordPart

/-- How a stream of a command is redirected. -/
inductive RedirectionKind where
  | reading
  | writing
  | sameAs
  deriving DecidableEq

/-- A redirection of a stream, which is input, output or error output by its
number. -/
structure Redirection where
  stream : Nat
  kind : RedirectionKind
  target : Word

/-- A command. -/
inductive Command where
  | nothing
  | simple (assignments : List (ByteText × Word)) (words : List Word)
  | redirected (command : Command) (redirections : List Redirection)
  | pipeline (first second : Command)
  | negated (command : Command)
  | both (first second : Command)
  | either (first second : Command)
  | sequence (first second : Command)
  | conditional (test consequent alternative : Command)
  | loop (whileFails : Bool) (test body : Command)
  | forEach (name : ByteText) (items : Option (List Word)) (body : Command)
  | choose (subject : Word) (branches : List (List Word × Command))
  | subshell (body : Command)
  | background (body : Command)
  | define (name : ByteText) (body : Command)

def ofBytes (bytes : List UInt8) : ByteText :=
  bytes.map fun byte => Char.ofNat byte.toNat

def bytesOf (text : String) : ByteText :=
  ofBytes text.toUTF8.toList

def toBytes (text : ByteText) : List UInt8 :=
  text.map fun character => character.toNat.toUInt8

end BrowserRelay.Shell
