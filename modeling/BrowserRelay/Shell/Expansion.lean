import BrowserRelay.Shell.Machine
import BrowserRelay.Shell.Pattern

/-!
# Expanded words

Expanding a word yields pieces, of which those that come from unquoted expansions
are cut into fields at the separators of the script.
-/

namespace BrowserRelay.Shell

/-- A piece of an expanded word. -/
inductive Piece where
  | fixed (isQuoted : Bool) (text : ByteText)
  | split (text : ByteText)
  | boundary

/-- The separators of fields. -/
def Machine.separators (machine : Machine) : ByteText :=
  (machine.bindings.lookup "IFS".toList).getD [' ', '\t', '\n']

def isSpace (character : Char) : Bool :=
  character = ' ' || character = '\t' || character = '\n'

/-- Fields that are being put together: those finished, in reverse, and the one in
the making, if it has begun. -/
structure FieldDraft where
  finished : List ByteText := []
  current : Option ByteText := none

def FieldDraft.add (draft : FieldDraft) (text : ByteText) : FieldDraft :=
  { draft with current := some (draft.current.getD [] ++ text) }

def FieldDraft.finish (draft : FieldDraft) : FieldDraft :=
  match draft.current with
  | none => draft
  | some field => ⟨field :: draft.finished, none⟩

/-- Add text that is cut at separators.  `afterSpace` tells that a separator which is
blank space has just ended a field, which a following separator of another kind joins. -/
def FieldDraft.addSplit (separators : ByteText) : (afterSpace : Bool) → FieldDraft →
    ByteText → FieldDraft
  | _, draft, [] => draft
  | afterSpace, draft, character :: rest =>
      if separators.contains character then
        if isSpace character then
          addSplit separators (afterSpace || draft.current.isSome) draft.finish rest
        else if afterSpace && draft.current.isNone then
          addSplit separators false draft rest
        else
          addSplit separators false
            ⟨draft.current.getD [] :: draft.finished, none⟩ rest
      else addSplit separators false (draft.add [character]) rest

def fieldsOf (separators : ByteText) (pieces : List Piece) : List ByteText :=
  let draft : FieldDraft := pieces.foldl
    (fun (draft : FieldDraft) piece =>
      match piece with
      | .fixed true text => draft.add text
      | .fixed false text => if text.isEmpty then draft else draft.add text
      | .split text => draft.addSplit separators false text
      | .boundary => draft.finish)
    {}
  draft.finish.finished.reverse

/-- The text that pieces make up when they are not cut. -/
def textOf (pieces : List Piece) : ByteText :=
  pieces.flatMap fun piece =>
    match piece with
    | .fixed _ text => text
    | .split text => text
    | .boundary => [' ']

def patternOfPieces (pieces : List Piece) : List PatternPart :=
  patternOf (pieces.flatMap fun piece =>
    match piece with
    | .fixed isQuoted text => text.map fun character => ⟨character, isQuoted⟩
    | .split text => text.map fun character => ⟨character, false⟩
    | .boundary => [⟨' ', true⟩])

/-- The pieces of a text that comes from an expansion. -/
def expandedPiece (inQuotes : Bool) (text : ByteText) : Piece :=
  if inQuotes then .fixed true text else .split text

/-- Pieces as they count where they are put in place of a parameter. -/
def adopted (inQuotes : Bool) (pieces : List Piece) : List Piece :=
  pieces.map fun piece =>
    match piece with
    | .fixed false text => expandedPiece inQuotes text
    | .split text => expandedPiece inQuotes text
    | piece => piece

def Machine.parameter? (machine : Machine) (name : ByteText) : Option ByteText :=
  match name with
  | ['?'] => some (bytesOf (toString machine.status))
  | ['$'] => some ownProcess
  | ['#'] => some (bytesOf (toString machine.arguments.length))
  | ['0'] => some machine.name
  | ['-'] => some []
  | ['!'] => if machine.jobs.isEmpty then none else some jobProcess
  | name =>
      if name.all Char.isDigit then
        machine.arguments[(String.ofList name).toNat?.getD 0 - 1]?
      else machine.bindings.lookup name

def Machine.argumentPieces (machine : Machine) (inQuotes joined : Bool) : List Piece :=
  if inQuotes && joined then
    [.fixed true (List.intercalate (machine.separators.take 1) machine.arguments)]
  else List.intersperse .boundary (machine.arguments.map (expandedPiece inQuotes))

def dropLastLineFeeds (text : ByteText) : ByteText :=
  (text.reverse.dropWhile (· = '\n')).reverse

end BrowserRelay.Shell
