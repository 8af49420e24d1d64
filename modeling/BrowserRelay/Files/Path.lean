/-!
# Paths

A path is a text whose parts are separated by slashes.  Repeated slashes, slashes
at the end and parts that are a single dot say nothing, except for a dot at the
very start; two dots are a part like any other.  Paths are taken apart by these
rules and put together without ever being tidied.
-/

namespace BrowserRelay.Path

/-- Whether a path starts at the root. -/
def isAbsolute (path : String) : Bool :=
  path.toList.head? = some '/'

/-- Put a path behind another one.  An absolute path replaces what it is put
behind. -/
def join (base path : String) : String :=
  if isAbsolute path then path
  else
    match base.toList.getLast? with
    | none => path
    | some '/' => base ++ path
    | some _ => base ++ "/" ++ path

def pieces : List Char → List (List Char)
  | [] => [[]]
  | character :: rest =>
      if character = '/' then [] :: pieces rest
      else
        match pieces rest with
        | [] => [[character]]
        | piece :: others => (character :: piece) :: others

/-- The number of characters before the parts of a path: the root, or a dot that
stands at the very start. -/
def leadLength (characters : List Char) : Nat :=
  match characters with
  | '/' :: _ => 1
  | ['.'] => 1
  | '.' :: '/' :: _ => 1
  | _ => 0

/-- The parts of a path.  The root and a dot at the very start are parts of their
own. -/
def components (path : String) : List String :=
  let characters := path.toList
  let lead := leadLength characters
  let parts := (pieces (characters.drop lead)).filter fun piece => piece ≠ [] ∧ piece ≠ ['.']
  ((characters.take lead :: parts).filter (· ≠ [])).map String.ofList

/-- The names between the slashes of a path, dots and two dots among them. -/
def names (path : String) : List String :=
  ((pieces path.toList).filter (· ≠ [])).map String.ofList

def endsInSlash (path : String) : Bool :=
  path.toList.getLast? = some '/'

/-- Drop what says nothing from the end of the parts of a path, which are given in
reverse, character by character. -/
def trimEnd : (fuel : Nat) → List Char → List Char
  | 0, reversed => reversed
  | fuel + 1, reversed =>
      let last := reversed.takeWhile (· ≠ '/')
      if reversed ≠ [] ∧ (last = [] ∨ last = ['.']) then
        trimEnd fuel ((reversed.dropWhile (· ≠ '/')).drop 1)
      else reversed

/-- The path without its last part, as it is written; a root has no parent, and
neither has the empty path. -/
def parent? (path : String) : Option String :=
  let characters := path.toList
  let lead := leadLength characters
  let body := trimEnd characters.length (characters.drop lead).reverse
  if body = [] then
    match characters.take lead with
    | ['.'] => some ""
    | _ => none
  else
    let above := (body.dropWhile (· ≠ '/')).drop 1
    some (String.ofList (characters.take lead ++ (trimEnd characters.length above).reverse))

/-- A path, the path without its last part, and so on, as often as `fuel` says at
most. -/
def ancestorsWithin : (fuel : Nat) → String → List String
  | 0, _ => []
  | fuel + 1, path =>
      match parent? path with
      | none => [path]
      | some parent => path :: ancestorsWithin fuel parent

/-- A path, the path without its last part, and so on up to one that has no parent. -/
def ancestors (path : String) : List String :=
  ancestorsWithin (path.length + 1) path

/-- The last part of a path if it can be the name of a file. -/
def fileName? (path : String) : Option String :=
  match (components path).getLast? with
  | none => none
  | some part => if part = "/" ∨ part = "." ∨ part = ".." then none else some part

/-- A file name cut at its last dot.  A dot at its start does not count. -/
def splitName (name : String) : String × Option String :=
  let characters := name.toList
  let reversed := characters.reverse
  let extension := (reversed.takeWhile (· ≠ '.')).reverse
  let stem := ((reversed.dropWhile (· ≠ '.')).drop 1).reverse
  if characters.contains '.' ∧ stem ≠ [] then (String.ofList stem, some (String.ofList extension))
  else (name, none)

end BrowserRelay.Path
