import BrowserRelay.Files.Store

/-!
# Rotating a log and pruning its rotations

A log that has grown is moved aside to a name made of its own name, a time stamp
and a sequence number.  Files with such names are the rotations of the log; when
they take too much room together with the log, the oldest are deleted.  Files with
other names are never touched.
-/

namespace BrowserRelay.Rotation

/-- The log and this many rotations less one share the budget. -/
def shares : Nat := 4

def threshold (budget : Nat) : Nat := max (budget / shares) 1

/-- The name of a log, taken apart. -/
structure LogName where
  directory : String
  stem : String
  extension : Option String

def LogName.ofPath? (path : String) : Except Failure LogName :=
  match Path.fileName? path with
  | none => .error (.io ("log path has no file name: " ++ path))
  | some name =>
      let (stem, extension) := Path.splitName name
      let directory :=
        match Path.parent? path with
        | some parent => if parent = "" then "." else parent
        | none => "."
      .ok ⟨directory, stem, extension⟩

def sequenceText (sequence : Nat) : List Char :=
  let digits := Nat.toDigits 10 sequence
  List.replicate (4 - digits.length) '0' ++ digits

def extensionText : Option String → List Char
  | none => []
  | some extension => '.' :: extension.toList

def rotatedName (log : LogName) (stamp sequence : Nat) : String :=
  String.ofList
    (log.stem.toList ++ '.' :: (Nat.toDigits 10 stamp ++ '-' :: sequenceText sequence) ++
      extensionText log.extension)

/-- The rest of a list of characters behind a beginning that it has. -/
def dropBeginning? : List Char → List Char → Option (List Char)
  | [], rest => some rest
  | _ :: _, [] => none
  | expected :: beginning, character :: rest =>
      if character = expected then dropBeginning? beginning rest else none

/-- The part of a file name between the stem and the extension of a log. -/
def tag? (log : LogName) (name : String) : Option (List Char) :=
  (dropBeginning? (log.stem.toList ++ ['.']) name.toList).bind fun rest =>
    (dropBeginning? (extensionText log.extension).reverse rest.reverse).map List.reverse

/-- Whether a character can stand in the tag of a rotation. -/
def isTagCharacter (character : Char) : Bool :=
  character.isDigit || character = '-'

def isRotatedName (log : LogName) (name : String) : Bool :=
  match tag? log name with
  | none => false
  | some tag => tag ≠ [] && tag.all isTagCharacter

/-- A file beside the log. -/
structure Sibling where
  name : String
  file : StoredFile

def nameWithin? (directory key : FileKey) : Option String :=
  if key.dropLast = directory then key.getLast? else none

/-- The rotations of a log among the files of a directory, in no particular order. -/
def rotationsIn (store : FileStore) (log : LogName) (directory : FileKey) : List Sibling :=
  store.files.filterMap fun (key, file) =>
    (nameWithin? directory key).bind fun name =>
      if isRotatedName log name then some ⟨name, file⟩ else none

/-- Older files come first, and of files of one age the one with the lesser name. -/
def Sibling.comesBefore (first second : Sibling) : Bool :=
  first.file.modified < second.file.modified ||
    (first.file.modified = second.file.modified && first.name ≤ second.name)

def siblingsOf (store : FileStore) (log : LogName) (directory : FileKey) : List Sibling :=
  (rotationsIn store log directory).mergeSort Sibling.comesBefore

def rotatedSiblings (store : FileStore) (path : String) : Except Failure (List String) :=
  match LogName.ofPath? path with
  | .error failure => .error failure
  | .ok log =>
      match store.directoryAt log.directory with
      | .error refusal => .error refusal.failure
      | .ok directory =>
          .ok ((siblingsOf store log directory).map fun sibling =>
            Path.join log.directory sibling.name)

/-- The least sequence number, from a given one, whose name is free in a directory.  A
store with `fuel` entries cannot hold more names than that. -/
def freeSequence (store : FileStore) (log : LogName) (directory : FileKey) (stamp : Nat) :
    (fuel : Nat) → Nat → Nat
  | 0, sequence => sequence
  | fuel + 1, sequence =>
      if store.entryAt (directory ++ [rotatedName log stamp sequence]) = .nothing then sequence
      else freeSequence store log directory stamp fuel (sequence + 1)

def rotate (store : FileStore) (path : String) (stamp : Nat) :
    Except Failure (String × FileStore) :=
  match LogName.ofPath? path with
  | .error failure => .error failure
  | .ok log =>
      match store.placeOf path, store.directoryAt log.directory with
      | .error refusal, _ => .error refusal.failure
      | .ok _, .error refusal => .error refusal.failure
      | .ok place, .ok directory =>
          let entries := store.files.length + store.directories.length + 1
          let sequence := freeSequence store log directory stamp entries 0
          let name := rotatedName log stamp sequence
          match store.move place directory name with
          | .error refusal => .error refusal.failure
          | .ok store => .ok (Path.join log.directory name, store)

/-- Take files from the front until the rest fits into the budget. -/
def excess (budget : Nat) : Nat → List Sibling → List Sibling
  | _, [] => []
  | total, sibling :: rest =>
      if total ≤ budget then []
      else sibling :: excess budget (total - sibling.file.size) rest

/-- Delete the oldest rotations until they fit into the budget together with the
log, and answer with the paths that were deleted. -/
def enforceBudget (store : FileStore) (path : String) (budget : Nat) :
    Except Failure (List String × FileStore) :=
  match LogName.ofPath? path with
  | .error failure => .error failure
  | .ok log =>
      match store.directoryAt log.directory with
      | .error refusal => .error refusal.failure
      | .ok directory =>
          let siblings := siblingsOf store log directory
          let sizes := siblings.map fun sibling => sibling.file.size
          let total := store.sizeAt path + sizes.foldr Nat.add 0
          let deleted := (excess budget total siblings).map Sibling.name
          let keys := deleted.map fun name => directory ++ [name]
          .ok
            (deleted.map (Path.join log.directory),
              { store with files := store.files.filter fun (key, _) => !keys.contains key })

end BrowserRelay.Rotation
