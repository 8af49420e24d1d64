import BrowserRelay.Files.Outcomes
import BrowserRelay.Files.System

/-!
# Stores of files

A store keeps texts under paths.  A shelf keeps any path without directories.  A
tree keeps files within directories that have to exist, and refuses what a file
system would refuse, in its words.  An operation whose outcome is a failure leaves
the files as they were; one that is refused does so too, except that directories
which were made on the way to the refusal stay.
-/

namespace BrowserRelay

/-- Whether a store has directories. -/
inductive StoreKind where
  | shelf
  | tree
  deriving DecidableEq

/-- A store of files.  `requested` lists the directories that were asked for, as
they were written. -/
structure FileStore where
  kind : StoreKind := .shelf
  files : List (FileKey × StoredFile) := []
  directories : List FileKey := []
  requested : List String := []
  outcomes : Outcomes := []

namespace FileStore

/-! ## What stands where -/

/-- The file kept under a key. -/
def file? (store : FileStore) (key : FileKey) : Option StoredFile :=
  match store.files.lookup key, store.kind with
  | some file, _ => some file
  | none, .shelf => none
  | none, .tree => System.files.lookup key

def isDirectory (store : FileStore) (key : FileKey) : Bool :=
  System.isDirectory key || store.directories.contains key

def entryAt (store : FileStore) (key : FileKey) : Entry :=
  if store.isDirectory key then .directory
  else if (store.file? key).isSome then .file
  else .nothing

def placeOf (store : FileStore) (path : String) : Except Refusal Place :=
  Place.ofPath store.entryAt path

def find (store : FileStore) (path : String) : Except Refusal FileKey :=
  match store.kind with
  | .shelf =>
      let key := Path.components path
      if (store.file? key).isSome then .ok key else .error .missing
  | .tree =>
      match store.placeOf path with
      | .error refusal => .error refusal
      | .ok place => place.find store.entryAt

def fileAt? (store : FileStore) (path : String) : Option StoredFile :=
  match store.find path with
  | .error _ => none
  | .ok key => store.file? key

/-- The text of the file that a path names, whatever the outcomes. -/
def contents? (store : FileStore) (path : String) : Option String :=
  (store.fileAt? path).map StoredFile.text

def exists? (store : FileStore) (path : String) : Bool :=
  match store.find path with
  | .error _ => false
  | .ok _ => true

/-- The length in bytes of what a path names, or none at all if it names nothing. -/
def sizeAt (store : FileStore) (path : String) : Nat :=
  match store.find path with
  | .error _ => 0
  | .ok key =>
      match store.file? key with
      | some file => file.size
      | none => System.directorySize

def directoryAt (store : FileStore) (path : String) : Except Refusal FileKey :=
  match store.find path with
  | .error refusal => .error refusal
  | .ok key => if store.isDirectory key then .ok key else .error .notDirectory

/-! ## Reading and writing files -/

def readRefusal (store : FileStore) (path : String) : Failure :=
  match store.kind with
  | .shelf => .io ("missing file " ++ path)
  | .tree =>
      match store.find path with
      | .error refusal => refusal.failure
      | .ok _ => Refusal.isDirectory.failure

def read (store : FileStore) (path : String) : Except Failure String × FileStore :=
  let later := { store with outcomes := store.outcomes.later }
  match store.outcomes.next with
  | some failure => (.error failure, later)
  | none =>
      match store.contents? path with
      | some text => (.ok text, later)
      | none => (.error (store.readRefusal path), later)

/-- Put a file under a key in place of what was there. -/
def putFile (key : FileKey) (file : StoredFile) :
    List (FileKey × StoredFile) → List (FileKey × StoredFile)
  | [] => [(key, file)]
  | (other, otherFile) :: rest =>
      if other = key then (key, file) :: rest else (other, otherFile) :: putFile key file rest

def placeForFile (store : FileStore) (path : String) : Except Refusal FileKey :=
  match store.kind with
  | .shelf => .ok (Path.components path)
  | .tree =>
      match store.placeOf path with
      | .error refusal => .error refusal
      | .ok place =>
          match place.forFile store.entryAt with
          | .error refusal => .error refusal
          | .ok key => if System.takesNew key.dropLast then .ok key else .error .missing

/-- Write the file that a path names as a change of its text, which is empty if the
file is new. -/
def rewriteFile (store : FileStore) (path : String) (change : String → String)
    (modified : Int) : Except Refusal FileStore :=
  match store.placeForFile path with
  | .error refusal => .error refusal
  | .ok key =>
      let text := change (((store.file? key).map StoredFile.text).getD "")
      if store.kind = .tree ∧ System.isDevice key then
        if key = System.fullDevice ∧ text ≠ "" then .error .noSpace else .ok store
      else .ok { store with files := putFile key ⟨text, modified⟩ store.files }

/-- Append text to a file, which is made if it is missing, whatever the outcomes. -/
def append (store : FileStore) (path text : String) (modified : Int) :
    Except Refusal FileStore :=
  store.rewriteFile path (· ++ text) modified

def write (store : FileStore) (path text : String) (modified : Int) :
    Except Failure Unit × FileStore :=
  let later := { store with outcomes := store.outcomes.later }
  match store.outcomes.next with
  | some failure => (.error failure, later)
  | none =>
      match later.rewriteFile path (fun _ => text) modified with
      | .error refusal => (.error refusal.failure, later)
      | .ok written => (.ok (), written)

/-! ## Directories -/

def makeDirectory (store : FileStore) (path : String) : Except Refusal FileStore :=
  match store.placeOf path with
  | .error refusal => .error refusal
  | .ok place =>
      match place.forDirectory store.entryAt with
      | .error refusal => .error refusal
      | .ok key =>
          if System.takesNew key.dropLast then
            .ok { store with directories := store.directories ++ [key] }
          else .error .missing

/-- Make a directory in a tree after making those above it, where they are missing.
The paths are the directory and its ancestors.  A refusal does not count if the
directory is there. -/
def makeDirectories : List String → FileStore → Except Refusal Unit × FileStore
  | [], store => (.ok (), store)
  | path :: ancestors, store =>
      let unlessThere (store : FileStore) (refusal : Refusal) : Except Refusal Unit :=
        if (store.directoryAt path).toOption.isSome then .ok () else .error refusal
      if path = "" then (.ok (), store)
      else
        match store.makeDirectory path with
        | .ok store => (.ok (), store)
        | .error .missing =>
            match makeDirectories ancestors store with
            | (.error refusal, store) => (.error refusal, store)
            | (.ok (), store) =>
                match store.makeDirectory path with
                | .ok store => (.ok (), store)
                | .error refusal => (unlessThere store refusal, store)
        | .error refusal => (unlessThere store refusal, store)

def createDirectories (store : FileStore) (path : String) : Except Failure Unit × FileStore :=
  let later := { store with outcomes := store.outcomes.later }
  match store.outcomes.next with
  | some failure => (.error failure, later)
  | none =>
      let noted := { later with requested := store.requested ++ [path] }
      match store.kind with
      | .shelf => (.ok (), noted)
      | .tree =>
          match makeDirectories (Path.ancestors path) noted with
          | (.error refusal, store) => (.error refusal.failure, store)
          | (.ok (), store) => (.ok (), store)

def writeWithDirectory (store : FileStore) (path text : String) (modified : Int) :
    Except Failure Unit × FileStore :=
  match Path.parent? path with
  | none => store.write path text modified
  | some parent =>
      if parent = "" then store.write path text modified
      else
        match store.createDirectories parent with
        | (.error failure, store) => (.error failure, store)
        | (.ok (), store) => store.write path text modified

/-! ## Moving -/

/-- Move what stands under a key, and all below it, to another key. -/
def moveKey (source target key : FileKey) : FileKey :=
  if source.isPrefixOf key then target ++ key.drop source.length else key

/-- The key under which the name at a place stands.  A directory that has been reached
already is in use and has none. -/
def movableKey : Place → Except Refusal FileKey
  | .reached _ => .error .busy
  | .within directory name _ =>
      if Place.longestName < name.utf8ByteSize then .error .nameTooLong
      else .ok (directory ++ [name])

/-- Move what stands at a place of a tree to a name in a directory under which nothing
stands.  Whether the new name can be used is asked once something is found to be
moved. -/
def move (store : FileStore) (place : Place) (directory : FileKey) (name : String) :
    Except Refusal FileStore :=
  match movableKey place with
  | .error refusal => .error refusal
  | .ok source =>
      if store.entryAt source = .nothing then .error .missing
      else if Place.longestName < name.utf8ByteSize then .error .nameTooLong
      else
        match place.find store.entryAt with
        | .error refusal => .error refusal
        | .ok _ =>
            let moved := moveKey source (directory ++ [name])
            .ok
              { store with
                files := store.files.map fun (key, file) => (moved key, file)
                directories := store.directories.map moved }

end FileStore

end BrowserRelay
