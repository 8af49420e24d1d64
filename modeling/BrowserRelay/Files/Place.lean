import BrowserRelay.Files.Path
import BrowserRelay.Files.Refusal

/-!
# Places in a tree of directories

A path is followed name by name.  All names but the last have to lead to
directories, also those that two dots take back afterwards; what the last one may
lead to depends on what is to be done there.  The walk answers with a place, and
the place with the key of what stands or is to stand there, or with a refusal.
-/

namespace BrowserRelay

/-- A file or directory by the names that lead to it from the directory in which
relative paths start, or from the root, which is the name of a slash.  Two dots
stand only at the front, for the directories above the one where paths start. -/
abbrev FileKey := List String

/-- What stands under a key. -/
inductive Entry where
  | nothing
  | file
  | directory
  deriving DecidableEq

/-- Where a path leads: to a name in a directory, behind which a slash may ask for a
directory, or to a directory that has been reached already. -/
inductive Place where
  | within (directory : FileKey) (name : String) (asDirectory : Bool)
  | reached (directory : FileKey)
  deriving DecidableEq

namespace Place

def root : FileKey := ["/"]

/-- Whether a key is that of the directory in which relative paths start, or of one
above it. -/
def isStartOrAbove (key : FileKey) : Bool :=
  key.all (· = "..")

/-- The directory above a directory.  The root is above itself. -/
def above (directory : FileKey) : FileKey :=
  if directory = root then root
  else if isStartOrAbove directory then directory ++ [".."]
  else directory.dropLast

def longestName : Nat := 255

def longestPath : Nat := 4095

def ofName (directory : FileKey) (name : String) (asDirectory : Bool) : Place :=
  if name = "." then .reached directory
  else if name = ".." then .reached (above directory)
  else .within directory name asDirectory

/-- The key of the file or directory that stands at a place. -/
def find (entryAt : FileKey → Entry) : Place → Except Refusal FileKey
  | .reached directory => .ok directory
  | .within directory name asDirectory =>
      let key := directory ++ [name]
      if longestName < name.utf8ByteSize then .error .nameTooLong
      else
        match entryAt key with
        | .nothing => .error .missing
        | .file => if asDirectory then .error .notDirectory else .ok key
        | .directory => .ok key

/-- The key under which a file can be written at a place, whether or not there is one
already. -/
def forFile (entryAt : FileKey → Entry) : Place → Except Refusal FileKey
  | .reached _ => .error .isDirectory
  | .within directory name asDirectory =>
      let key := directory ++ [name]
      if asDirectory then .error .isDirectory
      else if longestName < name.utf8ByteSize then .error .nameTooLong
      else if entryAt key = .directory then .error .isDirectory
      else .ok key

/-- The key under which a new directory can be made at a place. -/
def forDirectory (entryAt : FileKey → Entry) : Place → Except Refusal FileKey
  | .reached _ => .error .alreadyThere
  | .within directory name _ =>
      let key := directory ++ [name]
      if longestName < name.utf8ByteSize then .error .nameTooLong
      else if entryAt key ≠ .nothing then .error .alreadyThere
      else .ok key

def follow (entryAt : FileKey → Entry) (asDirectory : Bool) :
    FileKey → List String → Except Refusal Place
  | directory, [] => .ok (.reached directory)
  | directory, [name] => .ok (ofName directory name asDirectory)
  | directory, name :: rest =>
      match (ofName directory name true).find entryAt with
      | .error refusal => .error refusal
      | .ok next => follow entryAt asDirectory next rest

def ofPath (entryAt : FileKey → Entry) (path : String) : Except Refusal Place :=
  if path.contains '\x00' then .error .strayNul
  else if path = "" then .error .missing
  else if longestPath < path.utf8ByteSize then .error .nameTooLong
  else
    follow entryAt (Path.endsInSlash path) (if Path.isAbsolute path then root else [])
      (Path.names path)

end Place

end BrowserRelay
