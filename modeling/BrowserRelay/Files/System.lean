import BrowserRelay.Files.Place

/-!
# What every system holds

Some directories and files are there before anything is written.  Two of the files
are devices, which hold nothing: one takes every text and one refuses all but the
empty text.
-/

namespace BrowserRelay

/-- A file: its text and when it was last changed, in milliseconds. -/
structure StoredFile where
  text : String
  modified : Int
  deriving DecidableEq

/-- The length of a file in bytes. -/
def StoredFile.size (file : StoredFile) : Nat := file.text.utf8ByteSize

namespace System

/-- The names that lead from the root to each directory below it. -/
def directories : List (List String) :=
  (["bin", "boot", "dev", "etc", "home", "lib", "media", "mnt", "opt", "proc", "root", "run",
      "sbin", "srv", "sys", "tmp", "usr", "var"].map fun name => [name]) ++
    [["dev", "shm"], ["usr", "bin"], ["usr", "lib"], ["usr", "local"], ["usr", "local", "bin"],
      ["usr", "sbin"], ["usr", "share"], ["var", "log"], ["var", "tmp"]]

/-- Whether a key is that of a directory which is always there: the one in which
relative paths start, one above it, the root, or one of those below the root. -/
def isDirectory (key : FileKey) : Bool :=
  Place.isStartOrAbove key || key = Place.root ||
    directories.any fun names => key = Place.root ++ names

def emptyDevice : FileKey := Place.root ++ ["dev", "null"]

def fullDevice : FileKey := Place.root ++ ["dev", "full"]

def isDevice (key : FileKey) : Bool :=
  key = emptyDevice || key = fullDevice

def files : List (FileKey × StoredFile) :=
  [(emptyDevice, ⟨"", 0⟩), (fullDevice, ⟨"", 0⟩),
    (Place.root ++ ["etc", "passwd"], ⟨"root:x:0:0:root:/root:/bin/sh\n", 0⟩)]

/-- Whether anything new can be made in a directory.  The directory of the processes
holds only what the system puts there. -/
def takesNew (directory : FileKey) : Bool :=
  directory ≠ Place.root ++ ["proc"]

def directorySize : Nat := 4096

end System

end BrowserRelay
