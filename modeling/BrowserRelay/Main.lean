import BrowserRelay.Session.Session
import Std.Time.DateTime.Timestamp

/-!
# The program

The files that a run looks at and the input of the client are read, the run is worked
out, and what it came to is written: its output, its files and its exit code.
-/

namespace BrowserRelay.Program

/-- Read all bytes of a stream. -/
partial def readBytes (stream : IO.FS.Stream) (before : ByteArray) : IO ByteArray := do
  let bytes ← stream.read 65536
  if bytes.isEmpty then return before else readBytes stream (before ++ bytes)

/-- Put a file of the system into a store, if it can be read. -/
def readInto (store : FileStore) (path : String) : IO FileStore := do
  match ← (IO.FS.readFile path).toBaseIO with
  | .ok text => return (store.writeWithDirectory path text 0).2
  | .error _ => return store

/-- Put a directory of the system into a store, if it is there.  Only a directory can
be opened by a path that goes on behind it. -/
def findInto (store : FileStore) (path : String) : IO FileStore := do
  match ← (IO.FS.Handle.mk (path ++ "/.") .read).toBaseIO with
  | .ok _ => return (store.createDirectories path).2
  | .error _ => return store

/-- Put the files and the directory that a run looks at into a store. -/
def readFiles (arguments : List String) : IO FileStore := do
  let config ← (Session.filesRead arguments { kind := .tree }).foldlM readInto { kind := .tree }
  let files ← (Session.filesRead arguments config).foldlM readInto config
  (Session.directoryUsed? arguments files).toList.foldlM findInto files

/-- Write the files of a store that another one does not hold as they are. -/
def writeChanges (before after : FileStore) : IO Unit := do
  for directory in after.directories do
    IO.FS.createDirAll ("/".intercalate directory)
  for (key, file) in after.files do
    if (before.file? key).map StoredFile.text ≠ some file.text then
      IO.FS.writeFile ("/".intercalate key) file.text

end BrowserRelay.Program

open BrowserRelay in
/-- Run the relay on the arguments of the command line. -/
def main (arguments : List String) : IO UInt32 := do
  let now ← Std.Time.Timestamp.now
  let input ← Program.readBytes (← IO.getStdin) ByteArray.empty
  let files ← Program.readFiles arguments
  let outcome := Session.execute arguments input.toList
    now.toMillisecondsSinceUnixEpoch.toInt.toNat files
  Program.writeChanges files outcome.files
  IO.print outcome.output
  match outcome.result with
  | .ok code => return code.toUInt32
  | .error failure =>
      IO.eprintln failure.message
      return 1
