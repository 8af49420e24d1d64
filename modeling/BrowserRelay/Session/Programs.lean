/-!
# What programs do

The relay does not see into the process of its service.  What a process does is given for each
program, as a function of where it runs and of what it was given so far; being given more takes it
further and changes nothing of what it did before.
-/

namespace BrowserRelay

/-- The files that a process may look at. -/
structure Surroundings where
  contents? : String → Option String := fun _ => none
  isDirectory : String → Bool := fun path => path = "/" || path = "."

/-- Bytes that a process wrote, with the moment of writing. -/
structure WrittenBytes where
  moment : Nat
  isError : Bool
  bytes : List UInt8

/-- Bytes that a process was given, with the moment of their arrival. -/
structure GivenBytes where
  moment : Nat
  bytes : List UInt8

/-- How a process ended, if it did. -/
inductive ProcessEnd where
  | exited (moment : Nat) (code : Nat)
  | killed (moment : Nat)
  | running
  deriving DecidableEq

/-- What a process did: what it wrote, in the order of time, and how it ended.
`othersEnd` is the moment from which no command that it left in the background writes
any more, if there is one, and `inputLeft` the moment from which nobody reads what it
is given, if that comes before its end. -/
structure ProcessHistory where
  written : List WrittenBytes
  ending : ProcessEnd
  othersEnd : Option Nat := some 0
  inputLeft : Option Nat := none

/-- Where and when a process begins with its program, and what it was given so far. -/
structure Circumstances where
  directory : String
  surroundings : Surroundings
  moment : Nat
  given : List GivenBytes

/-- The programs that can be started by a name with arguments, each with what a process
of it does. -/
structure Programs where
  history? (program : String) (arguments : List String) :
    Option (Circumstances → ProcessHistory)

end BrowserRelay
