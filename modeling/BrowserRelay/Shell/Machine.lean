import BrowserRelay.Session.Programs
import BrowserRelay.Shell.Command

/-!
# The state of a running script

A script runs on a clock of its own: what it writes carries the moment of writing,
and what it reads carries the moment of arrival.  A script that reads further than
its input goes stops there, so that a longer input takes it further and changes
nothing of what it did before.
-/

namespace BrowserRelay.Shell

/-- Where written text goes.  Nothing can be written to a sink that is closed. -/
inductive Sink where
  | output
  | errors
  | captured
  | nowhere
  | closed
  deriving DecidableEq

/-- Text that a process wrote, with the moment of writing. -/
structure Emitted where
  time : Nat
  isError : Bool
  text : ByteText

/-- Input that arrives at a moment. -/
structure Arrival where
  time : Nat
  text : ByteText

/-- The state of a running script.  The latest of what was written and captured
comes first.  `inputLeft` is the moment from which the script reads no more of what it
is given, and `jobs` are the moments at which commands in the background end, if they
do. -/
structure Machine where
  name : ByteText
  arguments : List ByteText := []
  bindings : List (ByteText × ByteText) := []
  functions : List (ByteText × Command) := []
  traps : List (String × ByteText) := []
  status : Nat := 0
  directory : String := "."
  surroundings : Surroundings := {}
  clock : Nat := 0
  arrivals : List Arrival := []
  inputEnd : Option Nat := none
  inputLeft : Option Nat := none
  jobs : List (Option Nat) := []
  out : Sink := .output
  err : Sink := .errors
  emitted : List Emitted := []
  captured : List Arrival := []

/-- Why a script does not just go on with its next command.  A script that is waiting
has read all of its input; one that is endless goes on for longer than it is
followed. -/
inductive Interruption where
  | leaveLoop (levels : Nat)
  | nextRound (levels : Nat)
  | leaveFunction
  | exit
  | killed
  | waiting
  | endless

/-- A step of a running script. -/
abbrev Run := ExceptT Interruption (StateM Machine)

def Machine.write (machine : Machine) (sink : Sink) (text : ByteText) : Machine :=
  if text.isEmpty then machine
  else
    match sink with
    | .output => { machine with emitted := ⟨machine.clock, false, text⟩ :: machine.emitted }
    | .errors => { machine with emitted := ⟨machine.clock, true, text⟩ :: machine.emitted }
    | .captured => { machine with captured := ⟨machine.clock, text⟩ :: machine.captured }
    | .nowhere => machine
    | .closed => machine

def say (text : ByteText) : Run Unit :=
  modify fun machine => machine.write machine.out text

def complain (text : ByteText) : Run Unit :=
  modify fun machine => machine.write machine.err (text ++ ['\n'])

def setStatus (status : Nat) : Run Unit :=
  modify fun machine => { machine with status := status }

/-- Set the status of the last command to success or failure. -/
def setSuccess (success : Bool) : Run Unit :=
  setStatus (if success then 0 else 1)

def setVariable (name value : ByteText) : Run Unit :=
  modify fun machine =>
    { machine with
      bindings := (name, value) :: machine.bindings.filter fun entry => entry.1 ≠ name }

/-- Complain in the name of the script and set the status. -/
def failWith (status : Nat) (text : String) : Run Unit := do
  let machine ← get
  complain (machine.name ++ ": 1: ".toList ++ bytesOf text)
  setStatus status

/-- Write text in the name of a command, whose status is success unless it was not
sound or the text could not be written. -/
def sayFor (name : String) (isSound : Bool) (text : ByteText) : Run Unit := do
  if (← get).out = .closed && !text.isEmpty then
    failWith 1 (name ++ ": " ++ name ++ ": I/O error")
  else
    say text
    setSuccess isSound

/-- The number by which a script knows its own process. -/
def ownProcess : ByteText := "4711".toList

/-- The number by which a script knows the commands in its background. -/
def jobProcess : ByteText := "4712".toList

/-- Run a step and put parts of the state back afterwards, however it ended. -/
def restoring {α : Type} (restore : (before after : Machine) → Machine) (step : Run α) : Run α :=
  fun before =>
    let (result, after) := step before
    (result, restore before after)

/-- Run a step as the script of a shell: what it sets is forgotten, and where it exits,
only that shell ends. -/
def asShell (step : Run Unit) : Run Unit :=
  restoring
    (fun before after =>
      { after with
        arguments := before.arguments
        bindings := before.bindings
        functions := before.functions
        traps := before.traps
        directory := before.directory
        out := before.out
        err := before.err })
    do
      try step
      catch interruption =>
        match interruption with
        | .killed => throw .killed
        | .waiting => throw .waiting
        | .endless => throw .endless
        | _ => pure ()

/-- Put the input of a script back where it was left. -/
def Machine.withInputOf (after before : Machine) : Machine :=
  if after.inputLeft = before.inputLeft then after
  else
    { after with
      arrivals := before.arrivals
      inputEnd := before.inputEnd
      inputLeft := before.inputLeft }

/-- Run a step as a process of its own, which may leave its input to those that run
after it. -/
def asProcess (step : Run Unit) : Run Unit :=
  restoring (fun before after => after.withInputOf before) step

def inSubshell (step : Run Unit) : Run Unit :=
  asProcess (asShell step)

/-- Run a step and give back what it wrote to the output. -/
def capturing (step : Run Unit) : Run ByteText := do
  let before ← get
  set { before with out := .captured, captured := [] }
  restoring
    (fun _ after => { after with out := before.out, captured := before.captured })
    do
      step
      let machine ← get
      pure (machine.captured.reverse.flatMap Arrival.text)

/-! ## Input -/

/-- A line that was taken from the input: its text, whether a line feed ended it, the
moment at which it was complete and what arrives later. -/
structure TakenLine where
  text : ByteText
  isEnded : Bool
  clock : Nat
  rest : List Arrival

def takeLineFrom (clock : Nat) (gathered : ByteText) : List Arrival → TakenLine
  | [] => ⟨gathered, false, clock, []⟩
  | arrival :: rest =>
      let clock := max clock arrival.time
      match arrival.text.dropWhile (· ≠ '\n') with
      | [] => takeLineFrom clock (gathered ++ arrival.text) rest
      | _ :: after =>
          ⟨gathered ++ arrival.text.takeWhile (· ≠ '\n'), true, clock,
            if after.isEmpty then rest else ⟨arrival.time, after⟩ :: rest⟩

/-- Take a line from the input: its text and whether a line feed ended it.  Without
one, the input must have ended. -/
def takeLine : Run (ByteText × Bool) := do
  let machine ← get
  let taken := takeLineFrom machine.clock [] machine.arrivals
  if taken.isEnded then
    set { machine with clock := taken.clock, arrivals := taken.rest }
    pure (taken.text, true)
  else
    match machine.inputEnd with
    | none => throw .waiting
    | some moment =>
        set { machine with clock := max taken.clock moment, arrivals := [] }
        pure (taken.text, false)

/-- Copy the input to the output as it arrives, up to its end. -/
def copyInput : Run Unit := do
  let machine ← get
  let copied := machine.arrivals.foldl
    (fun machine arrival =>
      let machine := { machine with clock := max machine.clock arrival.time }
      machine.write machine.out arrival.text)
    machine
  match machine.inputEnd with
  | none =>
      set { copied with arrivals := [] }
      throw .waiting
  | some moment => set { copied with arrivals := [], clock := max copied.clock moment }

/-- Copy bytes of what arrives, as many as are asked for; the answer tells how many are
still to come. -/
def Machine.copyBytesFrom (machine : Machine) (count : Nat) : List Arrival → Nat × Machine
  | [] => (count, { machine with arrivals := [] })
  | arrival :: rest =>
      if count = 0 then (0, { machine with arrivals := arrival :: rest })
      else
        let machine := { machine with clock := max machine.clock arrival.time }
        let copied := machine.write machine.out (arrival.text.take count)
        if count < arrival.text.length then
          (0, { copied with arrivals := ⟨arrival.time, arrival.text.drop count⟩ :: rest })
        else copied.copyBytesFrom (count - arrival.text.length) rest

/-- Copy bytes of the input to the output as they arrive. -/
def copyBytes (count : Nat) : Run Unit := do
  let machine ← get
  let (missing, copied) := machine.copyBytesFrom count machine.arrivals
  set copied
  if 0 < missing then
    match copied.inputEnd with
    | none => throw .waiting
    | some moment => set { copied with clock := max copied.clock moment }

end BrowserRelay.Shell
