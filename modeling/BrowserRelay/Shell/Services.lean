import BrowserRelay.Session.Programs
import BrowserRelay.Shell.Evaluation

/-!
# Services that are shell scripts or small programs

What a process of a shell or of a small program does is found by running it on what it
was given.
-/

namespace BrowserRelay.Shell

/-- How many commands may be nested in a running script, or follow one another in a
loop. -/
def scriptFuel : Nat := 20000

/-- The step that runs a program by its name: a shell, or one of the small
programs. -/
def programStep? (program : String) (arguments : List String) : Option (Run Unit) :=
  let name := programName program
  let arguments := arguments.map bytesOf
  if name ∈ ["sh", "dash", "bash"] then some (runShell scriptFuel arguments)
  else program? name arguments

/-- The state in which a program begins. -/
def Machine.ofCircumstances (program : String) (circumstances : Circumstances) : Machine where
  name := bytesOf program
  directory := circumstances.directory
  surroundings := circumstances.surroundings
  clock := circumstances.moment
  arrivals := circumstances.given.map fun given => ⟨given.moment, ofBytes given.bytes⟩

/-- What a machine has written, in the order of time. -/
def Machine.writtenBytes (machine : Machine) : List WrittenBytes :=
  (machine.emitted.reverse.mergeSort fun first second => decide (first.time ≤ second.time)).map
    fun emitted => ⟨emitted.time, emitted.isError, toBytes emitted.text⟩

/-- What a process did whose step was run from a state on. -/
def historyOf (step : Run Unit) (machine : Machine) : ProcessHistory :=
  let (result, machine) := step.run machine
  { written := machine.writtenBytes
    ending :=
      match result with
      | .error .waiting => .running
      | .error .endless => .running
      | .error .killed => .killed machine.clock
      | _ => .exited machine.clock (machine.status % 256)
    othersEnd :=
      if machine.jobs.contains none then none
      else some ((machine.jobs.filterMap id).foldl max 0)
    inputLeft := machine.inputLeft }

/-- The shell and the small programs. -/
def programs : Programs where
  history? program arguments := (programStep? program arguments).map fun step circumstances =>
    historyOf step (.ofCircumstances program circumstances)

end BrowserRelay.Shell
