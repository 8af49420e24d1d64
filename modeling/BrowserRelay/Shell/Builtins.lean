import BrowserRelay.Shell.Programs

/-!
# Commands of the shell itself

Some commands change the script that runs them: they read its input into variables,
set and forget variables, change the directory, and leave functions and the script.
-/

namespace BrowserRelay.Shell

/-! ## Reading input into variables -/

/-- Take a line for the command that reads: unless it reads raw lines, a backslash
takes the meaning of the next character and joins lines.  Each character carries
whether it was taken so. -/
def takeInputLine : (fuel : Nat) → (isRaw : Bool) → Run (List PatternCharacter × Bool)
  | 0, _ => pure ([], false)
  | fuel + 1, isRaw => do
      let (text, isEnded) ← takeLine
      if isRaw then pure (text.map fun character => ⟨character, false⟩, isEnded)
      else
        let (characters, joins) := unescaped text
        if joins && isEnded then do
          let (more, isEnded) ← takeInputLine fuel isRaw
          pure (characters ++ more, isEnded)
        else pure (characters, isEnded)
where
  /-- The characters of a line, and whether the next line is joined to it. -/
  unescaped : ByteText → List PatternCharacter × Bool
    | [] => ([], false)
    | ['\\'] => ([], true)
    | '\\' :: character :: rest =>
        let (others, joins) := unescaped rest
        (⟨character, true⟩ :: others, joins)
    | character :: rest =>
        let (others, joins) := unescaped rest
        (⟨character, false⟩ :: others, joins)

def separates (separators : ByteText) (next : PatternCharacter) : Bool :=
  !next.isQuoted && separators.contains next.character

/-- Whether a character is blank space that separates fields. -/
def separatesAsSpace (separators : ByteText) (next : PatternCharacter) : Bool :=
  separates separators next && isSpace next.character

/-- Deal out a line to a number of fields, the last of which takes all that is
left. -/
def dealOut (separators : ByteText) : Nat → List PatternCharacter → List ByteText
  | 0, _ => []
  | 1, characters =>
      let trimmed := (characters.dropWhile (separatesAsSpace separators)).reverse.dropWhile
        (separatesAsSpace separators)
      [trimmed.reverse.map PatternCharacter.character]
  | count + 1, characters =>
      let characters := characters.dropWhile (separatesAsSpace separators)
      let field := characters.takeWhile (!separates separators ·)
      let rest := (characters.dropWhile (!separates separators ·)).dropWhile
        (separatesAsSpace separators)
      let rest :=
        match rest with
        | next :: others =>
            if separates separators next then others else next :: others
        | [] => []
      field.map PatternCharacter.character :: dealOut separators count rest

def runRead : (isRaw : Bool) → List ByteText → Run Unit
  | _, ['-', 'r'] :: rest => runRead true rest
  | isRaw, ['-', 'p'] :: _ :: rest => runRead isRaw rest
  | isRaw, names => do
      let machine ← get
      let lines := (machine.arrivals.flatMap Arrival.text).count '\n' + 1
      let (characters, isEnded) ← takeInputLine lines isRaw
      let machine ← get
      for (name, value) in names.zip (dealOut machine.separators names.length characters) do
        setVariable name value
      setSuccess isEnded

/-! ## Commands of the shell itself -/

/-- Leave the script with a status, or with that of the last command. -/
def runExit (arguments : List ByteText) : Run Unit := do
  match arguments with
  | [] => throw .exit
  | argument :: _ =>
      match wholeNumber? argument with
      | some value =>
          if 0 ≤ value then setStatus (value.toNat % 256)
          else failWith 2 ("exit: Illegal number: " ++ String.ofList argument)
      | none => failWith 2 ("exit: Illegal number: " ++ String.ofList argument)
      throw .exit

/-- Leave a function with a status, or with that of the last command. -/
def runReturn (arguments : List ByteText) : Run Unit := do
  match arguments.head?.bind wholeNumber? with
  | some value => setStatus (value.toNat % 256)
  | none => pure ()
  throw .leaveFunction

def levelsOf (arguments : List ByteText) : Nat :=
  match arguments.head?.bind wholeNumber? with
  | some value => value.toNat
  | none => 1

def runCd (arguments : List ByteText) : Run Unit := do
  let machine ← get
  match arguments with
  | [] => setStatus 0
  | target :: _ =>
      let path := String.ofList target
      let joined :=
        if path.startsWith "/" then path
        else if machine.directory.endsWith "/" then machine.directory ++ path
        else machine.directory ++ "/" ++ path
      if machine.surroundings.isDirectory joined then
        set { machine with directory := joined, status := 0 }
      else failWith 2 ("cd: can't cd to " ++ path)

def runExport (arguments : List ByteText) : Run Unit := do
  for argument in arguments do
    match argument.dropWhile (· ≠ '=') with
    | _ :: value => setVariable (argument.takeWhile (· ≠ '=')) value
    | [] => pure ()
  setStatus 0

def runUnset (arguments : List ByteText) : Run Unit := do
  modify fun machine =>
    { machine with
      bindings := machine.bindings.filter fun entry => !arguments.contains entry.1
      functions := machine.functions.filter fun entry =>
        !(arguments.contains ['-', 'f'] && arguments.contains entry.1)
      status := 0 }

def runSet (arguments : List ByteText) : Run Unit := do
  match arguments with
  | ['-', '-'] :: rest => modify fun machine => { machine with arguments := rest }
  | ('-' :: _) :: _ => pure ()
  | ('+' :: _) :: _ => pure ()
  | arguments => modify fun machine => { machine with arguments := arguments }
  setStatus 0

def runShift (arguments : List ByteText) : Run Unit := do
  let count := levelsOf arguments
  let machine ← get
  if count ≤ machine.arguments.length then
    set { machine with arguments := machine.arguments.drop count, status := 0 }
  else failWith 2 "shift: can't shift that many"

def signalName (text : ByteText) : String :=
  let name := String.ofList text
  match name with
  | "0" => "EXIT"
  | "1" => "HUP"
  | "2" => "INT"
  | "9" => "KILL"
  | "15" => "TERM"
  | name => if name.startsWith "SIG" then String.ofList (text.drop 3) else name

def runTrap (arguments : List ByteText) : Run Unit := do
  match arguments with
  | action :: signals =>
      let names := signals.map signalName
      modify fun machine =>
        let others := machine.traps.filter fun entry => !names.contains entry.1
        { machine with
          traps := if action = ['-'] then others else names.map (·, action) ++ others }
  | [] => pure ()
  setStatus 0

def runWait : Run Unit := do
  let machine ← get
  if machine.jobs.contains none then throw .waiting
  else
    set { machine with
      clock := (machine.jobs.filterMap id).foldl max machine.clock
      status := 0 }

/-- End the commands in the background: what they would have written later is not
written. -/
def endJobs : Run Unit :=
  modify fun machine =>
    { machine with
      jobs := machine.jobs.map fun ended => some (min (ended.getD machine.clock) machine.clock)
      emitted := machine.emitted.filter fun emitted => emitted.time ≤ machine.clock
      status := 0 }

/-- The signal and the processes that a request to send it names. -/
def signalAndProcesses : List ByteText → String × List ByteText
  | ['-', 's'] :: signal :: processes => (signalName signal, processes)
  | ('-' :: signal) :: processes => (signalName signal, processes)
  | processes => ("TERM", processes)

end BrowserRelay.Shell
