import BrowserRelay.Shell.Builtins
import BrowserRelay.Shell.Filters
import BrowserRelay.Shell.Script

/-!
# Running shell scripts

Commands run one after another on the state of the script.  A loop, a function or a
script that is left early interrupts what runs inside it; so does the end of the input
that is there so far.  A command in the background runs from the same moment as the
command after it.
-/

namespace BrowserRelay.Shell

/-- Where a redirected stream goes. -/
def sinkFor (machine : Machine) (path : ByteText) : Sink :=
  match String.ofList path with
  | "/dev/stderr" => machine.err
  | "/dev/stdout" => machine.out
  | _ => .nowhere

/-- Apply a redirection whose target is known; `none` if a file is missing. -/
def applyRedirection? (machine : Machine) (redirection : Redirection) (target : ByteText) :
    Option Machine :=
  let sink :=
    match redirection.kind, target with
    | .sameAs, ['1'] => machine.out
    | .sameAs, ['2'] => machine.err
    | .sameAs, _ => .closed
    | _, target => sinkFor machine target
  match redirection.kind, redirection.stream with
  | .reading, _ =>
      if String.ofList target = "/dev/null" then
        some { machine with arrivals := [], inputEnd := some machine.clock }
      else
        match machine.surroundings.contents? (String.ofList target) with
        | none => none
        | some text =>
            some { machine with
              arrivals := [⟨machine.clock, bytesOf text⟩], inputEnd := some machine.clock }
  | _, 1 => some { machine with out := sink }
  | _, 2 => some { machine with err := sink }
  | .sameAs, 0 => some { machine with arrivals := [], inputEnd := some machine.clock }
  | _, _ => some machine

def runsCommand (word : Word) : Bool :=
  word.any fun part =>
    match part with
    | .output .. => true
    | _ => false

def restoreStreams (before after : Machine) : Machine :=
  { after with out := before.out, err := before.err }

mutual

def expandParts : (fuel : Nat) → List WordPart → Run (List Piece)
  | 0, _ => throw .endless
  | _, [] => pure []
  | fuel + 1, part :: rest => do
      let pieces ← expandPart fuel part
      let others ← expandParts fuel rest
      pure (pieces ++ others)

def expandPart : (fuel : Nat) → WordPart → Run (List Piece)
  | 0, _ => throw .endless
  | fuel + 1, part => do
      match part with
      | .plain text => pure [.fixed false text]
      | .quoted text => pure [.fixed true text]
      | .arithmetic inQuotes operand =>
          let text := textOf (← expandParts fuel operand)
          let machine ← get
          match evaluateArithmetic machine.bindings text with
          | some (value, bindings) =>
              set { machine with bindings := bindings }
              pure [expandedPiece inQuotes (bytesOf (toString value))]
          | none =>
              failWith 2 ("arithmetic expression: expecting primary: \"" ++
                String.ofList text ++ "\"")
              throw .exit
      | .output inQuotes script =>
          let text ← capturing (inSubshell (executeText fuel script))
          pure [expandedPiece inQuotes (dropLastLineFeeds text)]
      | .parameter inQuotes ['@'] .value _ =>
          pure ((← get).argumentPieces inQuotes false)
      | .parameter inQuotes ['*'] .value _ =>
          pure ((← get).argumentPieces inQuotes true)
      | .parameter inQuotes name use operand =>
          let value? := (← get).parameter? name
          let isMissing (evenIfEmpty : Bool) : Bool :=
            match value? with
            | none => true
            | some value => evenIfEmpty && value.isEmpty
          let value := expandedPiece inQuotes (value?.getD [])
          match use with
          | .value => pure [value]
          | .length =>
              pure [expandedPiece inQuotes (bytesOf (toString (value?.getD []).length))]
          | .orElse evenIfEmpty =>
              if isMissing evenIfEmpty then
                pure (adopted inQuotes (← expandParts fuel operand))
              else pure [value]
          | .assign evenIfEmpty =>
              if isMissing evenIfEmpty then
                let text := textOf (← expandParts fuel operand)
                setVariable name text
                pure [expandedPiece inQuotes text]
              else pure [value]
          | .require evenIfEmpty =>
              if isMissing evenIfEmpty then
                let text := textOf (← expandParts fuel operand)
                let text := if text.isEmpty then "parameter not set".toList else text
                failWith 2 (String.ofList (name ++ [':', ' '] ++ text))
                throw .exit
              else pure [value]
          | .instead evenIfEmpty =>
              if isMissing evenIfEmpty then pure [expandedPiece inQuotes []]
              else pure (adopted inQuotes (← expandParts fuel operand))
          | .dropFront longest =>
              let pattern := patternOfPieces (← expandParts fuel operand)
              pure [expandedPiece inQuotes (dropFront longest pattern (value?.getD []))]
          | .dropBack longest =>
              let pattern := patternOfPieces (← expandParts fuel operand)
              pure [expandedPiece inQuotes (dropBack longest pattern (value?.getD []))]

def expandWords : (fuel : Nat) → List Word → Run (List ByteText)
  | 0, _ => throw .endless
  | _, [] => pure []
  | fuel + 1, word :: rest => do
      let pieces ← expandParts fuel word
      let fields := fieldsOf (← get).separators pieces
      let others ← expandWords fuel rest
      pure (fields ++ others)

def assignAll : (fuel : Nat) → List (ByteText × Word) → Run Unit
  | 0, _ => throw .endless
  | _, [] => pure ()
  | fuel + 1, (name, word) :: rest => do
      let pieces ← expandParts fuel word
      setVariable name (textOf pieces)
      assignAll fuel rest

/-- Apply redirections; the answer tells whether all could be. -/
def redirectAll : (fuel : Nat) → List Redirection → Run Bool
  | 0, _ => throw .endless
  | _, [] => pure true
  | fuel + 1, redirection :: rest => do
      let target := textOf (← expandParts fuel redirection.target)
      match applyRedirection? (← get) redirection target with
      | some machine =>
          set machine
          redirectAll fuel rest
      | none =>
          failWith 2 ("cannot open " ++ String.ofList target ++ ": No such file")
          pure false

def executeText : (fuel : Nat) → ByteText → Run Unit
  | 0, _ => throw .endless
  | fuel + 1, text => do
      match parseScript text with
      | some command => execute fuel command
      | none =>
          failWith 2 "Syntax error"
          throw .exit

def execute : (fuel : Nat) → Command → Run Unit
  | 0, _ => throw .endless
  | fuel + 1, command => do
      match command with
      | .nothing => pure ()
      | .sequence first second =>
          execute fuel first
          execute fuel second
      | .both first second =>
          execute fuel first
          if (← get).status = 0 then execute fuel second
      | .either first second =>
          execute fuel first
          if (← get).status ≠ 0 then execute fuel second
      | .negated command =>
          execute fuel command
          setSuccess ((← get).status ≠ 0)
      | .conditional test consequent alternative =>
          execute fuel test
          if (← get).status = 0 then
            setStatus 0
            execute fuel consequent
          else
            setStatus 0
            execute fuel alternative
      | .loop whileFails test body => executeLoop fuel 0 whileFails test body
      | .forEach name items body =>
          let fields ←
            match items with
            | some words => expandWords fuel words
            | none => do pure (← get).arguments
          setStatus 0
          executeForEach fuel name fields body
      | .choose subject branches =>
          let text := textOf (← expandParts fuel subject)
          setStatus 0
          executeChoice fuel text branches
      | .subshell body => inSubshell (execute fuel body)
      | .define name body =>
          modify fun machine =>
            { machine with functions := (name, body) :: machine.functions, status := 0 }
      | .background body => executeInBackground fuel body
      | .redirected command redirections =>
          let before ← get
          let readsElsewhere := redirections.any fun redirection =>
            redirection.kind = .reading || redirection.stream = 0
          if command.takesOver then
            if ← redirectAll fuel redirections then
              if readsElsewhere then
                modify fun machine => { machine with inputLeft := some machine.clock }
              execute fuel command
            else throw .exit
          else
            restoring
              (fun _ after =>
                let after := restoreStreams before after
                if readsElsewhere then
                  { after with arrivals := before.arrivals, inputEnd := before.inputEnd }
                else after)
              (do if ← redirectAll fuel redirections then execute fuel command)
      | .pipeline first second => executePipeline fuel first second
      | .simple assignments words =>
          let fields ← expandWords fuel words
          match fields with
          | [] =>
              assignAll fuel assignments
              if !(assignments.any fun (_, word) => runsCommand word) then setStatus 0
          | name :: arguments =>
              if assignments.isEmpty then call fuel (String.ofList name) arguments
              else
                let before ← get
                let names := assignments.map Prod.fst
                assignAll fuel assignments
                restoring
                  (fun _ after =>
                    { after with
                      bindings :=
                        before.bindings.filter (fun entry => names.contains entry.1) ++
                          after.bindings.filter fun entry => !names.contains entry.1 })
                  (call fuel (String.ofList name) arguments)

/-- Run a command in the background, without input.  The commands after it do not wait
for it. -/
def executeInBackground : (fuel : Nat) → Command → Run Unit
  | 0, _ => throw .endless
  | fuel + 1, body => do
      let before ← get
      set { before with arrivals := [], inputEnd := some before.clock }
      let ended ←
        restoring
          (fun _ after =>
            { after with
              clock := before.clock
              arrivals := before.arrivals
              inputEnd := before.inputEnd })
          (try
            inSubshell (execute fuel body)
            pure (some (← get).clock)
          catch _ => pure none)
      modify fun machine => { machine with jobs := ended :: machine.jobs, status := 0 }

/-- Run two commands of which the second reads what the first writes.  Both run at the
same time, each on a clock of its own.  A first command that is endless ends with the
second; one that waits is waited for. -/
def executePipeline : (fuel : Nat) → Command → Command → Run Unit
  | 0, _, _ => throw .endless
  | fuel + 1, first, second => do
      let before ← get
      set { before with out := .captured, captured := [] }
      let unended : Option Interruption ←
        restoring
          (fun _ after => { after with out := before.out })
          (try
            inSubshell (execute fuel first)
            pure none
          catch interruption =>
            match interruption with
            | .waiting => pure (some .waiting)
            | .endless => pure (some .endless)
            | other => throw other)
      let between ← get
      set { between with
        clock := before.clock
        captured := before.captured
        arrivals := between.captured.reverse
        inputEnd := if unended.isSome then none else some between.clock }
      restoring
        (fun _ after =>
          { after with arrivals := between.arrivals, inputEnd := before.inputEnd })
        (inSubshell (execute fuel second))
      match unended with
      | none => modify fun machine => { machine with clock := max machine.clock between.clock }
      | some .waiting => throw .waiting
      | some _ => pure ()

/-- Run a loop; `last` is the status of its last round. -/
def executeLoop : (fuel last : Nat) → (whileFails : Bool) → (test body : Command) → Run Unit
  | 0, _, _, _, _ => throw .endless
  | fuel + 1, last, whileFails, test, body => do
      execute fuel test
      if ((← get).status = 0) = whileFails then setStatus last
      else
        let goesOn ← executeRound fuel body
        if goesOn then executeLoop fuel (← get).status whileFails test body

/-- Run the body of a loop; the answer tells whether the loop goes on. -/
def executeRound : (fuel : Nat) → Command → Run Bool
  | 0, _ => throw .endless
  | fuel + 1, body => do
      try
        execute fuel body
        pure true
      catch interruption =>
        match interruption with
        | .leaveLoop levels =>
            if 1 < levels then throw (.leaveLoop (levels - 1)) else pure false
        | .nextRound levels =>
            if 1 < levels then throw (.nextRound (levels - 1)) else pure true
        | other => throw other

def executeForEach : (fuel : Nat) → ByteText → List ByteText → Command → Run Unit
  | 0, _, _, _ => throw .endless
  | _, _, [], _ => pure ()
  | fuel + 1, name, item :: rest, body => do
      setVariable name item
      let goesOn ← executeRound fuel body
      if goesOn then executeForEach fuel name rest body

/-- Run the first branch of which a pattern accepts a text. -/
def executeChoice : (fuel : Nat) → ByteText → List (List Word × Command) → Run Unit
  | 0, _, _ => throw .endless
  | _, _, [] => pure ()
  | fuel + 1, text, (patterns, body) :: rest => do
      if ← anyAccepts fuel text patterns then execute fuel body
      else executeChoice fuel text rest

def anyAccepts : (fuel : Nat) → ByteText → List Word → Run Bool
  | 0, _, _ => throw .endless
  | _, _, [] => pure false
  | fuel + 1, text, pattern :: rest => do
      let pieces ← expandParts fuel pattern
      if accepts (patternOfPieces pieces) text then pure true else anyAccepts fuel text rest

/-- Call a function, a command of the shell or a program by its name. -/
def call : (fuel : Nat) → String → List ByteText → Run Unit
  | 0, _, _ => throw .endless
  | fuel + 1, name, arguments => do
      match (← get).functions.lookup name.toList with
      | some body =>
          let before ← get
          set { before with arguments := arguments }
          restoring
            (fun _ after => { after with arguments := before.arguments })
            (try execute fuel body
            catch interruption =>
              match interruption with
              | .leaveFunction => pure ()
              | other => throw other)
      | none =>
          match name with
          | ":" => setStatus 0
          | "echo" => runEcho arguments
          | "printf" => runPrintf arguments
          | "read" => runRead false arguments
          | "exit" => runExit arguments
          | "return" => runReturn arguments
          | "break" =>
              setStatus 0
              throw (.leaveLoop (levelsOf arguments))
          | "continue" =>
              setStatus 0
              throw (.nextRound (levelsOf arguments))
          | "cd" => runCd arguments
          | "export" => runExport arguments
          | "readonly" => runExport arguments
          | "local" => runExport arguments
          | "unset" => runUnset arguments
          | "set" => runSet arguments
          | "shift" => runShift arguments
          | "trap" => runTrap arguments
          | "wait" => runWait
          | "eval" => executeText fuel (joinArguments arguments)
          | "kill" => runKill fuel arguments
          | "command" =>
              match arguments with
              | name :: arguments => call fuel (String.ofList name) arguments
              | [] => setStatus 0
          | "exec" =>
              match arguments with
              | name :: arguments =>
                  modify fun machine => { machine with functions := [], traps := [] }
                  if programName (String.ofList name) = "sh" then runShell fuel arguments
                  else call fuel (String.ofList name) arguments
                  throw .exit
              | [] => setStatus 0
          | "test" => runTest name arguments
          | "[" =>
              if arguments.getLast? = some [']'] then runTest name arguments.dropLast
              else failWith 2 "[: missing ]"
          | name =>
              match program? (programName name) arguments with
              | some step => step
              | none =>
                  if programName name = "sh" then asProcess (runShell fuel arguments)
                  else failWith 127 (name ++ ": not found")

def runTest (name : String) (arguments : List ByteText) : Run Unit := do
  match testHolds? (← get).surroundings arguments with
  | some holds => setSuccess holds
  | none => failWith 2 (name ++ ": unexpected operator")

/-- Send a signal.  One that the script sends to itself ends it, unless it said what
is to be done. -/
def runKill : (fuel : Nat) → List ByteText → Run Unit
  | 0, _ => throw .endless
  | fuel + 1, arguments => do
      let (signal, processes) := signalAndProcesses arguments
      if processes.contains jobProcess then endJobs
      else if processes.contains ownProcess || processes.contains ['0'] then
        match (← get).traps.lookup signal, signal with
        | _, "EXIT" => setStatus 0
        | some action, _ => executeText fuel action
        | none, _ => throw .killed
      else failWith 1 "kill: No such process"

/-- Run a shell: a script that is given as an argument, that stands in a file, or that
is read from the input. -/
def runShell : (fuel : Nat) → List ByteText → Run Unit
  | 0, _ => throw .endless
  | fuel + 1, arguments => do
      match arguments with
      | ('-' :: options) :: rest =>
          if options.contains 'c' then
            match rest with
            | [] =>
                failWith 2 "-c requires an argument"
            | script :: rest =>
                runAsShell fuel (rest.head?.getD "sh".toList) rest.tail
                  (executeText fuel script)
          else if options.contains 's' then
            runAsShell fuel "sh".toList rest (executeInput fuel [])
          else runShell fuel rest
      | file :: rest =>
          match (← get).surroundings.contents? (String.ofList file) with
          | some text => runAsShell fuel file rest (executeText fuel (bytesOf text))
          | none =>
              complain ("sh: 0: cannot open ".toList ++ file ++ ": No such file".toList)
              setStatus 2
      | [] => runAsShell fuel "sh".toList [] (executeInput fuel [])

/-- Run a script as a shell of its own and then what it said is to be done at its
end. -/
def runAsShell : (fuel : Nat) → (name : ByteText) → (arguments : List ByteText) → Run Unit →
    Run Unit
  | 0, _, _, _ => throw .endless
  | fuel + 1, name, arguments, script => do
      let before ← get
      set { before with name := name, arguments := arguments, functions := [], traps := [] }
      restoring (fun _ after => { after with name := before.name })
        (asShell do
          try script
          catch interruption =>
            match interruption with
            | .killed => throw .killed
            | .waiting => throw .waiting
            | .endless => throw .endless
            | _ => pure ()
          let machine ← get
          match machine.traps.lookup "EXIT" with
          | some action =>
              executeText fuel action
              setStatus machine.status
          | none => pure ())

/-- Run the commands that come in as input, each as soon as it is whole. -/
def executeInput : (fuel : Nat) → ByteText → Run Unit
  | 0, _ => throw .endless
  | fuel + 1, begun => do
      let (line, isEnded) ← takeLine
      let text := begun ++ line
      match parseScript text with
      | some command =>
          execute fuel command
          if isEnded then executeInput fuel []
      | none =>
          if isEnded then executeInput fuel (text ++ ['\n'])
          else failWith 2 "Syntax error"

end

end BrowserRelay.Shell
