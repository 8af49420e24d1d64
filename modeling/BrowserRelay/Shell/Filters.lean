import BrowserRelay.Shell.Programs

/-!
# Programs that take their input apart

Some programs copy a part of their input, count it or exchange its characters.  A
program that has to see all of its input first writes nothing before the input ends.
-/

namespace BrowserRelay.Shell

/-! ## Beginnings and ends -/

/-- How much of its input a program is asked for. -/
inductive Extent where
  | lines (count : Nat)
  | bytes (count : Nat)

/-- The extent that arguments spell; without arguments it is ten lines. -/
def extentOf? (arguments : List ByteText) : Option Extent :=
  let counted (extent : Nat → Extent) (count : ByteText) : Option Extent :=
    (wholeNumber? count).map fun count => extent count.toNat
  match arguments with
  | [] => some (.lines 10)
  | [['-', 'n'], count] => counted .lines count
  | [['-', 'c'], count] => counted .bytes count
  | [('-' :: 'n' :: count)] => counted .lines count
  | [('-' :: 'c' :: count)] => counted .bytes count
  | [('-' :: count)] => counted .lines count
  | _ => none

def copyLines : Nat → Run Unit
  | 0 => pure ()
  | count + 1 => do
      let (text, isEnded) ← takeLine
      say (if isEnded then text ++ ['\n'] else text)
      if isEnded then copyLines count

def loseInput : Run Unit :=
  modify fun machine =>
    { machine with
      arrivals := machine.arrivals.dropWhile fun arrival => arrival.time ≤ machine.clock }

/-- Copy the beginning of the input.  A program that looks for lines takes in all that
is there, and what it does not copy is lost to those that read after it. -/
def runHead (arguments : List ByteText) : Run Unit := do
  match extentOf? arguments with
  | some (.lines count) =>
      copyLines count
      loseInput
      setStatus 0
  | some (.bytes count) =>
      copyBytes count
      setStatus 0
  | none =>
      complain "head: invalid arguments".toList
      setStatus 1

def cutLines : ByteText → List ByteText
  | [] => []
  | character :: rest =>
      if character = '\n' then [character] :: cutLines rest
      else
        match cutLines rest with
        | [] => [[character]]
        | line :: others => (character :: line) :: others

/-- The last members of a list, as many as are asked for. -/
def lastMembers {α : Type} (count : Nat) (members : List α) : List α :=
  members.drop (members.length - count)

/-- Copy the end of the input, or all of it from a place that a plus sign counts from
the beginning. -/
def runTail (arguments : List ByteText) : Run Unit := do
  let plain := arguments.map fun argument => argument.filter (· ≠ '+')
  let taken {α : Type} (count : Nat) (members : List α) : List α :=
    if plain = arguments then lastMembers count members else members.drop (count - 1)
  match extentOf? plain with
  | some (.lines count) =>
      let text ← capturing copyInput
      say (taken count (cutLines text)).flatten
      setStatus 0
  | some (.bytes count) =>
      let text ← capturing copyInput
      say (taken count text)
      setStatus 0
  | none =>
      complain "tail: invalid arguments".toList
      setStatus 1

/-! ## Counts -/

def inColumns (number : Nat) : ByteText :=
  let digits := (toString number).toList
  List.replicate (7 - digits.length) ' ' ++ digits

def countWords (text : ByteText) : Nat :=
  (fieldsOf [' ', '\t', '\n', '\x0b', '\x0c', '\r'] [.split text]).length

/-- Read the input to its end and count its lines, words or bytes. -/
def runWc (arguments : List ByteText) : Run Unit := do
  let text ← capturing copyInput
  let lines := text.count '\n'
  let counts :=
    match arguments.map String.ofList with
    | ["-l"] => (toString lines).toList
    | ["-w"] => (toString (countWords text)).toList
    | ["-c"] => (toString text.length).toList
    | _ =>
        inColumns lines ++ ' ' :: inColumns (countWords text) ++ ' ' :: inColumns text.length
  say (counts ++ ['\n'])
  setStatus 0

/-! ## Exchanging characters -/

/-- The characters that a set names: single ones, escapes, ranges and classes. -/
def membersOfSet : (fuel : Nat) → ByteText → List Char
  | 0, _ => []
  | fuel + 1, text =>
      match text with
      | [] => []
      | '[' :: ':' :: rest =>
          let name := String.ofList (rest.takeWhile (· ≠ ':'))
          (allBytes.filter (isInClass name)) ++
            membersOfSet fuel ((rest.dropWhile (· ≠ ':')).drop 2)
      | '\\' :: 'n' :: rest => '\n' :: membersOfSet fuel rest
      | '\\' :: 't' :: rest => '\t' :: membersOfSet fuel rest
      | '\\' :: 'r' :: rest => '\r' :: membersOfSet fuel rest
      | '\\' :: character :: rest =>
          if character.isDigit then
            let digits := (character :: rest).takeWhile Char.isDigit
            Char.ofNat (valueInBase 8 digits % 256) ::
              membersOfSet fuel ((character :: rest).dropWhile Char.isDigit)
          else character :: membersOfSet fuel rest
      | least :: '-' :: greatest :: rest =>
          (allBytes.filter fun character => least ≤ character && character ≤ greatest) ++
            membersOfSet fuel rest
      | character :: rest => character :: membersOfSet fuel rest
where
  /-- All bytes in their order. -/
  allBytes : List Char := (List.range 256).map Char.ofNat

/-- What a character is exchanged for.  The last character of the second set stands for
all that the set is short of. -/
def exchanged (first second : List Char) (character : Char) : Char :=
  match first.idxOf? character with
  | none => character
  | some index => (second[index]?.orElse fun _ => second.getLast?).getD character

/-- Leave one of several equal characters of a set that follow one another. -/
def squeezed (set : List Char) : ByteText → ByteText
  | [] => []
  | [character] => [character]
  | first :: second :: rest =>
      if first = second ∧ set.contains first then squeezed set (second :: rest)
      else first :: squeezed set (second :: rest)

/-- Exchange, delete or squeeze the characters of the input. -/
def runTr (arguments : List ByteText) : Run Unit := do
  let options := (arguments.takeWhile fun argument => argument.head? = some '-').flatten
  let sets := (arguments.dropWhile fun argument => argument.head? = some '-').map fun set =>
    membersOfSet (set.length + 1) set
  let outside (set : List Char) : List Char :=
    membersOfSet.allBytes.filter fun character => !set.contains character
  let named (set : List Char) : List Char :=
    if options.contains 'c' || options.contains 'C' then outside set else set
  let squeeze (set : List Char) (text : ByteText) : ByteText :=
    if options.contains 's' then squeezed set text else text
  let change? : Option (ByteText → ByteText) :=
    match sets, options.contains 'd' with
    | [set], true => some (List.filter (outside (named set)).contains)
    | [set], false =>
        if options.contains 's' then some (squeeze (named set)) else none
    | [first, second], false =>
        some fun text => squeeze second (text.map (exchanged (named first) second))
    | _, _ => none
  match change? with
  | some change =>
      let text ← capturing copyInput
      say (change text)
      setStatus 0
  | none =>
      complain "tr: missing operand".toList
      setStatus 1

/-! ## Output without end -/

/-- How many lines of an output without end are followed. -/
def followedLines : Nat := 5000

def runYes (arguments : List ByteText) : Run Unit := do
  let line := if arguments.isEmpty then ['y'] else joinArguments arguments
  say (List.replicate followedLines (line ++ ['\n'])).flatten
  throw .endless

/-! ## Programs by their names -/

/-- A program that is not part of the shell, by its name. -/
def program? (name : String) (arguments : List ByteText) : Option (Run Unit) :=
  match name with
  | "cat" => some (runCat arguments)
  | "sleep" => some (runSleep arguments)
  | "seq" => some (runSeq arguments)
  | "head" => some (runHead arguments)
  | "tail" => some (runTail arguments)
  | "wc" => some (runWc arguments)
  | "tr" => some (runTr arguments)
  | "yes" => some (runYes arguments)
  | "true" => some (setStatus 0)
  | "false" => some (setStatus 1)
  | "echo" => some (runPlainEcho arguments)
  | "printf" => some (runPrintf arguments)
  | "pwd" => some (do say (bytesOf (← get).directory ++ ['\n']); setStatus 0)
  | _ => none

/-- The name of a program without the directories that programs are kept in. -/
def programName (path : String) : String :=
  let directories := ["/bin/", "/usr/bin/", "/usr/local/bin/"]
  match directories.find? fun directory => directory.toList.isPrefixOf path.toList with
  | some directory => String.ofList (path.toList.drop directory.length)
  | none => path

end BrowserRelay.Shell
