import BrowserRelay.Shell.Expansion
import BrowserRelay.Shell.Format

/-!
# Programs that scripts and services use

Small programs that need nothing but their arguments and their input.
-/

namespace BrowserRelay.Shell

/-- The number that a text spells, if it spells one. -/
def wholeNumber? (text : ByteText) : Option Int :=
  match argumentNumber (text.dropWhile isSpace) with
  | (value, true) => if text.isEmpty then none else some value
  | _ => none

/-! ## Conditions -/

def unaryTest? (surroundings : Surroundings) (operator : String) (operand : ByteText) :
    Option Bool :=
  let path := String.ofList operand
  match operator with
  | "-n" => some (!operand.isEmpty)
  | "-z" => some operand.isEmpty
  | "-d" => some (surroundings.isDirectory path)
  | "-f" => some (surroundings.contents? path).isSome
  | "-e" => some ((surroundings.contents? path).isSome || surroundings.isDirectory path)
  | "-r" => some ((surroundings.contents? path).isSome || surroundings.isDirectory path)
  | "-s" => some ((surroundings.contents? path).any (!·.isEmpty))
  | "-t" => some false
  | _ => none

def compareNumbers (relation : Int → Int → Bool) (first second : ByteText) : Option Bool := do
  let first ← wholeNumber? first
  let second ← wholeNumber? second
  some (relation first second)

def binaryTest? (operator : String) (first second : ByteText) : Option Bool :=
  match operator with
  | "=" => some (first = second)
  | "!=" => some (first ≠ second)
  | "-eq" => compareNumbers (fun first second => first = second) first second
  | "-ne" => compareNumbers (fun first second => first ≠ second) first second
  | "-lt" => compareNumbers (fun first second => first < second) first second
  | "-le" => compareNumbers (fun first second => first ≤ second) first second
  | "-gt" => compareNumbers (fun first second => first > second) first second
  | "-ge" => compareNumbers (fun first second => first ≥ second) first second
  | _ => none

def isBinaryOperator (operator : ByteText) : Bool :=
  String.ofList operator ∈ ["=", "!=", "-eq", "-ne", "-lt", "-le", "-gt", "-ge"]

mutual

/-- A condition and what follows it: alternatives, each of several conditions. -/
def alternativesHold : (fuel : Nat) → Surroundings → List ByteText →
    Option (Bool × List ByteText)
  | 0, _, _ => none
  | fuel + 1, surroundings, arguments => do
      let (first, rest) ← conjunctionHolds fuel surroundings arguments
      match rest with
      | ['-', 'o'] :: rest =>
          let (second, rest) ← alternativesHold fuel surroundings rest
          some (first || second, rest)
      | rest => some (first, rest)

def conjunctionHolds : (fuel : Nat) → Surroundings → List ByteText →
    Option (Bool × List ByteText)
  | 0, _, _ => none
  | fuel + 1, surroundings, arguments => do
      let (first, rest) ← conditionHolds fuel surroundings arguments
      match rest with
      | ['-', 'a'] :: rest =>
          let (second, rest) ← conjunctionHolds fuel surroundings rest
          some (first && second, rest)
      | rest => some (first, rest)

def conditionHolds : (fuel : Nat) → Surroundings → List ByteText →
    Option (Bool × List ByteText)
  | 0, _, _ => none
  | fuel + 1, surroundings, arguments =>
      match arguments with
      | [] => some (false, [])
      | [operand] => some (!operand.isEmpty, [])
      | first :: second :: rest =>
          match rest with
          | third :: more =>
              if isBinaryOperator second then
                (binaryTest? (String.ofList second) first third).map (·, more)
              else unaryHolds fuel surroundings first (second :: rest)
          | [] => unaryHolds fuel surroundings first [second]

/-- A condition that starts with an operator, or a plain operand. -/
def unaryHolds : (fuel : Nat) → Surroundings → ByteText → List ByteText →
    Option (Bool × List ByteText)
  | 0, _, _, _ => none
  | fuel + 1, surroundings, operator, arguments =>
      if operator = ['!'] then
        (conditionHolds fuel surroundings arguments).map fun (holds, rest) => (!holds, rest)
      else if operator = ['('] then do
        let (holds, rest) ← alternativesHold fuel surroundings arguments
        match rest with
        | [')'] :: rest => some (holds, rest)
        | _ => none
      else
        match arguments with
        | [] => some (!operator.isEmpty, [])
        | operand :: rest =>
            match unaryTest? surroundings (String.ofList operator) operand with
            | some holds => some (holds, rest)
            | none => some (!operator.isEmpty, arguments)

end

/-- Whether the condition that arguments spell holds, if they spell one. -/
def testHolds? (surroundings : Surroundings) (arguments : List ByteText) : Option Bool :=
  match alternativesHold (4 * arguments.length + 4) surroundings arguments with
  | some (holds, []) => some holds
  | _ => none

/-! ## Output -/

def joinArguments (arguments : List ByteText) : ByteText :=
  List.intercalate [' '] arguments

/-- Print arguments with their escapes expanded; a first argument `-n` leaves out
the line end. -/
def runEcho (arguments : List ByteText) : Run Unit := do
  let (withLineEnd, arguments) :=
    match arguments with
    | ['-', 'n'] :: rest => (false, rest)
    | arguments => (true, arguments)
  let text := joinArguments arguments
  let expanded := expandEscapes (text.length + 1) text
  sayFor "echo" true (expanded.text ++ (if withLineEnd && !expanded.stops then ['\n'] else []))

def runPlainEcho (arguments : List ByteText) : Run Unit := do
  match arguments with
  | ['-', 'e'] :: rest => runEcho rest
  | ['-', 'n'] :: rest => say (joinArguments rest)
  | arguments => say (joinArguments arguments ++ ['\n'])
  setStatus 0

def runPrintf (arguments : List ByteText) : Run Unit := do
  let arguments :=
    match arguments with
    | ['-', '-'] :: rest => rest
    | arguments => arguments
  match arguments with
  | [] => failWith 2 "printf: usage: printf format [arg ...]"
  | format :: arguments =>
      let (text, isSound) := printFormat format arguments
      sayFor "printf" isSound text

/-! ## Other programs -/

def runCat (arguments : List ByteText) : Run Unit := do
  match arguments with
  | [] => copyInput
  | arguments =>
      setStatus 0
      for argument in arguments do
        let machine ← get
        if argument = ['-'] then copyInput
        else
          match machine.surroundings.contents? (String.ofList argument) with
          | some text => say (bytesOf text)
          | none =>
              complain ("cat: ".toList ++ argument ++ ": No such file or directory".toList)
              setStatus 1
      return
  setStatus 0

def spanOf? (text : ByteText) : Option Nat :=
  let digits := text.takeWhile Char.isDigit
  let (fraction, rest) :=
    match text.dropWhile Char.isDigit with
    | '.' :: rest => (rest.takeWhile Char.isDigit, rest.dropWhile Char.isDigit)
    | rest => ([], rest)
  let base := valueInBase 10 digits * 1000 +
    valueInBase 10 ((fraction ++ ['0', '0', '0']).take 3)
  if digits.isEmpty && fraction.isEmpty then none
  else
    match rest with
    | [] => some base
    | ['s'] => some base
    | ['m'] => some (60 * base)
    | ['h'] => some (3600 * base)
    | ['d'] => some (86400 * base)
    | _ => none

def runSleep (arguments : List ByteText) : Run Unit := do
  if arguments = ["infinity".toList] then throw .waiting
  match arguments.mapM spanOf? with
  | some (span :: spans) =>
      let whole := (span :: spans).foldr Nat.add 0
      modify fun machine => { machine with clock := machine.clock + whole }
      setStatus 0
  | _ =>
      complain "sleep: invalid time interval".toList
      setStatus 1

def runSeq (arguments : List ByteText) : Run Unit := do
  let numbers (first last : Int) : List Int :=
    (List.range (last - first + 1).toNat).map fun (offset : Nat) => first + (offset : Int)
  let printed (first last : Int) : ByteText :=
    (numbers first last).flatMap fun number => (toString number).toList ++ ['\n']
  match arguments.mapM wholeNumber? with
  | some [last] => say (printed 1 last); setStatus 0
  | some [first, last] => say (printed first last); setStatus 0
  | _ => complain "seq: invalid arguments".toList; setStatus 1

end BrowserRelay.Shell
