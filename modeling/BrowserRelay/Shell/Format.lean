import BrowserRelay.Shell.Arithmetic

/-!
# Formatted output of a shell script

The formats of printed text: escapes, and conversions that consume arguments.  A
format is used again as long as arguments are left.
-/

namespace BrowserRelay.Shell

/-- The character that a single letter behind a backslash stands for. -/
def escapeLetter? (character : Char) : Option Char :=
  match character with
  | '\\' => some '\\'
  | 'a' => some '\x07'
  | 'b' => some '\x08'
  | 'f' => some '\x0c'
  | 'n' => some '\n'
  | 'r' => some '\r'
  | 't' => some '\t'
  | 'v' => some '\x0b'
  | _ => none

def isOctalDigit (character : Char) : Bool :=
  '0' ≤ character && character ≤ '7'

/-- The byte that up to a number of octal digits stand for, and what follows. -/
def takeOctal (most : Nat) (characters : ByteText) : Char × ByteText :=
  let digits := (characters.takeWhile isOctalDigit).take most
  (Char.ofNat (valueInBase 8 digits % 256), characters.drop digits.length)

/-- Text and whether output ends with it. -/
structure Expanded where
  text : ByteText
  stops : Bool := false

def Expanded.after (text : ByteText) (expanded : Expanded) : Expanded :=
  { expanded with text := text ++ expanded.text }

/-- Expand the escapes of a text that is printed as it is.  Octal digits follow a
zero. -/
def expandEscapes : (fuel : Nat) → ByteText → Expanded
  | 0, _ => ⟨[], false⟩
  | fuel + 1, characters =>
      match characters with
      | [] => ⟨[], false⟩
      | '\\' :: 'c' :: _ => ⟨[], true⟩
      | '\\' :: '0' :: rest =>
          let (byte, rest) := takeOctal 3 rest
          (expandEscapes fuel rest).after [byte]
      | '\\' :: character :: rest =>
          match escapeLetter? character with
          | some plain => (expandEscapes fuel rest).after [plain]
          | none => (expandEscapes fuel rest).after ['\\', character]
      | character :: rest => (expandEscapes fuel rest).after [character]

/-- How a conversion lays out its text. -/
structure Layout where
  leftAligned : Bool := false
  zeroFilled : Bool := false
  signed : Bool := false
  spaced : Bool := false
  alternate : Bool := false
  width : Nat := 0
  precision : Option Nat := none

def takeFlags (layout : Layout) : ByteText → Layout × ByteText
  | '-' :: rest => takeFlags { layout with leftAligned := true } rest
  | '0' :: rest => takeFlags { layout with zeroFilled := true } rest
  | '+' :: rest => takeFlags { layout with signed := true } rest
  | ' ' :: rest => takeFlags { layout with spaced := true } rest
  | '#' :: rest => takeFlags { layout with alternate := true } rest
  | rest => (layout, rest)

/-- Take the width and the precision of a conversion. -/
def takeLayout (characters : ByteText) : Layout × ByteText :=
  let (layout, rest) := takeFlags {} characters
  let layout := { layout with width := valueInBase 10 (rest.takeWhile Char.isDigit) }
  match rest.dropWhile Char.isDigit with
  | '.' :: rest =>
      ({ layout with precision := some (valueInBase 10 (rest.takeWhile Char.isDigit)) },
        rest.dropWhile Char.isDigit)
  | rest => (layout, rest)

def Layout.fill (layout : Layout) (text : ByteText) : ByteText :=
  let missing := List.replicate (layout.width - text.length) ' '
  if layout.leftAligned then text ++ missing else missing ++ text

def Layout.text (layout : Layout) (text : ByteText) : ByteText :=
  layout.fill
    (match layout.precision with
     | none => text
     | some length => text.take length)

def Layout.number (layout : Layout) (negative : Bool) (digits : ByteText) : ByteText :=
  let sign :=
    if negative then ['-'] else if layout.signed then ['+'] else if layout.spaced then [' ']
    else []
  let digits :=
    match layout.precision with
    | some length => List.replicate (length - digits.length) '0' ++ digits
    | none =>
        if layout.zeroFilled && !layout.leftAligned then
          List.replicate (layout.width - sign.length - digits.length) '0' ++ digits
        else digits
  layout.fill (sign ++ digits)

/-- The number that an argument spells and whether it is one. -/
def argumentNumber (argument : ByteText) : Int × Bool :=
  match argument with
  | [] => (0, true)
  | '"' :: character :: _ => (character.toNat, true)
  | '\'' :: character :: _ => (character.toNat, true)
  | argument =>
      let (negative, digits) :=
        match argument.dropWhile (· = ' ') with
        | '-' :: rest => (true, rest)
        | '+' :: rest => (false, rest)
        | rest => (false, rest)
      let isDigit (character : Char) : Bool :=
        match digits with
        | '0' :: 'x' :: _ => character.isAlphanum
        | '0' :: _ => isOctalDigit character
        | _ => character.isDigit
      let spelled := digits.takeWhile isDigit
      let value := literalValue spelled
      (if negative then -value else value, spelled.length = digits.length && !spelled.isEmpty)

/-- What a format printed so far: the text, the arguments left, and whether all
numbers were numbers. -/
structure Printed where
  text : ByteText := []
  arguments : List ByteText
  isSound : Bool := true
  stops : Bool := false

def Printed.add (printed : Printed) (text : ByteText) : Printed :=
  { printed with text := printed.text ++ text }

def Printed.addNumber (printed : Printed) (layout : Layout) (base : Nat) (isUpper : Bool) :
    Printed :=
  let argument := printed.arguments.head?.getD []
  let (value, isSound) := argumentNumber argument
  let printed :=
    { printed with
      arguments := printed.arguments.tail
      isSound := printed.isSound && isSound }
  if base = 10 then
    printed.add (layout.number (decide (value < 0)) (toString value.natAbs).toList)
  else
    let digits := Nat.toDigits base (value % Int.pow 2 64).toNat
    printed.add (layout.number false (if isUpper then digits.map Char.toUpper else digits))

def Printed.convert (printed : Printed) (layout : Layout) (conversion : Char) : Printed :=
  let argument := printed.arguments.head?.getD []
  let later := { printed with arguments := printed.arguments.tail }
  match conversion with
  | 's' => later.add (layout.text argument)
  | 'b' =>
      let expanded := expandEscapes (argument.length + 1) argument
      { later.add (layout.text expanded.text) with stops := expanded.stops }
  | 'c' => later.add (layout.text (argument.take 1))
  | 'd' => printed.addNumber layout 10 false
  | 'i' => printed.addNumber layout 10 false
  | 'u' => printed.addNumber layout 10 false
  | 'o' => printed.addNumber layout 8 false
  | 'x' => printed.addNumber layout 16 false
  | 'X' => printed.addNumber layout 16 true
  | _ => { printed with isSound := false, stops := true }

def printOnce : (fuel : Nat) → Printed → ByteText → Printed
  | 0, printed, _ => printed
  | fuel + 1, printed, format =>
      if printed.stops then printed
      else
        match format with
        | [] => printed
        | '%' :: '%' :: rest => printOnce fuel (printed.add ['%']) rest
        | '%' :: rest =>
            let (layout, rest) := takeLayout rest
            match rest with
            | [] => { printed with isSound := false, stops := true }
            | conversion :: rest => printOnce fuel (printed.convert layout conversion) rest
        | '\\' :: 'c' :: _ => { printed with stops := true }
        | '\\' :: character :: rest =>
            if isOctalDigit character then
              let (byte, rest) := takeOctal 3 (character :: rest)
              printOnce fuel (printed.add [byte]) rest
            else
              match escapeLetter? character with
              | some plain => printOnce fuel (printed.add [plain]) rest
              | none => printOnce fuel (printed.add ['\\', character]) rest
        | character :: rest => printOnce fuel (printed.add [character]) rest

def printAll : (fuel : Nat) → Printed → ByteText → Printed
  | 0, printed, _ => printed
  | fuel + 1, printed, format =>
      let after := printOnce (format.length + 1) printed format
      if after.stops || after.arguments.isEmpty ||
          after.arguments.length = printed.arguments.length then after
      else printAll fuel after format

/-- Print arguments by a format: the text, and whether all went well. -/
def printFormat (format : ByteText) (arguments : List ByteText) : ByteText × Bool :=
  let printed := printAll (arguments.length + 1) { arguments := arguments } format
  (printed.text, printed.isSound)

end BrowserRelay.Shell
