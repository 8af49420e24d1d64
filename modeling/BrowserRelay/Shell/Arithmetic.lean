import BrowserRelay.Shell.Command
import BrowserRelay.Text.Digits

/-!
# Arithmetic in a shell script

Expressions on whole numbers of 64 bits, with the precedence of their operators as
usual.  A name stands for the number that its variable spells, and for zero if there
is no such variable.
-/

namespace BrowserRelay.Shell

/-- A token of an expression. -/
inductive ArithmeticToken where
  | number (value : Int)
  | name (name : ByteText)
  | mark (text : String)
  deriving DecidableEq

/-- Bring a number into 64 bits. -/
def wrap (value : Int) : Int := Int.bmod value (Nat.pow 2 64)

/-- The number that a literal spells: decimal, octal behind a zero, hexadecimal
behind a zero and an x. -/
def literalValue (text : ByteText) : Int :=
  match text with
  | '0' :: 'x' :: digits => valueInBase 16 digits
  | '0' :: 'X' :: digits => valueInBase 16 digits
  | '0' :: digits => valueInBase 8 digits
  | digits => valueInBase 10 digits

def variableNumber (text : ByteText) : Int :=
  match text.dropWhile fun character => character = ' ' ∨ character = '\t' with
  | '-' :: rest => -literalValue (rest.takeWhile Char.isAlphanum)
  | '+' :: rest => literalValue (rest.takeWhile Char.isAlphanum)
  | rest => literalValue (rest.takeWhile Char.isAlphanum)

def arithmeticMarks : List String :=
  ["<<=", ">>=", "&&", "||", "==", "!=", "<=", ">=", "<<", ">>", "+=", "-=", "*=", "/=", "%=",
    "&=", "|=", "^=", "+", "-", "*", "/", "%", "<", ">", "!", "~", "&", "|", "^", "=", "?", ":",
    "(", ")"]

def arithmeticTokens : (fuel : Nat) → ByteText → Option (List ArithmeticToken)
  | 0, _ => none
  | fuel + 1, characters =>
      match characters with
      | [] => some []
      | first :: rest =>
          if first ∈ [' ', '\t', '\n'] then arithmeticTokens fuel rest
          else if first.isDigit then
            (arithmeticTokens fuel (characters.dropWhile Char.isAlphanum)).map
              (.number (wrap (literalValue (characters.takeWhile Char.isAlphanum))) :: ·)
          else if first.isAlpha || first = '_' then
            let isInside (character : Char) := character.isAlphanum || character = '_'
            (arithmeticTokens fuel (characters.dropWhile isInside)).map
              (.name (characters.takeWhile isInside) :: ·)
          else
            match arithmeticMarks.find? fun mark => mark.toList.isPrefixOf characters with
            | none => none
            | some mark =>
                (arithmeticTokens fuel (characters.drop mark.length)).map (.mark mark :: ·)

abbrev ArithmeticVariables := List (ByteText × ByteText)

def ArithmeticVariables.number (bindings : ArithmeticVariables) (name : ByteText) : Int :=
  match bindings.lookup name with
  | none => 0
  | some text => variableNumber text

def precedence? : String → Option Nat
  | "||" => some 1
  | "&&" => some 2
  | "|" => some 3
  | "^" => some 4
  | "&" => some 5
  | "==" => some 6
  | "!=" => some 6
  | "<" => some 7
  | "<=" => some 7
  | ">" => some 7
  | ">=" => some 7
  | "<<" => some 8
  | ">>" => some 8
  | "+" => some 9
  | "-" => some 9
  | "*" => some 10
  | "/" => some 10
  | "%" => some 10
  | _ => none

def truth (holds : Bool) : Int := if holds then 1 else 0

/-- Apply an operation to the 64 bits of two numbers. -/
def onBits (operation : Nat → Nat → Nat) (first second : Int) : Int :=
  wrap (operation (first % Int.pow 2 64).toNat (second % Int.pow 2 64).toNat)

/-- The result of an operator; dividing by zero has none. -/
def applyOperator? (operator : String) (first second : Int) : Option Int :=
  match operator with
  | "||" => some (truth (first ≠ 0 || second ≠ 0))
  | "&&" => some (truth (first ≠ 0 && second ≠ 0))
  | "|" => some (onBits (· ||| ·) first second)
  | "^" => some (onBits (· ^^^ ·) first second)
  | "&" => some (onBits (· &&& ·) first second)
  | "==" => some (truth (first = second))
  | "!=" => some (truth (first ≠ second))
  | "<" => some (truth (first < second))
  | "<=" => some (truth (first ≤ second))
  | ">" => some (truth (first > second))
  | ">=" => some (truth (first ≥ second))
  | "<<" => some (wrap (first * Int.pow 2 (second % 64).toNat))
  | ">>" => some (wrap (first / Int.pow 2 (second % 64).toNat))
  | "+" => some (wrap (first + second))
  | "-" => some (wrap (first - second))
  | "*" => some (wrap (first * second))
  | "/" => if second = 0 then none else some (wrap (first.tdiv second))
  | "%" => if second = 0 then none else some (wrap (first.tmod second))
  | _ => none

/-- The operator in front of the equals sign of an assignment. -/
def assignmentOperator? : String → Option (Option String)
  | "=" => some none
  | "+=" => some (some "+")
  | "-=" => some (some "-")
  | "*=" => some (some "*")
  | "/=" => some (some "/")
  | "%=" => some (some "%")
  | "&=" => some (some "&")
  | "|=" => some (some "|")
  | "^=" => some (some "^")
  | "<<=" => some (some "<<")
  | ">>=" => some (some ">>")
  | _ => none

/-- A value together with the variables after finding it and the tokens left. -/
structure ArithmeticResult where
  value : Int
  bindings : ArithmeticVariables
  rest : List ArithmeticToken

mutual

/-- The value of an expression, which may be an assignment or a choice. -/
def expressionValue : (fuel : Nat) → ArithmeticVariables → List ArithmeticToken →
    Option ArithmeticResult
  | 0, _, _ => none
  | fuel + 1, bindings, tokens =>
      match tokens with
      | .name name :: .mark mark :: rest =>
          match assignmentOperator? mark with
          | none => choiceValue fuel bindings tokens
          | some operator => do
              let right ← expressionValue fuel bindings rest
              let value ←
                match operator with
                | none => some right.value
                | some operator =>
                    applyOperator? operator (right.bindings.number name) right.value
              some ⟨value, (name, bytesOf (toString value)) :: right.bindings, right.rest⟩
      | tokens => choiceValue fuel bindings tokens

def choiceValue : (fuel : Nat) → ArithmeticVariables → List ArithmeticToken →
    Option ArithmeticResult
  | 0, _, _ => none
  | fuel + 1, bindings, tokens => do
      let test ← operationValue fuel 1 bindings tokens
      match test.rest with
      | .mark "?" :: rest =>
          let yes ← expressionValue fuel test.bindings rest
          match yes.rest with
          | .mark ":" :: rest =>
              let no ← expressionValue fuel yes.bindings rest
              some { no with value := if test.value ≠ 0 then yes.value else no.value }
          | _ => none
      | _ => some test

/-- The value of operations that bind at least as tightly as given. -/
def operationValue : (fuel least : Nat) → ArithmeticVariables → List ArithmeticToken →
    Option ArithmeticResult
  | 0, _, _, _ => none
  | fuel + 1, least, bindings, tokens => do
      let first ← operandValue fuel bindings tokens
      operationsBehind fuel least first

/-- Apply the operators that follow a value and bind tightly enough. -/
def operationsBehind : (fuel least : Nat) → ArithmeticResult → Option ArithmeticResult
  | 0, _, _ => none
  | fuel + 1, least, first =>
      match first.rest with
      | .mark operator :: rest =>
          match precedence? operator with
          | none => some first
          | some binding =>
              if binding < least then some first
              else do
                let second ← operationValue fuel (binding + 1) first.bindings rest
                let value ← applyOperator? operator first.value second.value
                operationsBehind fuel least { second with value := value }
      | _ => some first

/-- The value of a number, a name, an expression in parentheses or one of these
behind a sign. -/
def operandValue : (fuel : Nat) → ArithmeticVariables → List ArithmeticToken →
    Option ArithmeticResult
  | 0, _, _ => none
  | fuel + 1, bindings, tokens =>
      match tokens with
      | .number value :: rest => some ⟨value, bindings, rest⟩
      | .name name :: rest => some ⟨bindings.number name, bindings, rest⟩
      | .mark "(" :: rest => do
          let inner ← expressionValue fuel bindings rest
          match inner.rest with
          | .mark ")" :: rest => some { inner with rest := rest }
          | _ => none
      | .mark "-" :: rest =>
          (operandValue fuel bindings rest).map fun r => { r with value := wrap (-r.value) }
      | .mark "+" :: rest => operandValue fuel bindings rest
      | .mark "!" :: rest =>
          (operandValue fuel bindings rest).map fun r => { r with value := truth (r.value = 0) }
      | .mark "~" :: rest =>
          (operandValue fuel bindings rest).map fun r => { r with value := -r.value - 1 }
      | _ => none

end

/-- Evaluate an expression: its value and the variables afterwards. -/
def evaluateArithmetic (bindings : ArithmeticVariables) (text : ByteText) :
    Option (Int × ArithmeticVariables) :=
  match arithmeticTokens (text.length + 1) text with
  | none => none
  | some [] => some (0, bindings)
  | some tokens =>
      match expressionValue (8 * tokens.length + 8) bindings tokens with
      | some ⟨value, bindings, []⟩ => some (value, bindings)
      | _ => none

end BrowserRelay.Shell
