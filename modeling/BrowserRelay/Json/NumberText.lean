import BrowserRelay.Decimal.Shortest
import BrowserRelay.Json.Value

/-!
# How numbers are written

A whole number is written in decimal digits.  A binary number is written with the
fewest digits that read back: positionally while its leading digit stands at most
five places behind the point and at most sixteen before it, with a fraction in
every case, and otherwise with an exponent that always carries its sign.
-/

namespace BrowserRelay.Json

/-- Where the positional form of a binary number begins and ends, as the power
of ten of the leading digit. -/
structure PositionalRange where
  least : Int
  greatest : Int

/-- The range in which JSON text writes binary numbers positionally. -/
def positionalRange : PositionalRange := ⟨-5, 15⟩

def natText (value : Nat) : List Char := Nat.toDigits 10 value

def intText : Int → List Char
  | .ofNat value => natText value
  | .negSucc value => '-' :: natText (value + 1)

/-- The positional form of `0.d₁d₂… * 10 ^ (leading + 1)`. -/
def positionalText (digits : List Char) (leading : Int) : List Char :=
  if leading < 0 then
    '0' :: '.' :: (List.replicate (-leading - 1).toNat '0' ++ digits)
  else
    let wholeLength := leading.toNat + 1
    let whole := digits.take wholeLength
    let fraction := digits.drop wholeLength
    whole ++ List.replicate (wholeLength - digits.length) '0' ++
      '.' :: (if fraction.isEmpty then ['0'] else fraction)

/-- The form `d₁.d₂…e±n` with the point left out when one digit is all. -/
def exponentText (digits : List Char) (leading : Int) : List Char :=
  let significand :=
    match digits with
    | first :: second :: rest => first :: '.' :: second :: rest
    | short => short
  significand ++ 'e' :: (if leading < 0 then '-' else '+') :: natText leading.natAbs

def decimalText (decimal : Decimal.DecimalNumber) : List Char :=
  let digits := natText decimal.digits
  let leading : Int := decimal.power + digits.length - 1
  if positionalRange.least ≤ leading ∧ leading ≤ positionalRange.greatest then
    positionalText digits leading
  else exponentText digits leading

def binaryText (value : Decimal.Binary64) : List Char :=
  let magnitude :=
    if value.mantissa = 0 then ['0', '.', '0']
    else decimalText (Decimal.shortestDecimal value.mantissa value.exponent)
  if value.isNegative then '-' :: magnitude else magnitude

def numberText : Number → List Char
  | .integer value => intText value
  | .binary value => binaryText value

end BrowserRelay.Json
