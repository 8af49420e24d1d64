import BrowserRelay.Decimal.Binary64

/-!
# Decimals in binary arithmetic

A decimal can be read without exact arithmetic: its digits are rounded to a binary
number, which is then multiplied or divided by a power of ten.  Every step rounds,
so the outcome need not be the number nearest to the decimal, and a decimal close
to the end of the range can come out too large.
-/

namespace BrowserRelay.Decimal.Binary64

/-- The product of a number and a positive factor, or `none` when it is too large. -/
def times (number factor : Binary64) : Option Binary64 :=
  if number.mantissa = 0 then some number
  else
    let (numerator, denominator) :=
      scaleDown (number.mantissa * factor.mantissa) 1 (-(number.exponent + factor.exponent))
    nearestBinary64 number.isNegative numerator denominator

/-- The quotient of a number and a positive divisor, or `none` when it is too large. -/
def dividedBy (number divisor : Binary64) : Option Binary64 :=
  if number.mantissa = 0 then some number
  else
    let (numerator, denominator) :=
      scaleDown number.mantissa divisor.mantissa (divisor.exponent - number.exponent)
    nearestBinary64 number.isNegative numerator denominator

/-- The greatest power of ten in the format is ten to this power. -/
def greatestTen : Nat := 308

/-- Divide several times by the greatest power of ten, or until nothing is left. -/
def overGreatestTen : Nat → Binary64 → Option Binary64
  | 0, number => some number
  | steps + 1, number =>
      if number.mantissa = 0 then some number
      else do
        let quotient ← number.dividedBy (← ofDecimal false 1 greatestTen)
        overGreatestTen steps quotient

/-- The number that binary arithmetic finds for `significand * 10 ^ power`, or
`none` when it is too large.  A power below the format is taken in several steps. -/
def ofParts (negative : Bool) (significand : Nat) (power : Int) : Option Binary64 := do
  let number ← ofDecimal negative significand 0
  if significand = 0 then some number
  else if power > greatestTen then none
  else if power ≥ 0 then number.times (← ofDecimal false 1 power)
  else
    let steps := (-power - 1).toNat / greatestTen
    let number ← number.overGreatestTen steps
    number.dividedBy (← ofDecimal false 1 (-power - greatestTen * steps))

end BrowserRelay.Decimal.Binary64
