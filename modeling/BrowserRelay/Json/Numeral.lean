import BrowserRelay.Decimal.Scaling
import BrowserRelay.Json.Value
import BrowserRelay.Text.Digits

/-!
# Numbers as they stand in a text

A number without fraction and exponent is a whole number if it is in range.  Any
other is read in binary arithmetic from a significand of 64 bits.  Digits before
the point that do not fit the significand only raise the power of ten, and those
behind the point that do not fit are ignored.
-/

namespace BrowserRelay

/-- A number as it stands in a text: its sign, the digits before and behind its
point, and its exponent, if it has one. -/
structure Numeral where
  isNegative : Bool
  whole : List Char
  fraction : List Char := []
  exponent : Option Int := none

/-- Take digits into a significand as long as it stays below `2 ^ 64`; the digits
that are left over follow it. -/
def gatherDigits (significand : Nat) : List Char → Nat × List Char
  | [] => (significand, [])
  | digit :: rest =>
      let longer := significand * 10 + digitValue digit
      if longer < Nat.pow 2 64 then gatherDigits longer rest else (significand, digit :: rest)

namespace Numeral

/-- The greatest exponent that is told from larger ones. -/
def exponentLimit : Nat := 2147483647

/-- The significand that is gathered, and the power of ten that the digits before
and behind the point give it. -/
def gathered (numeral : Numeral) : Nat × Int :=
  let (significand, raising) := gatherDigits 0 numeral.whole
  let (significand, ignored) := gatherDigits significand numeral.fraction
  (significand, raising.length + ignored.length - numeral.fraction.length)

/-- The binary number that is read, unless it is too large. -/
def binary? (numeral : Numeral) : Option Decimal.Binary64 :=
  let (significand, power) := numeral.gathered
  let exponent := numeral.exponent.getD 0
  if exponent.natAbs > exponentLimit then
    if significand ≠ 0 ∧ exponent > 0 then none
    else some (Decimal.Binary64.zero numeral.isNegative)
  else Decimal.Binary64.ofParts numeral.isNegative significand (power + exponent)

/-- The number that is read, unless it is too large.  Minus zero is a binary number. -/
def number? (numeral : Numeral) : Option Number :=
  let (significand, power) := numeral.gathered
  if numeral.fraction.isEmpty ∧ numeral.exponent.isNone ∧ power = 0 then
    if !numeral.isNegative then some (.integer significand)
    else if significand ≠ 0 ∧ significand ≤ Nat.pow 2 63 then some (.integer (-significand))
    else numeral.binary?.map .binary
  else numeral.binary?.map .binary

end Numeral

end BrowserRelay
