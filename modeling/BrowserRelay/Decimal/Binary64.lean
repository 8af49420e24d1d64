/-!
# Numbers in the 64-bit binary format

A number in this format is a sign and a value `mantissa * 2 ^ exponent` with a
mantissa below `2 ^ 53` and an exponent from -1074 to 971.  Decimals are rounded
to the nearest such number in exact arithmetic, a tie going to the even mantissa.
-/

namespace BrowserRelay.Decimal

/-- A number in the 64-bit binary format, given by its bits. -/
structure Binary64 where
  bits : UInt64
  deriving DecidableEq

namespace Binary64

/-- Whether the sign bit is set. -/
def isNegative (number : Binary64) : Bool :=
  number.bits.toNat ≥ Nat.pow 2 63

def exponentField (number : Binary64) : Nat :=
  number.bits.toNat / Nat.pow 2 52 % Nat.pow 2 11

def fractionField (number : Binary64) : Nat :=
  number.bits.toNat % Nat.pow 2 52

/-- The whole number that the magnitude is a power of two times of. -/
def mantissa (number : Binary64) : Nat :=
  if number.exponentField = 0 then number.fractionField
  else number.fractionField + Nat.pow 2 52

def exponent (number : Binary64) : Int :=
  if number.exponentField = 0 then -1074 else number.exponentField - 1075

def zero (negative : Bool) : Binary64 :=
  ⟨if negative then 0x8000000000000000 else 0⟩

/-- Assemble a number from its sign, a mantissa below `2 ^ 53` and an exponent;
a mantissa below `2 ^ 52` comes only with the least exponent. -/
def assemble (negative : Bool) (mantissa : Nat) (exponent : Int) : Binary64 :=
  let magnitude :=
    if mantissa < Nat.pow 2 52 then mantissa
    else (exponent + 1075).toNat * Nat.pow 2 52 + (mantissa - Nat.pow 2 52)
  ⟨(magnitude + if negative then Nat.pow 2 63 else 0).toUInt64⟩

end Binary64

/-- The whole number nearest to a fraction, a tie going to the even one. -/
def roundHalfEven (numerator denominator : Nat) : Nat :=
  let quotient := numerator / denominator
  let doubled := 2 * (numerator % denominator)
  if doubled < denominator then quotient
  else if doubled > denominator then quotient + 1
  else if quotient % 2 = 0 then quotient
  else quotient + 1

/-- The fraction `numerator / denominator * 2 ^ -power` as a numerator and a
denominator. -/
def scaleDown (numerator denominator : Nat) (power : Int) : Nat × Nat :=
  if power ≥ 0 then (numerator, denominator * Nat.pow 2 power.toNat)
  else (numerator * Nat.pow 2 (-power).toNat, denominator)

/-- The greatest power of two that does not exceed a positive fraction. -/
def floorLog2 (numerator denominator : Nat) : Int :=
  let estimate : Int := numerator.log2 - denominator.log2
  let (scaled, unit) := scaleDown numerator denominator estimate
  if scaled < unit then estimate - 1 else estimate

/-- The number nearest to a positive fraction, or `none` when it is too large. -/
def nearestBinary64 (negative : Bool) (numerator denominator : Nat) : Option Binary64 :=
  let exponent := max (floorLog2 numerator denominator - 52) (-1074)
  let (scaled, unit) := scaleDown numerator denominator exponent
  let rounded := roundHalfEven scaled unit
  let (mantissa, exponent) :=
    if rounded = Nat.pow 2 53 then (Nat.pow 2 52, exponent + 1) else (rounded, exponent)
  if exponent > 971 then none else some (Binary64.assemble negative mantissa exponent)

/-- The number nearest to `digits * 10 ^ power`, or `none` when it is too large.
Powers far outside the format are settled without computing them. -/
def Binary64.ofDecimal (negative : Bool) (digits : Nat) (power : Int) : Option Binary64 :=
  let size : Int := (Nat.toDigits 10 digits).length
  if digits = 0 ∨ size + power < -330 then some (Binary64.zero negative)
  else if size + power > 310 then none
  else if power ≥ 0 then nearestBinary64 negative (digits * Nat.pow 10 power.toNat) 1
  else nearestBinary64 negative digits (Nat.pow 10 (-power).toNat)

end BrowserRelay.Decimal
