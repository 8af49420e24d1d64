import BrowserRelay.Decimal.Binary64

/-!
# The shortest decimal that reads back

The reals that round to a binary number form an interval around it, whose ends
belong to it exactly when the mantissa is even.  The shortest decimal is the
number with the fewest digits in that interval, and of those the one nearest to
the binary number itself.
-/

namespace BrowserRelay.Decimal

/-- The decimal `digits * 10 ^ power`. -/
structure DecimalNumber where
  digits : Nat
  power : Int
  deriving DecidableEq

/-- The interval of reals that round to a positive binary number, as numerators
over one common denominator, together with the number itself. -/
structure RoundingInterval where
  low : Nat
  value : Nat
  high : Nat
  denominator : Nat
  closed : Bool

/-- The interval of a number `mantissa * 2 ^ exponent`.  Below a power of two the
neighbours are half as far apart, so there the interval reaches half as far. -/
def roundingInterval (mantissa : Nat) (exponent : Int) : RoundingInterval :=
  let reach := if mantissa = Nat.pow 2 52 ∧ exponent > -1074 then 1 else 2
  let scale := if exponent ≥ 0 then Nat.pow 2 exponent.toNat else 1
  { low := (4 * mantissa - reach) * scale
    value := 4 * mantissa * scale
    high := (4 * mantissa + 2) * scale
    denominator := 4 * if exponent ≥ 0 then 1 else Nat.pow 2 (-exponent).toNat
    closed := mantissa % 2 = 0 }

/-- The numerator of a decimal over the interval's denominator, times ten to the
`-power` when the power is negative, and that factor. -/
def DecimalNumber.over (decimal : DecimalNumber) (denominator : Nat) : Nat × Nat :=
  if decimal.power ≥ 0 then (decimal.digits * Nat.pow 10 decimal.power.toNat * denominator, 1)
  else (decimal.digits * denominator, Nat.pow 10 (-decimal.power).toNat)

/-- Whether a decimal rounds to the number that the interval belongs to. -/
def RoundingInterval.contains (interval : RoundingInterval) (decimal : DecimalNumber) : Bool :=
  let (numerator, factor) := decimal.over interval.denominator
  if interval.closed then interval.low * factor ≤ numerator ∧ numerator ≤ interval.high * factor
  else interval.low * factor < numerator ∧ numerator < interval.high * factor

/-- Twice the distance between a decimal below and a decimal above decides which
is nearer; a tie goes to the even digits. -/
def RoundingInterval.nearer (interval : RoundingInterval) (below above : DecimalNumber) :
    DecimalNumber :=
  let (lower, factor) := below.over interval.denominator
  let (upper, _) := above.over interval.denominator
  let value := interval.value * factor
  if value - lower < upper - value then below
  else if value - lower > upper - value then above
  else if below.digits % 2 = 0 then below
  else above

/-- The two neighbours of the value on the grid of multiples of `10 ^ power`. -/
def RoundingInterval.neighbours (interval : RoundingInterval) (power : Int) :
    DecimalNumber × DecimalNumber :=
  let digits :=
    if power ≥ 0 then interval.value / (interval.denominator * Nat.pow 10 power.toNat)
    else interval.value * Nat.pow 10 (-power).toNat / interval.denominator
  (⟨digits, power⟩, ⟨digits + 1, power⟩)

/-- The decimal of the grid that rounds to the number, if there is one. -/
def RoundingInterval.onGrid? (interval : RoundingInterval) (power : Int) : Option DecimalNumber :=
  let (below, above) := interval.neighbours power
  match interval.contains below && below.digits != 0, interval.contains above with
  | true, true => some (interval.nearer below above)
  | true, false => some below
  | false, true => some above
  | false, false => none

/-- The greatest power of ten that does not exceed the value, found by counting
down from an estimate that is not too small. -/
def RoundingInterval.leadingPower (interval : RoundingInterval) : Nat → Int → Int
  | 0, power => power
  | fuel + 1, power =>
      if (interval.neighbours power).1.digits = 0 then interval.leadingPower fuel (power - 1)
      else power

/-- The first grid that holds a decimal of the interval, going from coarse to
fine. -/
def RoundingInterval.firstHit (interval : RoundingInterval) : Nat → Int → DecimalNumber
  | 0, power => (interval.neighbours power).1
  | fuel + 1, power =>
      match interval.onGrid? power with
      | some decimal => decimal
      | none => interval.firstHit fuel (power - 1)

/-- Move the zeros at the end of the digits into the power. -/
def DecimalNumber.stripZeros : Nat → DecimalNumber → DecimalNumber
  | 0, decimal => decimal
  | fuel + 1, decimal =>
      if decimal.digits ≠ 0 ∧ decimal.digits % 10 = 0 then
        stripZeros fuel ⟨decimal.digits / 10, decimal.power + 1⟩
      else decimal

/-- The shortest decimal that rounds to `mantissa * 2 ^ exponent`.  Seventeen
digits always suffice. -/
def shortestDecimal (mantissa : Nat) (exponent : Int) : DecimalNumber :=
  let interval := roundingInterval mantissa exponent
  let estimate : Int := (mantissa.log2 + exponent + 1) * 30103 / 100000 + 1
  let leading := interval.leadingPower 4 estimate
  (interval.firstHit 20 leading).stripZeros 20

end BrowserRelay.Decimal
