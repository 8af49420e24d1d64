import BrowserRelay.Proofs.Rounding
import Mathlib.Algebra.Order.Floor.Semifield

/-!
# The shortest decimal lies in its interval

The search for the shortest decimal starts at a power of ten that does not exceed the value, and
seventeen powers further down the grid is finer than the interval; so it ends at a decimal that
rounds to the number.
-/

namespace BrowserRelay.Decimal

/-- The value of a decimal. -/
def DecimalNumber.value (decimal : DecimalNumber) : ℚ := decimal.digits * 10 ^ decimal.power

/-! ## The interval -/

theorem DecimalNumber.over_eq (decimal : DecimalNumber) (denominator : Nat) :
    (0 : ℚ) < (decimal.over denominator).2 ∧
      ((decimal.over denominator).1 : ℚ) =
        decimal.value * denominator * (decimal.over denominator).2 := by
  obtain ⟨digits, power⟩ := decimal
  unfold DecimalNumber.over value
  split
  case isTrue up =>
    obtain ⟨height, rfl⟩ := Int.eq_ofNat_of_zero_le up
    exact ⟨by norm_num, by simp⟩
  case isFalse down =>
    obtain ⟨depth, rfl⟩ := Int.eq_negSucc_of_lt_zero (Int.not_le.mp down)
    refine ⟨by simp, ?_⟩
    have factor : (10 : ℚ) ^ (depth + 1) ≠ 0 := by positivity
    simp only [Int.neg_negSucc, Int.toNat_natCast, Nat.pow_eq, Nat.cast_mul, Nat.cast_pow,
      Nat.cast_ofNat, zpow_negSucc]
    field_simp

theorem RoundingInterval.contains_iff {interval : RoundingInterval} {decimal : DecimalNumber} :
    interval.contains decimal = true ↔
      if interval.closed then
        interval.low ≤ decimal.value * interval.denominator ∧
          decimal.value * interval.denominator ≤ interval.high
      else
        interval.low < decimal.value * interval.denominator ∧
          decimal.value * interval.denominator < interval.high := by
  obtain ⟨positive, ratio⟩ := decimal.over_eq interval.denominator
  unfold contains
  dsimp only
  generalize decimal.over interval.denominator = pair at *
  split
  · rw [decide_eq_true_eq, ← Nat.cast_le (α := ℚ), ← Nat.cast_le (α := ℚ), Nat.cast_mul,
      Nat.cast_mul, ratio, mul_le_mul_iff_left₀ positive, mul_le_mul_iff_left₀ positive]
  · rw [decide_eq_true_eq, ← Nat.cast_lt (α := ℚ), ← Nat.cast_lt (α := ℚ), Nat.cast_mul,
      Nat.cast_mul, ratio, mul_lt_mul_iff_left₀ positive, mul_lt_mul_iff_left₀ positive]

/-- How far the interval reaches below its number, in quarters of the unit of the mantissa. -/
def reachBelow (mantissa : Nat) (exponent : Int) : Nat :=
  if mantissa = 2 ^ 52 ∧ exponent > -1074 then 1 else 2

/-- The numbers that make up an interval as multiples of one unit. -/
theorem roundingInterval_eq (mantissa : Nat) (exponent : Int) :
    ∃ unit : ℚ, 0 < unit ∧
      ((roundingInterval mantissa exponent).denominator : ℚ) = 4 * 2 ^ (-exponent) * unit ∧
      ((roundingInterval mantissa exponent).value : ℚ) = 4 * mantissa * unit ∧
      ((roundingInterval mantissa exponent).high : ℚ) = (4 * mantissa + 2) * unit ∧
      ((roundingInterval mantissa exponent).low : ℚ) =
        (4 * mantissa - reachBelow mantissa exponent : Nat) * unit := by
  rcases le_or_gt 0 exponent with up | down
  · obtain ⟨height, rfl⟩ := Int.eq_ofNat_of_zero_le up
    refine ⟨2 ^ height, by positivity, ?_, ?_, ?_, ?_⟩ <;>
      simp [roundingInterval, reachBelow, up]
  · obtain ⟨depth, rfl⟩ : ∃ depth : Nat, exponent = -(depth : Int) :=
      ⟨exponent.natAbs, by omega⟩
    have below : depth ≠ 0 := by omega
    refine ⟨1, one_pos, ?_, ?_, ?_, ?_⟩ <;>
      simp [roundingInterval, reachBelow, below]

theorem roundingInterval_contains_iff {mantissa : Nat} {exponent : Int}
    {decimal : DecimalNumber} (positive : 0 < mantissa) :
    (roundingInterval mantissa exponent).contains decimal = true ↔
      if mantissa % 2 = 0 then
        4 * (mantissa : ℚ) - reachBelow mantissa exponent ≤ 4 * (decimal.value * 2 ^ (-exponent)) ∧
          4 * (decimal.value * 2 ^ (-exponent)) ≤ 4 * mantissa + 2
      else
        4 * (mantissa : ℚ) - reachBelow mantissa exponent < 4 * (decimal.value * 2 ^ (-exponent)) ∧
          4 * (decimal.value * 2 ^ (-exponent)) < 4 * mantissa + 2 := by
  obtain ⟨unit, unitPositive, denominator, -, high, low⟩ := roundingInterval_eq mantissa exponent
  have reach : reachBelow mantissa exponent ≤ 4 * mantissa := by
    unfold reachBelow
    split <;> omega
  rw [RoundingInterval.contains_iff, denominator, high, low, Nat.cast_sub reach, Nat.cast_mul,
    show decimal.value * (4 * 2 ^ (-exponent) * unit) =
      4 * (decimal.value * 2 ^ (-exponent)) * unit by ring]
  simp only [mul_le_mul_iff_left₀ unitPositive, mul_lt_mul_iff_left₀ unitPositive,
    Nat.cast_ofNat, roundingInterval, decide_eq_true_eq]

theorem roundsTo_of_contains {mantissa : Nat} {exponent : Int} {decimal : DecimalNumber}
    (positive : 0 < mantissa) (inside : (roundingInterval mantissa exponent).contains decimal) :
    RoundsTo mantissa exponent decimal.value := by
  have inside := (roundingInterval_contains_iff positive).mp inside
  have reach : (reachBelow mantissa exponent : ℚ) ≤ 2 := by
    unfold reachBelow
    split <;> norm_num
  constructor
  · split at inside <;> linarith
  · split at inside <;> linarith
  · intro odd
    rw [if_neg (by omega)] at inside
    constructor <;> linarith
  · intro power notLeast
    have short : reachBelow mantissa exponent = 1 := if_pos ⟨power, notLeast⟩
    rw [short, Nat.cast_one] at inside
    split at inside <;> linarith

theorem contains_of_above {mantissa : Nat} {exponent : Int} {decimal : DecimalNumber}
    (positive : 0 < mantissa) (low : (mantissa : ℚ) < decimal.value * 2 ^ (-exponent))
    (high : decimal.value * 2 ^ (-exponent) < mantissa + 1 / 2) :
    (roundingInterval mantissa exponent).contains decimal := by
  have reach : (0 : ℚ) ≤ reachBelow mantissa exponent := Nat.cast_nonneg _
  rw [roundingInterval_contains_iff positive]
  split
  · constructor <;> linarith
  · constructor <;> linarith

/-! ## The search -/

/-- The value of the number in the middle of an interval. -/
def RoundingInterval.middle (interval : RoundingInterval) : ℚ :=
  interval.value / interval.denominator

theorem middle_roundingInterval (mantissa : Nat) (exponent : Int) :
    (roundingInterval mantissa exponent).middle = mantissa * 2 ^ exponent := by
  obtain ⟨unit, unitPositive, denominator, value, -⟩ := roundingInterval_eq mantissa exponent
  have scale : (2 : ℚ) ^ exponent ≠ 0 := (zpow_pos two_pos _).ne'
  rw [RoundingInterval.middle, denominator, value, zpow_neg]
  field_simp

variable {interval : RoundingInterval}

/-- The digits below the value on a grid are its whole part there. -/
theorem neighbours_digits (interval : RoundingInterval) (power : Int) :
    (interval.neighbours power).1.digits = ⌊interval.middle / 10 ^ power⌋₊ := by
  unfold RoundingInterval.neighbours RoundingInterval.middle
  dsimp only
  split
  case isTrue up =>
    obtain ⟨height, rfl⟩ := Int.eq_ofNat_of_zero_le up
    rw [← Nat.floor_div_eq_div (K := ℚ), div_div, Nat.cast_mul, Int.toNat_natCast, Nat.pow_eq,
      Nat.cast_pow, Nat.cast_ofNat, zpow_natCast]
  case isFalse down =>
    obtain ⟨depth, rfl⟩ := Int.eq_negSucc_of_lt_zero (Int.not_le.mp down)
    rw [← Nat.floor_div_eq_div (K := ℚ), Nat.cast_mul, Int.neg_negSucc, Int.toNat_natCast,
      Nat.pow_eq, Nat.cast_pow, Nat.cast_ofNat, zpow_negSucc, div_inv_eq_mul, mul_div_right_comm]

/-- The value lies between its two neighbours on a grid. -/
theorem neighbours_surround (interval : RoundingInterval) (power : Int) :
    (interval.neighbours power).1.value ≤ interval.middle ∧
      interval.middle < (interval.neighbours power).2.value ∧
      (interval.neighbours power).2.value = (interval.neighbours power).1.value + 10 ^ power := by
  have step : (0 : ℚ) < 10 ^ power := zpow_pos (by norm_num) _
  have positive : 0 ≤ interval.middle / 10 ^ power :=
    div_nonneg (div_nonneg (Nat.cast_nonneg _) (Nat.cast_nonneg _)) step.le
  have below := Nat.floor_le positive
  have above := Nat.lt_floor_add_one (interval.middle / 10 ^ power)
  rw [← neighbours_digits, le_div_iff₀ step] at below
  rw [← neighbours_digits, div_lt_iff₀ step] at above
  have next : (interval.neighbours power).2.digits = (interval.neighbours power).1.digits + 1 := rfl
  refine ⟨below, ?_, ?_⟩
  · rw [DecimalNumber.value, next, Nat.cast_succ]
    exact above
  · rw [DecimalNumber.value, next, Nat.cast_succ, add_mul, one_mul]
    rfl

theorem leadingPower_le (interval : RoundingInterval) (fuel : Nat) (power : Int)
    (least : (10 : ℚ) ^ (power - fuel) ≤ interval.middle) :
    (10 : ℚ) ^ interval.leadingPower fuel power ≤ interval.middle := by
  induction fuel generalizing power with
  | zero => simpa [RoundingInterval.leadingPower] using least
  | succ fuel ih =>
      unfold RoundingInterval.leadingPower
      split
      case isTrue =>
        refine ih _ (le_of_eq_of_le ?_ least)
        congr 1
        omega
      case isFalse some =>
        have whole : (1 : ℚ) ≤ (interval.neighbours power).1.digits := by
          exact_mod_cast Nat.pos_of_ne_zero some
        calc (10 : ℚ) ^ power = 1 * 10 ^ power := (one_mul _).symm
          _ ≤ (interval.neighbours power).1.value :=
              mul_le_mul_of_nonneg_right whole (zpow_nonneg (by norm_num) _)
          _ ≤ interval.middle := (neighbours_surround interval power).1

/-- What is found on a grid is a positive decimal of the interval. -/
theorem onGrid?_contains {power : Int} {decimal : DecimalNumber}
    (found : interval.onGrid? power = some decimal) :
    interval.contains decimal = true ∧ decimal.digits ≠ 0 := by
  have next : (interval.neighbours power).2.digits ≠ 0 := Nat.succ_ne_zero _
  unfold RoundingInterval.onGrid? at found
  dsimp only at found
  generalize (interval.neighbours power).1 = below at *
  generalize (interval.neighbours power).2 = above at *
  split at found
  case h_1 low high =>
    rw [Bool.and_eq_true, bne_iff_ne] at low
    obtain rfl := Option.some.inj found
    unfold RoundingInterval.nearer
    dsimp only
    split
    · exact low
    · split
      · exact ⟨high, next⟩
      · split
        · exact low
        · exact ⟨high, next⟩
  case h_2 low _ =>
    obtain rfl := Option.some.inj found
    rw [Bool.and_eq_true, bne_iff_ne] at low
    exact low
  case h_3 _ high =>
    obtain rfl := Option.some.inj found
    exact ⟨high, next⟩
  case h_4 => simp at found

theorem onGrid?_isSome {power : Int}
    (fine : interval.contains (interval.neighbours power).2 = true) :
    (interval.onGrid? power).isSome := by
  unfold RoundingInterval.onGrid?
  dsimp only
  rw [fine]
  split
  · rfl
  · rfl
  · rfl
  case h_4 none => simp at none

/-- The search ends within its steps if one of the grids on its way holds a decimal above the
value. -/
theorem firstHit_contains (fuel depth : Nat) {power : Int} (near : depth < fuel)
    (fine : interval.contains (interval.neighbours (power - depth)).2 = true) :
    interval.contains (interval.firstHit fuel power) = true ∧
      (interval.firstHit fuel power).digits ≠ 0 := by
  induction fuel generalizing depth power with
  | zero => omega
  | succ fuel ih =>
      unfold RoundingInterval.firstHit
      split
      case h_1 decimal found => exact onGrid?_contains found
      case h_2 missed =>
        cases depth with
        | zero =>
            rw [Nat.cast_zero, Int.sub_zero] at fine
            have := onGrid?_isSome fine
            rw [missed] at this
            simp at this
        | succ depth =>
            refine ih depth (by omega) ?_
            rw [show power - 1 - depth = power - (depth + 1 : Nat) by omega]
            exact fine

theorem stripZeros_value (fuel : Nat) (decimal : DecimalNumber) :
    (decimal.stripZeros fuel).value = decimal.value := by
  induction fuel generalizing decimal with
  | zero => rfl
  | succ fuel ih =>
      unfold DecimalNumber.stripZeros
      split
      case isTrue zero =>
        have whole : 10 * (decimal.digits / 10) = decimal.digits := by omega
        rw [ih, DecimalNumber.value, DecimalNumber.value, zpow_add_one₀ (by norm_num)]
        conv => rhs; rw [← whole, Nat.cast_mul]
        push_cast
        ring
      case isFalse => rfl

theorem stripZeros_digits {fuel : Nat} {decimal : DecimalNumber} (some : decimal.digits ≠ 0) :
    (decimal.stripZeros fuel).digits ≠ 0 := by
  induction fuel generalizing decimal with
  | zero => exact some
  | succ fuel ih =>
      unfold DecimalNumber.stripZeros
      split
      case isTrue zero => exact ih (by dsimp only; omega)
      case isFalse => exact some

/-! ## The result -/

theorem pow_ten_le_pow_two_of_up :
    ∀ size < 1024, 10 ^ (((size : Nat) + 1 : Int) * 30103 / 100000 - 3).toNat ≤ 2 ^ size := by
  decide +kernel

theorem pow_two_le_pow_ten_of_down :
    ∀ size < 1075, 2 ^ size ≤ 10 ^ (3 - (1 - ((size : Nat) : Int)) * 30103 / 100000).toNat := by
  decide +kernel

/-- Three powers of ten below the estimate for the leading digit lies no value of the format. -/
theorem estimate_le {mantissa : Nat} {exponent : Int} (positive : 0 < mantissa)
    (scaled : IsScaled mantissa exponent) :
    (10 : ℚ) ^ ((mantissa.log2 + exponent + 1) * 30103 / 100000 - 3) ≤ mantissa * 2 ^ exponent := by
  have log : mantissa.log2 < 53 := (Nat.log2_lt positive.ne').mpr scaled.small
  have least := scaled.least
  have greatest := scaled.greatest
  have leading : (2 : ℚ) ^ (mantissa.log2 + exponent) ≤ mantissa * 2 ^ exponent := by
    rw [zpow_add₀ two_ne_zero, zpow_natCast]
    refine mul_le_mul_of_nonneg_right ?_ (zpow_nonneg zero_le_two _)
    exact_mod_cast Nat.log2_self_le positive.ne'
  refine le_trans ?_ leading
  rcases le_or_gt 0 (mantissa.log2 + exponent) with up | down
  · obtain ⟨size, same⟩ := Int.eq_ofNat_of_zero_le up
    have bound := pow_ten_le_pow_two_of_up size (by omega)
    rw [same, zpow_natCast]
    calc (10 : ℚ) ^ ((size + 1) * 30103 / 100000 - 3 : Int)
        ≤ 10 ^ (((size + 1) * 30103 / 100000 - 3 : Int).toNat : Int) :=
          zpow_le_zpow_right₀ (by norm_num) (Int.self_le_toNat _)
      _ ≤ 2 ^ size := by
          rw [zpow_natCast]
          exact_mod_cast bound
  · obtain ⟨size, same⟩ : ∃ size : Nat, mantissa.log2 + exponent = -(size : Int) :=
      ⟨(mantissa.log2 + exponent).natAbs, by omega⟩
    have bound := pow_two_le_pow_ten_of_down size (by omega)
    have negative : (-(size : Int) + 1) * 30103 / 100000 - 3 =
        -((3 - (1 - (size : Int)) * 30103 / 100000).toNat : Int) := by
      rw [Int.toNat_of_nonneg (by omega), show -(size : Int) + 1 = 1 - size by ring]
      ring
    rw [same, negative, zpow_neg, zpow_neg, zpow_natCast, zpow_natCast]
    refine inv_anti₀ (by positivity) ?_
    exact_mod_cast bound

/-- Seventeen powers of ten below the value, the decimal above it lies in the interval. -/
theorem above_contained {mantissa : Nat} {exponent power : Int} (positive : 0 < mantissa)
    (scaled : IsScaled mantissa exponent)
    (leading : (10 : ℚ) ^ power ≤ (roundingInterval mantissa exponent).middle) :
    (roundingInterval mantissa exponent).contains
      ((roundingInterval mantissa exponent).neighbours (power - 17)).2 = true := by
  obtain ⟨below, above, step⟩ :=
    neighbours_surround (roundingInterval mantissa exponent) (power - 17)
  have small : (mantissa : ℚ) < 2 ^ 53 := by exact_mod_cast scaled.small
  have grid : (10 : ℚ) ^ (power - 17) * 10 ^ 17 = 10 ^ power := by
    rw [← zpow_natCast, ← zpow_add₀ (by norm_num)]
    congr 1
    norm_num
  rw [middle_roundingInterval] at below above leading
  have unit : (0 : ℚ) < 2 ^ exponent := zpow_pos two_pos _
  refine contains_of_above positive ?_ ?_
  · rw [zpow_neg, ← div_eq_mul_inv, lt_div_iff₀ unit]
    exact above
  · rw [mul_zpow_neg_lt_iff]
    have room : (10 : ℚ) ^ (power - 17) < 1 / 2 * 2 ^ exponent := by
      have : (mantissa : ℚ) * 2 ^ exponent < 2 ^ 53 * 2 ^ exponent :=
        mul_lt_mul_of_pos_right small unit
      linarith
    linarith

/-- The shortest decimal is positive and rounds to its number. -/
theorem shortestDecimal_rounds {mantissa : Nat} {exponent : Int} (positive : 0 < mantissa)
    (scaled : IsScaled mantissa exponent) :
    0 < (shortestDecimal mantissa exponent).digits ∧
      RoundsTo mantissa exponent (shortestDecimal mantissa exponent).value := by
  have leading := leadingPower_le (roundingInterval mantissa exponent) 4
    ((mantissa.log2 + exponent + 1) * 30103 / 100000 + 1) (by
      rw [middle_roundingInterval]
      convert estimate_le positive scaled using 2
      omega)
  obtain ⟨inside, some⟩ := firstHit_contains 20 17 (by decide)
    (above_contained positive scaled leading)
  unfold shortestDecimal
  refine ⟨Nat.pos_of_ne_zero (stripZeros_digits some), ?_⟩
  rw [stripZeros_value]
  exact roundsTo_of_contains positive inside

end BrowserRelay.Decimal
