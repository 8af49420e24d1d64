import BrowserRelay.Decimal.Shortest
import Mathlib.Data.Int.Log
import Mathlib.Data.Rat.Floor
import Mathlib.Tactic.FieldSimp
import Mathlib.Tactic.Linarith
import Mathlib.Tactic.NormNum
import Mathlib.Tactic.Positivity
import Mathlib.Tactic.Ring

/-!
# Rounding decimals to binary numbers

A positive fraction is rounded to a mantissa and an exponent of the format exactly if it lies in
the interval around their value; so a decimal of that interval reads back as the number that the
interval belongs to.
-/

namespace BrowserRelay.Decimal

/-! ## Whole numbers near a fraction -/

theorem roundHalfEven_eq {numerator denominator whole : Nat} (positive : 0 < denominator)
    (low : 2 * whole * denominator ≤ 2 * numerator + denominator)
    (high : 2 * numerator ≤ (2 * whole + 1) * denominator)
    (inside : whole % 2 = 1 → 2 * whole * denominator < 2 * numerator + denominator ∧
      2 * numerator < (2 * whole + 1) * denominator) :
    roundHalfEven numerator denominator = whole := by
  have parts := Nat.div_add_mod numerator denominator
  have small := Nat.mod_lt numerator positive
  unfold roundHalfEven
  dsimp only
  generalize numerator / denominator = quotient at *
  generalize numerator % denominator = remainder at *
  subst parts
  have atMost : quotient ≤ whole := by
    by_contra less
    have : denominator * (whole + 1) ≤ denominator * quotient :=
      Nat.mul_le_mul_left _ (by omega)
    nlinarith
  have atLeast : whole ≤ quotient + 1 := by
    by_contra less
    have : denominator * (quotient + 2) ≤ denominator * whole :=
      Nat.mul_le_mul_left _ (by omega)
    nlinarith
  rcases (by omega : whole = quotient ∨ whole = quotient + 1) with rfl | rfl
  · have lower : 2 * remainder ≤ denominator := by nlinarith
    have odd (isOdd : whole % 2 = 1) : 2 * remainder < denominator := by
      have := (inside isOdd).2
      nlinarith
    split
    · rfl
    · split
      · omega
      · split <;> omega
  · have upper : denominator ≤ 2 * remainder := by nlinarith
    have odd (isOdd : (quotient + 1) % 2 = 1) : denominator < 2 * remainder := by
      have := (inside isOdd).1
      nlinarith
    split
    · omega
    · split
      · rfl
      · split <;> omega

/-- A fraction is rounded to a whole number at most a half away, and to an odd one only if it is
nearer than that. -/
theorem roundHalfEven_of_near {numerator denominator whole : Nat} (positive : 0 < denominator)
    (low : (whole : ℚ) - 1 / 2 ≤ numerator / denominator)
    (high : (numerator : ℚ) / denominator ≤ whole + 1 / 2)
    (inside : whole % 2 = 1 → (whole : ℚ) - 1 / 2 < numerator / denominator ∧
      (numerator : ℚ) / denominator < whole + 1 / 2) :
    roundHalfEven numerator denominator = whole := by
  have unit : (0 : ℚ) < denominator := Nat.cast_pos.mpr positive
  rw [le_div_iff₀ unit] at low
  rw [div_le_iff₀ unit] at high
  refine roundHalfEven_eq positive ?_ ?_ fun odd => ?_
  · have : (2 * whole * denominator : ℚ) ≤ 2 * numerator + denominator := by linarith
    exact_mod_cast this
  · have : (2 * numerator : ℚ) ≤ (2 * whole + 1) * denominator := by linarith
    exact_mod_cast this
  · obtain ⟨low, high⟩ := inside odd
    rw [lt_div_iff₀ unit] at low
    rw [div_lt_iff₀ unit] at high
    have below : (2 * whole * denominator : ℚ) < 2 * numerator + denominator := by linarith
    have above : (2 * numerator : ℚ) < (2 * whole + 1) * denominator := by linarith
    exact ⟨by exact_mod_cast below, by exact_mod_cast above⟩

theorem roundHalfEven_le {numerator denominator bound : Nat} (positive : 0 < denominator)
    (le : numerator ≤ bound * denominator) : roundHalfEven numerator denominator ≤ bound := by
  have parts := Nat.div_add_mod numerator denominator
  have quotient : numerator / denominator ≤ bound :=
    Nat.div_le_of_le_mul (Nat.mul_comm bound denominator ▸ le)
  rcases Nat.lt_or_eq_of_le quotient with less | same
  · unfold roundHalfEven
    dsimp only
    split <;> [skip; split <;> [skip; split]] <;> omega
  · have exactly : numerator % denominator = 0 := by
      rw [same, Nat.mul_comm] at parts
      omega
    simp [roundHalfEven, exactly, positive, same]

/-! ## Powers of two -/

theorem scaleDown_positive (numerator : Nat) {denominator : Nat} (power : Int)
    (positive : 0 < denominator) : 0 < (scaleDown numerator denominator power).2 := by
  unfold scaleDown
  split
  · exact Nat.mul_pos positive (Nat.pow_pos (by decide))
  · exact positive

theorem scaleDown_eq (numerator denominator : Nat) (power : Int) :
    ((scaleDown numerator denominator power).1 : ℚ) / (scaleDown numerator denominator power).2 =
      numerator / denominator * 2 ^ (-power) := by
  unfold scaleDown
  split
  case isTrue up =>
    obtain ⟨height, rfl⟩ := Int.eq_ofNat_of_zero_le up
    simp only [Int.toNat_natCast, Nat.pow_eq, Nat.cast_mul, Nat.cast_pow,
      Nat.cast_ofNat, zpow_neg, zpow_natCast]
    rw [div_mul_eq_div_div, div_eq_mul_inv _ ((2 : ℚ) ^ height)]
  case isFalse down =>
    obtain ⟨height, rfl⟩ := Int.eq_negSucc_of_lt_zero (by omega : power < 0)
    simp only [Int.neg_negSucc, Int.toNat_natCast, Nat.pow_eq, Nat.cast_mul, Nat.cast_pow,
      Nat.cast_ofNat, zpow_natCast]
    ring

theorem log_eq {base : Nat} {power : Int} {value : ℚ} (large : 1 < base) (positive : 0 < value)
    (low : (base : ℚ) ^ power ≤ value) (high : value < (base : ℚ) ^ (power + 1)) :
    Int.log base value = power :=
  le_antisymm (Int.lt_add_one_iff.mp ((Int.lt_zpow_iff_log_lt large positive).mp high))
    ((Int.zpow_le_iff_le_log large positive).mp low)

theorem floorLog2_eq_log {numerator denominator : Nat} (above : 0 < numerator)
    (below : 0 < denominator) :
    floorLog2 numerator denominator = Int.log 2 ((numerator : ℚ) / denominator) := by
  have top : (0 : ℚ) < numerator := Nat.cast_pos.mpr above
  have bottom : (0 : ℚ) < denominator := Nat.cast_pos.mpr below
  have positive : (0 : ℚ) < numerator / denominator := div_pos top bottom
  have topLow : (2 : ℚ) ^ (numerator.log2 : Int) ≤ numerator := by
    rw [zpow_natCast]
    exact_mod_cast Nat.log2_self_le above.ne'
  have topHigh : (numerator : ℚ) < 2 ^ (numerator.log2 + 1 : Int) := by
    have := Nat.lt_log2_self (n := numerator)
    exact_mod_cast this
  have bottomLow : (2 : ℚ) ^ (denominator.log2 : Int) ≤ denominator := by
    rw [zpow_natCast]
    exact_mod_cast Nat.log2_self_le below.ne'
  have bottomHigh : (denominator : ℚ) < 2 ^ (denominator.log2 + 1 : Int) := by
    have := Nat.lt_log2_self (n := denominator)
    exact_mod_cast this
  have least : (2 : ℚ) ^ ((numerator.log2 : Int) - denominator.log2 - 1) ≤
      numerator / denominator := by
    rw [le_div_iff₀ bottom]
    calc (2 : ℚ) ^ ((numerator.log2 : Int) - denominator.log2 - 1) * denominator
        ≤ 2 ^ ((numerator.log2 : Int) - denominator.log2 - 1) * 2 ^ (denominator.log2 + 1 : Int) :=
          mul_le_mul_of_nonneg_left bottomHigh.le (zpow_nonneg zero_le_two _)
      _ = 2 ^ (numerator.log2 : Int) := by
          rw [← zpow_add₀ two_ne_zero]
          congr 1
          ring
      _ ≤ numerator := topLow
  have greatest : (numerator : ℚ) / denominator <
      2 ^ ((numerator.log2 : Int) - denominator.log2 + 1) := by
    rw [div_lt_iff₀ bottom]
    calc (numerator : ℚ) < 2 ^ (numerator.log2 + 1 : Int) := topHigh
      _ = 2 ^ ((numerator.log2 : Int) - denominator.log2 + 1) * 2 ^ (denominator.log2 : Int) := by
          rw [← zpow_add₀ two_ne_zero]
          congr 1
          ring
      _ ≤ 2 ^ ((numerator.log2 : Int) - denominator.log2 + 1) * denominator :=
          mul_le_mul_of_nonneg_left bottomLow (zpow_nonneg zero_le_two _)
  have scaled := scaleDown_eq numerator denominator ((numerator.log2 : Int) - denominator.log2)
  have unit : (0 : ℚ) < (scaleDown numerator denominator
      ((numerator.log2 : Int) - denominator.log2)).2 :=
    Nat.cast_pos.mpr (scaleDown_positive numerator _ below)
  unfold floorLog2
  dsimp only
  generalize (numerator.log2 : Int) - denominator.log2 = estimate at *
  generalize scaleDown numerator denominator estimate = pair at *
  have less_iff : pair.1 < pair.2 ↔ (numerator : ℚ) / denominator < 2 ^ estimate := by
    rw [← Nat.cast_lt (α := ℚ), ← div_lt_one unit, scaled, zpow_neg, ← div_eq_mul_inv,
      div_lt_one (zpow_pos two_pos _)]
  symm
  split
  case isTrue less =>
    refine log_eq (by decide) positive (by exact_mod_cast least) ?_
    rw [sub_add_cancel]
    exact_mod_cast less_iff.mp less
  case isFalse notLess =>
    refine log_eq (by decide) positive ?_ (by exact_mod_cast greatest)
    exact_mod_cast not_lt.mp fun less => notLess (less_iff.mpr less)

/-! ## Mantissas and exponents -/

/-- A mantissa and an exponent as they stand in a finite number. -/
structure IsScaled (mantissa : Nat) (exponent : Int) : Prop where
  small : mantissa < 2 ^ 53
  full : 2 ^ 52 ≤ mantissa ∨ exponent = -1074
  least : -1074 ≤ exponent
  greatest : exponent ≤ 971

namespace Binary64

theorem bits_assemble {negative : Bool} {mantissa : Nat} {exponent : Int}
    (small : mantissa < 2 ^ 53) (least : -1074 ≤ exponent) (greatest : exponent ≤ 971) :
    (assemble negative mantissa exponent).bits.toNat =
      (if mantissa < 2 ^ 52 then mantissa
        else (exponent + 1075).toNat * 2 ^ 52 + (mantissa - 2 ^ 52)) +
      if negative then 2 ^ 63 else 0 := by
  simp only [assemble, Nat.pow_eq, Nat.toUInt64, UInt64.toNat_ofNat']
  apply Nat.mod_eq_of_lt
  split <;> split <;> omega

theorem exponentField_assemble {negative : Bool} {mantissa : Nat} {exponent : Int}
    (small : mantissa < 2 ^ 53) (least : -1074 ≤ exponent) (greatest : exponent ≤ 971) :
    (assemble negative mantissa exponent).exponentField < 2047 := by
  simp only [exponentField, bits_assemble small least greatest, Nat.pow_eq]
  split <;> split <;> omega

theorem isScaled {number : Binary64} (finite : number.exponentField < 2047) :
    IsScaled number.mantissa number.exponent := by
  have fraction : number.fractionField < 2 ^ 52 := Nat.mod_lt _ (by decide)
  unfold mantissa exponent
  rw [Nat.pow_eq]
  split
  · exact ⟨by omega, .inr rfl, by omega, by omega⟩
  · exact ⟨by omega, .inl (by omega), by omega, by omega⟩

theorem assemble_fields (number : Binary64) (finite : number.exponentField < 2047) :
    assemble number.isNegative number.mantissa number.exponent = number := by
  have parts : (assemble number.isNegative number.mantissa number.exponent).bits.toNat =
      number.bits.toNat := by
    have range := number.bits.toNat_lt
    obtain ⟨small, -, least, greatest⟩ := isScaled finite
    rw [bits_assemble small least greatest]
    simp only [isNegative, mantissa, exponent, exponentField, fractionField, Nat.pow_eq,
      decide_eq_true_eq]
    by_cases least : number.bits.toNat / 2 ^ 52 % 2 ^ 11 = 0
    · simp only [least, ↓reduceIte]
      split <;> split <;> omega
    · simp only [least, ↓reduceIte]
      split <;> split <;> omega
  exact congrArg Binary64.mk (UInt64.toNat_inj.mp parts)

theorem zero_isNegative {number : Binary64} (zeroMantissa : number.mantissa = 0) :
    zero number.isNegative = number := by
  have range := number.bits.toNat_lt
  have parts : (zero number.isNegative).bits.toNat = number.bits.toNat := by
    unfold mantissa at zeroMantissa
    split at zeroMantissa
    case isTrue least =>
      simp only [exponentField, fractionField, Nat.pow_eq] at least zeroMantissa
      cases sign : number.isNegative
      · have small := of_decide_eq_false sign
        simp only [Nat.pow_eq] at small
        simp only [zero, Bool.false_eq_true, ↓reduceIte, UInt64.toNat_zero]
        omega
      · have large := of_decide_eq_true sign
        simp only [Nat.pow_eq] at large
        simp only [zero, ↓reduceIte, UInt64.reduceToNat]
        omega
    case isFalse =>
      rw [Nat.pow_eq] at zeroMantissa
      omega
  exact congrArg Binary64.mk (UInt64.toNat_inj.mp parts)

end Binary64

/-! ## Rounding to the format -/

/-- A value lies in the interval of those that are rounded to `mantissa * 2 ^ exponent`.  Below a
power of two the interval reaches half as far. -/
structure RoundsTo (mantissa : Nat) (exponent : Int) (value : ℚ) : Prop where
  low : (mantissa : ℚ) - 1 / 2 ≤ value * 2 ^ (-exponent)
  high : value * 2 ^ (-exponent) ≤ mantissa + 1 / 2
  inside : mantissa % 2 = 1 → (mantissa : ℚ) - 1 / 2 < value * 2 ^ (-exponent) ∧
    value * 2 ^ (-exponent) < mantissa + 1 / 2
  power : mantissa = 2 ^ 52 → -1074 < exponent → (mantissa : ℚ) - 1 / 4 ≤ value * 2 ^ (-exponent)

theorem le_mul_zpow_neg_iff {bound value : ℚ} {exponent : Int} :
    bound ≤ value * 2 ^ (-exponent) ↔ bound * 2 ^ exponent ≤ value := by
  rw [zpow_neg, ← div_eq_mul_inv, le_div_iff₀ (zpow_pos two_pos _)]

theorem mul_zpow_neg_lt_iff {bound value : ℚ} {exponent : Int} :
    value * 2 ^ (-exponent) < bound ↔ value < bound * 2 ^ exponent := by
  rw [zpow_neg, ← div_eq_mul_inv, div_lt_iff₀ (zpow_pos two_pos _)]

theorem nearestBinary64_eq {negative : Bool} {numerator denominator mantissa : Nat}
    {exponent : Int} (above : 0 < numerator) (below : 0 < denominator)
    (scaled : IsScaled mantissa exponent)
    (rounds : RoundsTo mantissa exponent (numerator / denominator)) :
    nearestBinary64 negative numerator denominator =
      some (Binary64.assemble negative mantissa exponent) := by
  have positive : (0 : ℚ) < numerator / denominator :=
    div_pos (Nat.cast_pos.mpr above) (Nat.cast_pos.mpr below)
  obtain ⟨small, full, least, greatest⟩ := scaled
  have whole : (mantissa : ℚ) ≤ 2 ^ 53 - 1 := by
    have : mantissa + 1 ≤ 2 ^ 53 := small
    have : (mantissa : ℚ) + 1 ≤ 2 ^ 53 := by exact_mod_cast this
    linarith
  have atMost : Int.log 2 ((numerator : ℚ) / denominator) ≤ exponent + 52 := by
    have := rounds.high
    refine Int.lt_add_one_iff.mp ((Int.lt_zpow_iff_log_lt (by decide) positive).mp ?_)
    have bound : (numerator : ℚ) / denominator < 2 ^ 53 * 2 ^ exponent :=
      mul_zpow_neg_lt_iff.mp (by linarith)
    rw [Nat.cast_ofNat, show exponent + 52 + 1 = 53 + exponent by ring, zpow_add₀ two_ne_zero]
    exact_mod_cast bound
  have atLeast (digits : Nat) (bound : (2 : ℚ) ^ digits ≤ numerator / denominator *
      2 ^ (-exponent)) : exponent + digits ≤ Int.log 2 ((numerator : ℚ) / denominator) := by
    refine (Int.zpow_le_iff_le_log (by decide) positive).mp ?_
    rw [Nat.cast_ofNat, Int.add_comm, zpow_add₀ two_ne_zero, zpow_natCast]
    exact le_mul_zpow_neg_iff.mp bound
  have scaled := scaleDown_eq numerator denominator
  have unit := fun power => scaleDown_positive numerator power below
  unfold nearestBinary64
  dsimp only
  rw [floorLog2_eq_log above below]
  by_cases same : max (Int.log 2 ((numerator : ℚ) / denominator) - 52) (-1074) = exponent
  · have rounded : roundHalfEven (scaleDown numerator denominator exponent).1
        (scaleDown numerator denominator exponent).2 = mantissa := by
      refine roundHalfEven_of_near (unit exponent) ?_ ?_ ?_ <;> rw [scaled]
      exacts [rounds.low, rounds.high, rounds.inside]
    have apart : mantissa ≠ 2 ^ 53 := by omega
    simp only [same, rounded, Nat.pow_eq, apart, ↓reduceIte]
    exact if_neg (by omega)
  · -- Only just below a power of two does the grid of the value differ from that of the number.
    have normal : 2 ^ 52 ≤ mantissa := full.resolve_right (by omega)
    have notLeast : -1074 < exponent := by omega
    have lowest : mantissa = 2 ^ 52 := by
      refine Nat.le_antisymm (Nat.le_of_not_lt fun more => ?_) normal
      have : (2 ^ 52 + 1 : ℚ) ≤ mantissa := by exact_mod_cast more
      have := rounds.low
      have := atLeast 52 (by linarith)
      omega
    subst lowest
    have near := rounds.power rfl notLeast
    rw [Nat.cast_pow, Nat.cast_ofNat] at near
    have next : max (Int.log 2 ((numerator : ℚ) / denominator) - 52) (-1074) = exponent - 1 := by
      have := atLeast 51 (by linarith)
      omega
    have short : (numerator : ℚ) / denominator * 2 ^ (-exponent) < 2 ^ 52 := by
      have low := Int.lt_zpow_succ_log_self (b := 2) (by decide) ((numerator : ℚ) / denominator)
      rw [mul_zpow_neg_lt_iff, ← zpow_natCast, ← zpow_add₀ two_ne_zero]
      rw [Nat.cast_ofNat] at low
      exact low.trans_le (zpow_le_zpow_right₀ one_le_two (by omega))
    have double : (numerator : ℚ) / denominator * 2 ^ (-(exponent - 1)) =
        2 * ((numerator : ℚ) / denominator * 2 ^ (-exponent)) := by
      rw [show -(exponent - 1) = 1 + -exponent by ring, zpow_add₀ two_ne_zero, zpow_one]
      ring
    have rounded : roundHalfEven (scaleDown numerator denominator (exponent - 1)).1
        (scaleDown numerator denominator (exponent - 1)).2 = 2 ^ 53 := by
      refine roundHalfEven_of_near (unit _) ?_ ?_ (fun odd => absurd odd (by decide)) <;>
        rw [scaled, double, Nat.cast_pow, Nat.cast_ofNat] <;> linarith
    simp only [next, rounded, Nat.pow_eq, ↓reduceIte, sub_add_cancel]
    exact if_neg (by omega)

theorem nearestBinary64_finite {negative : Bool} {numerator denominator : Nat}
    {number : Binary64} (above : 0 < numerator) (below : 0 < denominator)
    (read : nearestBinary64 negative numerator denominator = some number) :
    number.exponentField < 2047 := by
  have positive : (0 : ℚ) < numerator / denominator :=
    div_pos (Nat.cast_pos.mpr above) (Nat.cast_pos.mpr below)
  have rounded (exponent : Int)
      (fine : Int.log 2 ((numerator : ℚ) / denominator) ≤ exponent + 52) :
      roundHalfEven (scaleDown numerator denominator exponent).1
        (scaleDown numerator denominator exponent).2 ≤ 2 ^ 53 := by
    have unit := scaleDown_positive numerator exponent below
    refine roundHalfEven_le unit ?_
    have bound : (numerator : ℚ) / denominator * 2 ^ (-exponent) < 2 ^ 53 := by
      rw [mul_zpow_neg_lt_iff, ← zpow_natCast, ← zpow_add₀ two_ne_zero]
      have low := Int.lt_zpow_succ_log_self (b := 2) (by decide) ((numerator : ℚ) / denominator)
      rw [Nat.cast_ofNat] at low
      exact low.trans_le (zpow_le_zpow_right₀ one_le_two (by omega))
    rw [← scaleDown_eq, div_lt_iff₀ (Nat.cast_pos.mpr unit)] at bound
    exact_mod_cast bound.le
  unfold nearestBinary64 at read
  dsimp only at read
  rw [floorLog2_eq_log above below] at read
  have fine : Int.log 2 ((numerator : ℚ) / denominator) ≤
      max (Int.log 2 ((numerator : ℚ) / denominator) - 52) (-1074) + 52 := by omega
  have least : -1074 ≤ max (Int.log 2 ((numerator : ℚ) / denominator) - 52) (-1074) :=
    le_max_right _ _
  have bound := rounded _ fine
  generalize max (Int.log 2 ((numerator : ℚ) / denominator) - 52) (-1074) = exponent at *
  generalize roundHalfEven (scaleDown numerator denominator exponent).1
    (scaleDown numerator denominator exponent).2 = mantissa at *
  rw [Nat.pow_eq, Nat.pow_eq] at read
  by_cases full : mantissa = 2 ^ 53
  · rw [if_pos full] at read
    dsimp only at read
    split at read
    case isTrue => simp at read
    case isFalse fits =>
      obtain rfl := Option.some.inj read
      exact Binary64.exponentField_assemble (by decide) (by omega) (by omega)
  · rw [if_neg full] at read
    dsimp only at read
    split at read
    case isTrue => simp at read
    case isFalse fits =>
      obtain rfl := Option.some.inj read
      exact Binary64.exponentField_assemble (by omega) least (by omega)

/-- A value that is rounded to a positive number of the format is neither too small nor too large
for it. -/
theorem RoundsTo.inRange {mantissa : Nat} {exponent : Int} {value : ℚ} (positive : 0 < mantissa)
    (scaled : IsScaled mantissa exponent) (rounds : RoundsTo mantissa exponent value) :
    (2 : ℚ) ^ (-1075 : Int) ≤ value ∧ value < 2 ^ (1024 : Int) := by
  have least : (1 : ℚ) ≤ mantissa := by exact_mod_cast positive
  have greatest : (mantissa : ℚ) + 1 ≤ 2 ^ 53 := by exact_mod_cast scaled.small
  constructor
  · calc (2 : ℚ) ^ (-1075 : Int) = 1 / 2 * 2 ^ (-1074 : Int) := by
          rw [one_div, ← zpow_neg_one, ← zpow_add₀ two_ne_zero]
          rfl
      _ ≤ 1 / 2 * 2 ^ exponent :=
          mul_le_mul_of_nonneg_left (zpow_le_zpow_right₀ one_le_two scaled.least) (by norm_num)
      _ ≤ value := le_mul_zpow_neg_iff.mp (by linarith [rounds.low])
  · calc value < 2 ^ 53 * 2 ^ exponent := mul_zpow_neg_lt_iff.mp (by linarith [rounds.high])
      _ ≤ 2 ^ 53 * 2 ^ (971 : Int) :=
          mul_le_mul_of_nonneg_left (zpow_le_zpow_right₀ one_le_two scaled.greatest) (by norm_num)
      _ = 2 ^ (1024 : Int) := by
          rw [← zpow_natCast, ← zpow_add₀ two_ne_zero]
          rfl

/-! ## Reading decimals -/

namespace Binary64

theorem zero_finite (negative : Bool) : (zero negative).exponentField < 2047 := by
  cases negative <;> decide

theorem ofDecimal_finite {negative : Bool} {digits : Nat} {power : Int} {number : Binary64}
    (read : ofDecimal negative digits power = some number) : number.exponentField < 2047 := by
  unfold ofDecimal at read
  dsimp only at read
  split at read
  case isTrue =>
    obtain rfl := Option.some.inj read
    exact zero_finite negative
  case isFalse near =>
    have above : 0 < digits := Nat.pos_of_ne_zero fun zero => near (.inl zero)
    split at read
    · simp at read
    · split at read
      · exact nearestBinary64_finite (Nat.mul_pos above (Nat.pow_pos (by decide))) (by decide) read
      · exact nearestBinary64_finite above (Nat.pow_pos (by decide)) read

theorem ofDecimal_zero (negative : Bool) (power : Int) :
    ofDecimal negative 0 power = some (zero negative) := by
  simp [ofDecimal]

theorem decimal_lt_pow (digits : Nat) (power : Int) :
    (digits : ℚ) * 10 ^ power < 10 ^ ((Nat.toDigits 10 digits).length + power) := by
  have : digits < 10 ^ (Nat.toDigits 10 digits).length :=
    (Nat.length_toDigits_le_iff (by decide) Nat.length_toDigits_pos).mp le_rfl
  rw [zpow_add₀ (by norm_num), zpow_natCast]
  exact mul_lt_mul_of_pos_right (by exact_mod_cast this) (zpow_pos (by norm_num) _)

theorem pow_le_decimal {digits : Nat} (above : 0 < digits) (power : Int) :
    (10 : ℚ) ^ (((Nat.toDigits 10 digits).length - 1 : Nat) + power) ≤ digits * 10 ^ power := by
  have long : 10 ^ ((Nat.toDigits 10 digits).length - 1) ≤ digits := by
    rcases Nat.eq_zero_or_pos ((Nat.toDigits 10 digits).length - 1) with single | several
    · rw [single]
      exact above
    · by_contra less
      have := (Nat.length_toDigits_le_iff (by decide) several).mpr (Nat.lt_of_not_le less)
      omega
  rw [zpow_add₀ (by norm_num), zpow_natCast]
  exact mul_le_mul_of_nonneg_right (by exact_mod_cast long) (zpow_nonneg (by norm_num) _)

/-- A decimal in the interval around a number is read as that number; the cut-offs for powers far
outside the format are met by none. -/
theorem ofDecimal_eq {negative : Bool} {digits mantissa : Nat} {power exponent : Int}
    (above : 0 < digits) (positive : 0 < mantissa) (scaled : IsScaled mantissa exponent)
    (rounds : RoundsTo mantissa exponent (digits * 10 ^ power)) :
    ofDecimal negative digits power = some (assemble negative mantissa exponent) := by
  obtain ⟨tiny, huge⟩ := rounds.inRange positive scaled
  have short := decimal_lt_pow digits power
  have long := pow_le_decimal above power
  have notTiny : ¬((Nat.toDigits 10 digits).length : Int) + power < -330 := by
    intro less
    have low : (10 : ℚ) ^ ((Nat.toDigits 10 digits).length + power) ≤ 10 ^ (-331 : Int) :=
      zpow_le_zpow_right₀ (by norm_num) (by omega)
    have below : (10 : ℚ) ^ (-331 : Int) < 2 ^ (-1075 : Int) := by
      have : 2 ^ 1075 < 10 ^ 331 := by decide +kernel
      rw [zpow_neg, zpow_neg]
      refine inv_strictAnti₀ (zpow_pos two_pos _) ?_
      exact_mod_cast this
    exact (tiny.trans_lt (short.trans_le low)).not_gt below
  have notHuge : ¬((Nat.toDigits 10 digits).length : Int) + power > 310 := by
    intro more
    have high : (10 : ℚ) ^ (310 : Int) ≤
        10 ^ (((Nat.toDigits 10 digits).length - 1 : Nat) + power) :=
      zpow_le_zpow_right₀ (by norm_num) (by omega)
    have beyond : (2 : ℚ) ^ (1024 : Int) < 10 ^ (310 : Int) := by
      have : 2 ^ 1024 < 10 ^ 310 := by decide +kernel
      exact_mod_cast this
    exact ((high.trans long).trans_lt huge).not_gt beyond
  unfold ofDecimal
  dsimp only
  rw [if_neg (by omega), if_neg notHuge, Nat.pow_eq, Nat.pow_eq]
  split
  case isTrue up =>
    obtain ⟨height, rfl⟩ := Int.eq_ofNat_of_zero_le up
    refine nearestBinary64_eq (Nat.mul_pos above (Nat.pow_pos (by decide))) (by decide) scaled ?_
    rw [Int.toNat_natCast, Nat.cast_one, div_one, Nat.cast_mul, Nat.cast_pow]
    exact_mod_cast rounds
  case isFalse down =>
    obtain ⟨depth, rfl⟩ := Int.eq_negSucc_of_lt_zero (by omega : power < 0)
    refine nearestBinary64_eq above (Nat.pow_pos (by decide)) scaled ?_
    rw [Int.neg_negSucc, Int.toNat_natCast, Nat.cast_pow, Nat.cast_ofNat, div_eq_mul_inv,
      ← zpow_natCast, ← zpow_neg]
    exact rounds

end Binary64

end BrowserRelay.Decimal
