import BrowserRelay.Decimal.Scaling
import BrowserRelay.Proofs.Rounding

/-!
# Decimals in binary arithmetic

What binary arithmetic finds for a decimal is finite.
-/

namespace BrowserRelay.Decimal

theorem scaleDown_above {numerator : Nat} (denominator : Nat) (power : Int)
    (above : 0 < numerator) : 0 < (scaleDown numerator denominator power).1 := by
  unfold scaleDown
  split
  · exact above
  · exact Nat.mul_pos above (Nat.pow_pos (by decide))

namespace Binary64

variable {number factor result : Binary64}

theorem times_finite (finite : number.exponentField < 2047) (positive : 0 < factor.mantissa)
    (done : number.times factor = some result) : result.exponentField < 2047 := by
  unfold times at done
  split at done
  case isTrue => exact Option.some.inj done ▸ finite
  case isFalse some =>
    refine nearestBinary64_finite (scaleDown_above _ _ ?_) (scaleDown_positive _ _ ?_) done
    · exact Nat.mul_pos (Nat.pos_of_ne_zero some) positive
    · decide

theorem dividedBy_finite (finite : number.exponentField < 2047) (positive : 0 < factor.mantissa)
    (done : number.dividedBy factor = some result) : result.exponentField < 2047 := by
  unfold dividedBy at done
  split at done
  case isTrue => exact Option.some.inj done ▸ finite
  case isFalse some =>
    exact nearestBinary64_finite (scaleDown_above _ _ (Nat.pos_of_ne_zero some))
      (scaleDown_positive _ _ positive) done

/-- The powers of ten of the format are not rounded to zero. -/
theorem mantissa_pos_of_ten {power : Nat} (near : power ≤ greatestTen)
    (found : ofDecimal false 1 power = some factor) : 0 < factor.mantissa := by
  have all : ∀ power ≤ greatestTen,
      (ofDecimal false 1 power).all fun factor => 0 < factor.mantissa := by
    decide +kernel
  simpa [found] using all power near

theorem overGreatestTen_finite {steps : Nat} (finite : number.exponentField < 2047)
    (done : number.overGreatestTen steps = some result) : result.exponentField < 2047 := by
  induction steps generalizing number with
  | zero => exact Option.some.inj done ▸ finite
  | succ steps ih =>
      unfold overGreatestTen at done
      split at done
      · exact Option.some.inj done ▸ finite
      · obtain ⟨divisor, ten, divided⟩ := Option.bind_eq_some_iff.mp done
        obtain ⟨quotient, found, rest⟩ := Option.bind_eq_some_iff.mp divided
        exact ih (dividedBy_finite finite (mantissa_pos_of_ten le_rfl ten) found) rest

/-- What is left of a power after the steps is a power of the format again. -/
theorem leftPower_eq {power : Int} (below : power < 0) :
    -power - greatestTen * ((-power - 1).toNat / greatestTen : Nat) =
      ((-power - 1).toNat % greatestTen + 1 : Nat) := by
  have parts := Nat.div_add_mod (-power - 1).toNat greatestTen
  have whole : ((-power - 1).toNat : Int) = -power - 1 := Int.toNat_of_nonneg (by omega)
  have sum : (greatestTen * ((-power - 1).toNat / greatestTen) : Nat) +
      ((-power - 1).toNat % greatestTen : Nat) = (-power - 1) := by
    omega
  push_cast at sum ⊢
  omega

theorem ofParts_finite {negative : Bool} {significand : Nat} {power : Int}
    (read : ofParts negative significand power = some result) : result.exponentField < 2047 := by
  obtain ⟨number, rounded, scaled⟩ := Option.bind_eq_some_iff.mp read
  have finite := ofDecimal_finite rounded
  split at scaled
  · exact Option.some.inj scaled ▸ finite
  · split at scaled
    · simp at scaled
    · split at scaled
      case isTrue near up =>
        obtain ⟨factor, ten, product⟩ := Option.bind_eq_some_iff.mp scaled
        obtain ⟨height, rfl⟩ := Int.eq_ofNat_of_zero_le up
        exact times_finite finite (mantissa_pos_of_ten (by omega) ten) product
      case isFalse near down =>
        obtain ⟨left, divided, last⟩ := Option.bind_eq_some_iff.mp scaled
        obtain ⟨divisor, ten, quotient⟩ := Option.bind_eq_some_iff.mp last
        have few := Nat.mod_lt (-power - 1).toNat (by decide : 0 < greatestTen)
        rw [leftPower_eq (by omega)] at ten
        exact dividedBy_finite (overGreatestTen_finite finite divided)
          (mantissa_pos_of_ten few ten) quotient

end Binary64

end BrowserRelay.Decimal
