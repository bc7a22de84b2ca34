import CivilTime.Proofs.Rounding.Modes
import CivilTime.Timestamp

/-!
# Rounding

* `roundMagnitude_halfUp`: the nearest multiple, and the greater one in the middle.
* `roundToMultiple_floor`: the greatest multiple that is not above a number.
* `Timestamp.toInt_round_floor`: a moment with its last digits cut off.
-/

namespace CivilTime

namespace Rounding

/-- A multiple of an increment that is nearest to a magnitude, and the greater one of two that are
    equally near. -/
structure IsNearestUp (increment n multiple : Nat) : Prop where
  dvd : increment ∣ multiple
  le : 2 * multiple ≤ 2 * n + increment
  lt : 2 * n < 2 * multiple + increment

theorem roundMagnitude_halfUp (n : Nat) {increment : Nat} (h : 0 < increment) :
    IsNearestUp increment n (roundMagnitude .halfUp n increment) := by
  have hdiv := Nat.div_add_mod' n increment
  have hrest := Nat.mod_lt n h
  have hnext : (n / increment + 1) * increment = n / increment * increment + increment :=
    Nat.succ_mul _ _
  simp only [roundMagnitude, MagnitudeRule.goesUp, decide_eq_true_eq]
  split_ifs with hzero hup
  · exact ⟨Nat.dvd_of_mod_eq_zero hzero, by omega, by omega⟩
  · exact ⟨Nat.dvd_mul_left _ _, by omega, by omega⟩
  · exact ⟨Nat.dvd_mul_left _ _, by omega, by omega⟩

/-- The multiple below a number is that of the quotient of integers, for negative numbers too. -/
theorem roundToMultiple_floor (x : Int) (increment : Nat) :
    roundToMultiple .floor x increment = x / increment * increment := by
  rcases Nat.eq_zero_or_pos increment with rfl | hpos
  · simpa using dvd_roundToMultiple .floor x 0
  · by_cases hdvd : (increment : Int) ∣ x
    · rw [roundToMultiple_of_dvd .floor hdvd, Int.ediv_mul_cancel hdvd]
    · exact roundToMultiple_of_isBetween .floor (isBetween_ediv hpos hdvd)

end Rounding

/-! ## Digits of a second -/

theorem fractionUnit_pos (digits : Nat) : 0 < fractionUnit digits := Nat.pow_pos (by decide)

theorem fractionUnit_dvd (digits : Nat) : fractionUnit digits ∣ msPerSecond := by
  have hpow : msPerSecond = 10 ^ 3 := rfl
  rw [fractionUnit, hpow]
  exact Nat.pow_dvd_pow 10 (Nat.sub_le 3 digits)

/-- The number of units in a number, counted in multiples of the unit and in what is left. -/
theorem ediv_eq_mul_add (x : Int) {unit : Nat} (hunit : 0 < unit) (k : Nat) :
    x / unit = x / (unit * k : Nat) * k + x % (unit * k : Nat) / unit := by
  calc x / unit
      = (x % (unit * k : Nat) + unit * (k * (x / (unit * k : Nat)))) / unit := by
        rw [← Int.mul_assoc, ← Int.natCast_mul, Int.emod_add_mul_ediv]
    _ = x % (unit * k : Nat) / unit + k * (x / (unit * k : Nat)) :=
        Int.add_mul_ediv_left _ _ (by omega)
    _ = x / (unit * k : Nat) * k + x % (unit * k : Nat) / unit := by
        rw [Int.add_comm, Int.mul_comm (k : Int)]

/-- A multiple that divides another one cuts off digits of the rest alone. -/
theorem ediv_mul_of_dvd (x : Int) {unit increment : Nat} (h : unit ∣ increment) :
    x / unit * unit = x - x % increment + x % increment / unit * unit := by
  obtain ⟨k, rfl⟩ := h
  rcases Nat.eq_zero_or_pos unit with rfl | hunit
  · simp
  · have hdiv := Int.ediv_mul_add_emod x (unit * k : Nat)
    have hmul : x / (unit * k : Nat) * (unit * k : Nat) = x / (unit * k : Nat) * k * unit := by
      rw [Int.natCast_mul, Int.mul_comm unit, Int.mul_assoc]
    rw [ediv_eq_mul_add x hunit k, Int.add_mul, ← hmul]
    omega

/-- Less than a second is cut off with the last digits. -/
theorem cutOff_bounds (x : Int) (digits : Nat) :
    x - msPerSecond < x / fractionUnit digits * fractionUnit digits ∧
      x / fractionUnit digits * fractionUnit digits ≤ x := by
  have hpos := fractionUnit_pos digits
  have hunit : fractionUnit digits ≤ msPerSecond :=
    Nat.le_of_dvd (by decide) (fractionUnit_dvd digits)
  have hle := Int.ediv_mul_le x (b := fractionUnit digits) (by omega)
  have hlt := Int.lt_ediv_add_one_mul_self x (b := fractionUnit digits) (by omega)
  rw [Int.add_mul, Int.one_mul] at hlt
  omega

/-- Rounding down cuts off digits, unless no moment is that early. -/
theorem Timestamp.toInt_round_floor (moment : Timestamp) (digits : Nat) :
    (moment.round digits .floor).toInt =
      max (-9223372036854775808) (moment.toInt / fractionUnit digits * fractionUnit digits) := by
  have hfits := moment.fits_toInt
  have hbounds := cutOff_bounds moment.toInt digits
  unfold Fits64 msPerSecond at *
  rw [round, Rounding.roundToMultiple_floor, saturating, toInt_ofInt (by unfold Fits64; omega)]
  omega

end CivilTime
