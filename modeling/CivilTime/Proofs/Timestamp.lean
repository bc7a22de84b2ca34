import CivilTime.Proofs.Calendar.Order
import CivilTime.Proofs.Rounding
import CivilTime.Proofs.Rounding.Order
import CivilTime.Proofs.WallClock

/-!
# The order of moments

Moments come in the order of their counts. Between two midnights the day of a moment tells their
order, together with whether the moment is past the start of its day.

Rounding keeps the order. A moment that is rounded past the last one becomes the last one, which
need not be a multiple of the increment. Since that keeps it between the moment and its rounding, no
law of rounding is lost.

* `Timestamp.midnight_le_iff`, `Timestamp.le_midnight_iff`: the order of a midnight and a moment is
  that of their days.
* `Timestamp.round_mono`: a later moment is rounded to a later or the same moment.
* `Timestamp.round_round`: a rounded moment may be rounded again as the unrounded number.
* `Timestamp.round_laws`: rounding keeps the order, is done after one time, and in one direction
  makes further rounding of no difference.
-/

namespace CivilTime

/-- Moments come in the order of their counts. -/
instance : LinearOrder Timestamp := LinearOrder.lift' Timestamp.toInt fun _ _ => Timestamp.ext

/-! ## Midnights -/

theorem EpochDay.toInt_midnight (day : EpochDay) : day.midnight.toInt = day.toInt * msPerDay := by
  have hmidnight : ClockTime.midnight.toInt = 0 := ClockTime.toInt_ofInt (by decide)
  rw [midnight, Timestamp.toInt_ofDateAndTime, hmidnight, Int.add_zero]

namespace Timestamp

theorem le_iff {a b : Timestamp} : a ≤ b ↔ a.toInt ≤ b.toInt := Iff.rfl

theorem timeOfDay_eq_midnight_iff {moment : Timestamp} :
    moment.timeOfDay = .midnight ↔ moment.toInt % msPerDay = 0 := by
  have hmidnight : ClockTime.midnight.toInt = 0 := ClockTime.toInt_ofInt (by decide)
  rw [← moment.toInt_timeOfDay, ← hmidnight]
  exact ⟨congrArg ClockTime.toInt, ClockTime.ext⟩

variable {moment : Timestamp} {day : EpochDay}

theorem midnight_le_iff (h : Fits32 (moment.toInt / msPerDay)) :
    day.midnight ≤ moment ↔ day ≤ moment.date := by
  rw [le_iff, EpochDay.le_iff, day.toInt_midnight, toInt_date h]
  exact (Int.le_ediv_iff_mul_le (by decide)).symm

theorem le_midnight_iff (h : Fits32 (moment.toInt / msPerDay)) :
    moment ≤ day.midnight ↔
      if moment.timeOfDay != .midnight then moment.date < day else moment.date ≤ day := by
  rw [le_iff, day.toInt_midnight]
  simp only [bne_iff_ne, ne_eq, timeOfDay_eq_midnight_iff, EpochDay.lt_iff, EpochDay.le_iff,
    toInt_date h]
  unfold msPerDay msPerHour msPerMinute msPerSecond
  split_ifs <;> omega

theorem midnight_le_midnight {a b : EpochDay} : a.midnight ≤ b.midnight ↔ a ≤ b := by
  rw [le_iff, EpochDay.le_iff, a.toInt_midnight, b.toInt_midnight]
  exact mul_le_mul_iff_left₀ (by decide)

end Timestamp

/-! ## Rounding -/

theorem fractionUnit_dvd_fractionUnit {digits finer : Nat} (h : digits ≤ finer) :
    fractionUnit finer ∣ fractionUnit digits := Nat.pow_dvd_pow 10 (by omega)

namespace Timestamp

variable {digits finer : Nat} {mode : Rounding.Mode}

theorem toInt_saturating (n : Int) :
    (saturating n).toInt = max (-9223372036854775808) (min n 9223372036854775807) := by
  apply toInt_ofInt
  unfold Fits64
  omega

theorem round_mono (digits : Nat) (mode : Rounding.Mode) {a b : Timestamp} (h : a ≤ b) :
    a.round digits mode ≤ b.round digits mode := by
  have hround := Rounding.roundToMultiple_mono mode (fractionUnit_pos digits) (le_iff.1 h)
  rw [le_iff, round, round, toInt_saturating, toInt_saturating]
  exact max_le_max_left _ (min_le_min_right _ hround)

/-- If a number and its rounding to finer digits are rounded alike, so is the moment that the latter
    is stored as. -/
theorem round_round {moment : Timestamp}
    (h : Rounding.roundToMultiple mode
        (Rounding.roundToMultiple mode moment.toInt (fractionUnit finer)) (fractionUnit digits) =
      Rounding.roundToMultiple mode moment.toInt (fractionUnit digits)) :
    (moment.round finer mode).round digits mode = moment.round digits mode := by
  have hpos := fractionUnit_pos digits
  have hfits := moment.fits_toInt
  have hstored := toInt_saturating
    (Rounding.roundToMultiple mode moment.toInt (fractionUnit finer))
  unfold Fits64 at hfits
  suffices hsame : Rounding.roundToMultiple mode (moment.round finer mode).toInt
      (fractionUnit digits) = Rounding.roundToMultiple mode moment.toInt (fractionUnit digits) by
    rw [round, hsame, ← round]
  rw [round]
  generalize Rounding.roundToMultiple mode moment.toInt (fractionUnit finer) = rounded at *
  -- what is stored lies between the moment and its rounding, which are rounded alike
  rcases le_total moment.toInt rounded with hup | hdown
  · apply le_antisymm
    · rw [← h]
      exact Rounding.roundToMultiple_mono mode hpos (by omega)
    · exact Rounding.roundToMultiple_mono mode hpos (by omega)
  · apply le_antisymm
    · exact Rounding.roundToMultiple_mono mode hpos (by omega)
    · rw [← h]
      exact Rounding.roundToMultiple_mono mode hpos (by omega)

/-- Rounding moments to a number of digits keeps their order, and changes nothing when it is done
    again. In one direction, nothing changes either if more digits are kept at first. -/
theorem round_laws (digits : Nat) (mode : Rounding.Mode) :
    (∀ a b : Timestamp, a ≤ b → a.round digits mode ≤ b.round digits mode) ∧
      (∀ moment : Timestamp,
        (moment.round digits mode).round digits mode = moment.round digits mode) ∧
      (mode.IsDirected → ∀ finer, digits ≤ finer → ∀ moment : Timestamp,
        (moment.round finer mode).round digits mode = moment.round digits mode) := by
  refine ⟨fun a b h => round_mono digits mode h, fun moment => ?_, fun hmode finer h moment => ?_⟩
  · exact round_round (Rounding.roundToMultiple_roundToMultiple mode _ _)
  · exact round_round (Rounding.roundToMultiple_comp hmode (fractionUnit_pos finer)
      (fractionUnit_pos digits) (fractionUnit_dvd_fractionUnit h) _)

/-- Two moments in the middle of a second, and one that is rounded past the first moment. -/
theorem round_laws_first :
    (ofInt 2500 ≤ ofInt 3500 ∧ (ofInt 2500).round 0 .halfEven = ofInt 2000 ∧
      (ofInt 3500).round 0 .halfEven = ofInt 4000 ∧
      (ofInt 2500).round 0 .halfEven ≤ (ofInt 3500).round 0 .halfEven) ∧
    Rounding.Mode.expand.IsDirected ∧ 0 ≤ 2 ∧
      (ofInt (-9223372036854775801)).round 2 .expand = ofInt (-9223372036854775808) ∧
      ((ofInt (-9223372036854775801)).round 2 .expand).round 0 .expand =
        (ofInt (-9223372036854775801)).round 0 .expand := by
  have horder : ofInt 2500 ≤ ofInt 3500 := by decide
  have hmode : Rounding.Mode.expand.IsDirected := by decide
  exact ⟨⟨horder, by decide, by decide, (round_laws 0 .halfEven).1 _ _ horder⟩, hmode, by decide,
    by decide, (round_laws 0 .expand).2.2 hmode 2 (by decide) _⟩

end Timestamp

end CivilTime
