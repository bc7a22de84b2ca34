import CivilTime.Proofs.Pattern.Literal

/-!
# The precision of a timestamp

A timestamp that was read with a fraction has no more digits than its precision says, because the
rest of its moment is a number of whole seconds: the fields of its pattern go down to the second,
and an offset is a number of seconds. Its text therefore shows all of it, and is read back as the
same timestamp.

* `Pattern.fractionUnit_dvd_fractionMillis`: the milliseconds of some digits.
* `Pattern.readPrecise?_spec`: what is known of every timestamp that is read with a fraction.
* `Timestamp.fits_of_year_nonneg`: a day that has wrapped around has a negative year.
* `PreciseTimestamp.parsePrecise?_stable`: the text of a timestamp that was read loses nothing.
-/

namespace CivilTime

/-! ## Digits -/

namespace Pattern

/-- The digits of a fraction denote a multiple of the unit of the last one that is kept. -/
theorem fractionUnit_dvd_fractionMillis (digits : List Char) :
    fractionUnit (min digits.length 3) ∣ fractionMillis digits := by
  by_cases h : digits.length ≤ 3
  · rw [Nat.min_eq_left h, fractionMillis_of_length_le h]
    exact Nat.dvd_mul_left _ _
  · rw [Nat.min_eq_right (by omega), fractionUnit_of_three_le (Nat.le_refl 3)]
    exact Nat.one_dvd _

/-- A fraction is a second at most, which it is if it is rounded up. -/
theorem fractionMillis_le {digits : List Char} (h : ∀ c ∈ digits, c.isDigit = true) :
    fractionMillis digits ≤ 1000 := by
  have hfirst : Text.value ((digits ++ ['0', '0', '0']).take 3) < 10 ^ 3 := by
    have hall : ∀ c ∈ (digits ++ ['0', '0', '0']).take 3, c.isDigit = true := by
      intro c hc
      rcases List.mem_append.1 (List.mem_of_mem_take hc) with hc | hc
      · exact h c hc
      · exact List.all_eq_true.1 (by decide) c hc
    have hlt := Text.value_lt_pow hall
    rwa [List.length_take_of_le (by simp)] at hlt
  unfold fractionMillis
  split
  · split_ifs <;> omega
  · omega

end Pattern

/-! ## Moments that are read -/

/-- Legal fields down to the second have the moment of a whole second. -/
theorem WallClock.IsLegal.msPerSecond_dvd {wall : WallClock} (h : wall.IsLegal)
    (hwhole : wall.millisecond = 0) : (msPerSecond : Int) ∣ wall.toTimestamp.toInt := by
  rw [toTimestamp, Timestamp.toInt_ofDateAndTime, h.toInt_ofFields, hwhole]
  unfold clockMillis msPerDay msPerHour msPerMinute msPerSecond
  omega

namespace Pattern

/-- A timestamp that is read with its fraction is that of legal fields and of a fraction of as many
    digits as are kept. -/
theorem readPrecise?_spec {pattern : Pattern} {text : List Char} {zone : Offset}
    {precise : PreciseTimestamp} (h : pattern.readPrecise? text zone = some precise) :
    ∃ pieces millis, (pattern.fieldsOf pieces).IsLegal ∧ precise.digits ≤ 3 ∧ millis ≤ 1000 ∧
      fractionUnit precise.digits ∣ millis ∧
      precise.moment.toInt + zone.millis =
        (pattern.fieldsOf pieces).toTimestamp.toInt + (millis : Nat) := by
  obtain ⟨moment, ⟨hread, rfl⟩ | ⟨digits, hread, hdigits, rfl⟩⟩ := readPrecise?_cases h
  · obtain ⟨pieces, -, hlegal, rfl⟩ := readStart?_sound hread
    refine ⟨pieces, 0, hlegal, Nat.zero_le 3, Nat.zero_le 1000, Nat.dvd_zero _, ?_⟩
    rw [WallClock.toInt_addMillis_neg, Int.natCast_zero, Int.add_zero]
  · obtain ⟨pieces, -, hlegal, rfl⟩ := readStart?_sound hread
    have hle := fractionMillis_le hdigits
    refine ⟨pieces, fractionMillis digits, hlegal, Nat.min_le_right _ _, hle,
      fractionUnit_dvd_fractionMillis digits, ?_⟩
    rw [Timestamp.addMillis_addMillis, WallClock.toInt_addMillis_neg_add _ _ (by omega)]

/-- The moment of a timestamp that is read has no digits but those that are kept. -/
theorem fractionUnit_dvd_of_readPrecise? {pattern : Pattern} {text : List Char} {zone : Offset}
    {precise : PreciseTimestamp} (hpattern : ¬ Names pattern.items .millisecond)
    (h : pattern.readPrecise? text zone = some precise) :
    (fractionUnit precise.digits : Int) ∣ precise.moment.toInt := by
  obtain ⟨pieces, millis, hlegal, -, -, hmillis, hmoment⟩ := readPrecise?_spec h
  have hunit : (fractionUnit precise.digits : Int) ∣ msPerSecond :=
    Int.natCast_dvd_natCast.2 (fractionUnit_dvd precise.digits)
  have hfields : (fractionUnit precise.digits : Int) ∣
      (pattern.fieldsOf pieces).toTimestamp.toInt :=
    Int.dvd_trans hunit (hlegal.msPerSecond_dvd (get_fieldsOf .millisecond hpattern pieces))
  have hzone : (fractionUnit precise.digits : Int) ∣ zone.millis :=
    Int.dvd_trans hunit (Int.dvd_mul_left zone.seconds msPerSecond)
  have hsum : precise.moment.toInt =
      (pattern.fieldsOf pieces).toTimestamp.toInt + (millis : Nat) - zone.millis := by omega
  rw [hsum]
  exact Int.dvd_sub (Int.dvd_add hfields (Int.natCast_dvd_natCast.2 hmillis)) hzone

end Pattern

/-! ## Texts of moments -/

namespace Timestamp

variable {moment : Timestamp}

/-- A moment of some digits is not changed by cutting off the others. -/
theorem round_floor_of_dvd {digits : Nat} (h : (fractionUnit digits : Int) ∣ moment.toInt) :
    moment.round digits .floor = moment := by
  have hfits := moment.fits_toInt
  apply ext
  rw [toInt_round_floor, Int.ediv_mul_cancel h]
  exact Int.max_eq_right hfits.1

/-- A day just outside the range of 32 bits is stored as a day at its other end. The dates of both
    ends have wrapped around to negative years. -/
theorem fits_of_year_nonneg
    (h : -2147483649 ≤ moment.toInt / msPerDay ∧ moment.toInt / msPerDay ≤ 2147483648)
    (hyear : 0 ≤ moment.date.date.year) : Fits32 (moment.toInt / msPerDay) := by
  have hlower : moment.toInt / msPerDay ≠ -2147483649 := by
    intro hday
    rw [date, hday] at hyear
    exact absurd hyear (by decide)
  have hupper : moment.toInt / msPerDay ≠ 2147483648 := by
    intro hday
    rw [date, hday] at hyear
    exact absurd hyear (by decide)
  unfold Fits32
  omega

end Timestamp

namespace PreciseTimestamp

/-- A timestamp that a pattern without a field of milliseconds finds has three digits at most, its
    moment is a multiple of the unit of its last digit, and it is found again in its own text, if
    its year is not negative. -/
theorem parsePrecise?_stable {pattern : Pattern}
    (hpattern : ¬ Pattern.Names pattern.items .millisecond) {text : String} {zone : Offset}
    {precise : PreciseTimestamp} (h : pattern.parsePrecise? text zone = some precise) :
    precise.digits ≤ 3 ∧ (10 : Int) ^ (3 - precise.digits) ∣ precise.moment.toInt ∧
      (0 ≤ precise.moment.date.date.year →
        parseAs? Pattern.timestampText precise.format Offset.utc = some precise) := by
  obtain ⟨pieces, millis, hlegal, hdigits, hmillis, -, hmoment⟩ := Pattern.readPrecise?_spec h
  have hdvd := Pattern.fractionUnit_dvd_of_readPrecise? hpattern h
  have hpow : (fractionUnit precise.digits : Int) = 10 ^ (3 - precise.digits) :=
    Int.natCast_pow 10 (3 - precise.digits)
  refine ⟨hdigits, by rwa [← hpow], fun hyear => ?_⟩
  have hday : Fits32 (precise.moment.toInt / msPerDay) := by
    have htime := hlegal.clockMillis_bounds
    have hdate := (EpochDay.ofFields (pattern.fieldsOf pieces).year (pattern.fieldsOf pieces).month
      (pattern.fieldsOf pieces).day).fits_toInt
    have hlower := zone.lower
    have hupper := zone.upper
    rw [WallClock.toTimestamp, Timestamp.toInt_ofDateAndTime, hlegal.toInt_ofFields] at hmoment
    apply Timestamp.fits_of_year_nonneg _ hyear
    unfold Fits32 Offset.millis msPerDay msPerHour msPerMinute msPerSecond at *
    omega
  have hshown : precise.moment = precise.moment.addMillis Offset.utc.millis :=
    precise.moment.addMillis_zero.symm
  have hread := parseAs?_format_shown hshown hday hyear precise.digits
  rwa [Timestamp.round_floor_of_dvd hdvd, Nat.min_eq_left hdigits] at hread

/-- A fraction that is rounded up to the next year, five and a half hours to the east. -/
theorem parsePrecise?_stable_carry :
    let pattern : Pattern := ⟨[.field .year 4, .field .month 2, .field .day 2, .literal 'T',
      .field .hour 2, .field .minute 2, .field .second 2]⟩
    let precise : PreciseTimestamp := ⟨Timestamp.ofInt 1704047400000, 3⟩
    ¬ Pattern.Names pattern.items .millisecond ∧
      pattern.parsePrecise? "20231231T235959.99951" ⟨19800, by decide, by decide⟩ = some precise ∧
      (10 : Int) ^ (3 - precise.digits) ∣ precise.moment.toInt ∧
      parseAs? Pattern.timestampText "2023-12-31 18:30:00.000" Offset.utc = some precise := by
  have hpattern : ¬ Pattern.Names [.field .year 4, .field .month 2, .field .day 2, .literal 'T',
      .field .hour 2, .field .minute 2, .field .second 2] .millisecond := by decide
  have hparse : Pattern.parsePrecise? ⟨[.field .year 4, .field .month 2, .field .day 2,
      .literal 'T', .field .hour 2, .field .minute 2, .field .second 2]⟩ "20231231T235959.99951"
      ⟨19800, by decide, by decide⟩ = some ⟨Timestamp.ofInt 1704047400000, 3⟩ := by
    decide +kernel
  have htext : PreciseTimestamp.format ⟨Timestamp.ofInt 1704047400000, 3⟩ =
      "2023-12-31 18:30:00.000" := by decide +kernel
  obtain ⟨-, hunit, hagain⟩ := parsePrecise?_stable hpattern hparse
  rw [htext] at hagain
  exact ⟨hpattern, hparse, hunit, hagain (by decide)⟩

end PreciseTimestamp

end CivilTime
