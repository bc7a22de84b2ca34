import CivilTime.Calendar.Truncation
import CivilTime.Proofs.Checked.DayNumber
import CivilTime.Proofs.Timestamp

/-!
# Moments in words

Moments are sums of days and clock fields. Their milliseconds are computed in words of 64 bits, in
which there is room for any days and fields of 32 bits.

* `Checked.clockMillis_ofInt`, `Checked.momentMillis_ofInt`: sums of clock fields.
* `Checked.arithmetic_exact`: no arithmetic on days and moments leaves its range, and no field of a
  date is changed when it is stored.
-/

namespace CivilTime

variable {day hour minute second millisecond : Int}

namespace Checked

/-- The milliseconds from midnight to a time of the clock, in words. -/
def clockMillis (hour minute second millisecond : Checked) : Checked :=
  hour * ofInt msPerHour + minute * ofInt msPerMinute + second * ofInt msPerSecond + millisecond

/-- The milliseconds from 1970 to a time of the clock on a day, in words. -/
def momentMillis (day hour minute second : Checked) : Checked :=
  day * ofInt msPerDay + hour * ofInt msPerHour + minute * ofInt msPerMinute +
    second * ofInt msPerSecond

/-- The milliseconds from 1970 to some milliseconds after midnight of a day, in words. -/
def dayAndTimeMillis (day time : Checked) : Checked := day * ofInt msPerDay + time

/-- The milliseconds from 1970 to midnight of a day, in words. -/
def midnightMillis (day : Checked) : Checked := day * ofInt msPerDay

section
variable (hhour : Fits32 hour) (hminute : Fits32 minute) (hsecond : Fits32 second)
include hhour hminute hsecond

theorem clockMillis_ofInt (hmillisecond : Fits32 millisecond) :
    clockMillis (ofInt hour) (ofInt minute) (ofInt second) (ofInt millisecond) =
      some (CivilTime.clockMillis hour minute second millisecond) := by
  unfold Fits32 at *
  unfold clockMillis CivilTime.clockMillis msPerHour msPerMinute msPerSecond
  simp (disch := unfold Fits64; omega) only [mul_ofInt, add_ofInt]
  apply ofInt_eq_some
  unfold Fits64
  omega

theorem momentMillis_ofInt (hday : Fits32 day) :
    momentMillis (ofInt day) (ofInt hour) (ofInt minute) (ofInt second) =
      some (day * msPerDay + CivilTime.clockMillis hour minute second 0) := by
  unfold Fits32 at *
  unfold momentMillis CivilTime.clockMillis msPerDay msPerHour msPerMinute msPerSecond
  simp (disch := unfold Fits64; omega) only [mul_ofInt, add_ofInt]
  rw [Int.add_zero, ← Int.add_assoc, ← Int.add_assoc]
  apply ofInt_eq_some
  unfold Fits64
  omega

end

theorem dayAndTimeMillis_ofInt {time : Int} (hday : Fits32 day) (htime : Fits32 time) :
    dayAndTimeMillis (ofInt day) (ofInt time) = some (day * msPerDay + time) := by
  unfold Fits32 at *
  unfold dayAndTimeMillis msPerDay msPerHour msPerMinute msPerSecond
  simp (disch := unfold Fits64; omega) only [mul_ofInt, add_ofInt]
  apply ofInt_eq_some
  unfold Fits64
  omega

theorem midnightMillis_ofInt (hday : Fits32 day) :
    midnightMillis (ofInt day) = some (day * msPerDay) := by
  unfold Fits32 at *
  unfold midnightMillis msPerDay msPerHour msPerMinute msPerSecond
  simp (disch := unfold Fits64; omega) only [mul_ofInt]
  apply ofInt_eq_some
  unfold Fits64
  omega

end Checked

theorem Timestamp.toInt_ofFields (year month day : Int) (hhour : Fits32 hour)
    (hminute : Fits32 minute) (hsecond : Fits32 second) :
    (ofFields year month day hour minute second).toInt =
      (EpochDay.ofFields year month day).toInt * msPerDay + clockMillis hour minute second 0 := by
  have hday := (EpochDay.ofFields year month day).fits_toInt
  apply toInt_ofInt
  unfold Fits32 at *
  unfold clockMillis msPerDay msPerHour msPerMinute msPerSecond Fits64
  omega

/-- The year and the month of a day have successors of 32 bits. -/
theorem EpochDay.fits32_fields_add_step (day : EpochDay) (direction : Direction) (past : Bool) :
    Fits32 (day.date.year + direction.step past) ∧
      Fits32 (day.date.month + direction.step past) := by
  have hstep : direction.step past = 0 ∨ direction.step past = 1 := by
    cases direction <;> cases past <;> decide
  have hyear := day.year_bounds
  have hmonth : day.date.month ≤ 12 := (civilDate_bounds day.toJulianDay.toInt).2.1
  unfold Fits32
  omega

namespace Checked

/-- From fields and counts of 32 bits, no arithmetic on days and moments leaves the range of its
    words, and both calendars give dates that are stored as they are. The next year and month of a
    day fit in 32 bits, also if it is the day of a moment. -/
theorem arithmetic_exact :
    (∀ year month day : Int32,
      dayNumber (ofInt32 year) (ofInt32 month) (ofInt32 day) =
          some (CivilTime.dayNumber year.toInt month.toInt day.toInt) ∧
        (JulianDay.ofFields year.toInt month.toInt day.toInt).toInt =
          (CivilTime.dayNumber year.toInt month.toInt day.toInt).bmod (2 ^ 32)) ∧
    (∀ hour minute second millisecond : Int32,
      clockMillis (ofInt32 hour) (ofInt32 minute) (ofInt32 second) (ofInt32 millisecond) =
        some (CivilTime.clockMillis hour.toInt minute.toInt second.toInt millisecond.toInt)) ∧
    (∀ year month day hour minute second : Int32,
      momentMillis (ofInt32 (EpochDay.ofFields year.toInt month.toInt day.toInt).count)
          (ofInt32 hour) (ofInt32 minute) (ofInt32 second) =
        some (Timestamp.ofFields year.toInt month.toInt day.toInt hour.toInt minute.toInt
          second.toInt).toInt) ∧
    (∀ (day : EpochDay) (time : ClockTime),
      dayAndTimeMillis (ofInt32 day.count) (ofInt32 time.millis) =
        some (Timestamp.ofDateAndTime day time).toInt) ∧
    (∀ day : EpochDay, midnightMillis (ofInt32 day.count) = some day.midnight.toInt) ∧
    (∀ day : JulianDay,
      (gregorianDate (ofInt32 day.count) = some (CivilTime.gregorianDate day.toInt) ∧
        (CivilTime.gregorianDate day.toInt).FitsWords) ∧
      julianDate (ofInt32 day.count) = some (CivilTime.julianDate day.toInt) ∧
        (CivilTime.julianDate day.toInt).FitsWords) ∧
    ∀ (day : EpochDay) (direction : Direction) (past : Bool),
      Fits32 (day.date.year + direction.step past) ∧
        Fits32 (day.date.month + direction.step past) := by
  refine ⟨fun year month day => ⟨?_, Int32.toInt_ofInt⟩, ?_, ?_, ?_, ?_, ?_, ?_⟩
  · exact dayNumber_ofInt (fits32_toInt year) (fits32_toInt month) (fits32_toInt day)
  · intro hour minute second millisecond
    exact clockMillis_ofInt (fits32_toInt hour) (fits32_toInt minute) (fits32_toInt second)
      (fits32_toInt millisecond)
  · intro year month day hour minute second
    rw [Timestamp.toInt_ofFields _ _ _ (fits32_toInt hour) (fits32_toInt minute)
      (fits32_toInt second)]
    exact momentMillis_ofInt (fits32_toInt hour) (fits32_toInt minute) (fits32_toInt second)
      (EpochDay.fits_toInt _)
  · intro day time
    rw [Timestamp.toInt_ofDateAndTime]
    exact dayAndTimeMillis_ofInt day.fits_toInt time.fits_toInt
  · intro day
    rw [day.toInt_midnight]
    exact midnightMillis_ofInt day.fits_toInt
  · intro day
    have hday := day.fits_toInt
    exact ⟨⟨gregorianDate_ofInt hday, gregorianDate_fitsWords hday⟩, julianDate_ofInt hday,
      julianDate_fitsWords hday⟩
  · intro day direction past
    exact day.fits32_fields_add_step direction past

end Checked

end CivilTime
