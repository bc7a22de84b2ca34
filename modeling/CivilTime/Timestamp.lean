import CivilTime.Calendar.Day
import CivilTime.Clock
import CivilTime.Rounding

/-!
# Timestamps

A moment, in milliseconds since 1970-01-01 00:00:00 UTC and in 64 bits. Its day is the number of
whole days before it, in 32 bits; its time of day is the rest and never negative. A moment may be
rounded to fewer fraction digits, and is written as the text of its day, a space and the text of its
time of day.

* `Timestamp.toInt_ofInt`: a count that fits is kept.
* `Timestamp.toInt_ofDateAndTime`: a day and a time of day always make a moment.
* `Timestamp.timeOfDay_bounds`: the time of day of a moment lies in its day.
* `Timestamp.round_of_three_le`: three fraction digits are all there are.
-/

namespace CivilTime

/-- A moment, in milliseconds since 1970-01-01 00:00:00. -/
structure Timestamp where
  millis : Int64
  deriving DecidableEq, Repr

namespace Timestamp

/-- The number of milliseconds since 1970-01-01 00:00:00. -/
def toInt (moment : Timestamp) : Int := moment.millis.toInt

/-- The moment with a number, taken modulo 2^64. -/
def ofInt (n : Int) : Timestamp := ⟨Int64.ofInt n⟩

/-- The moment with a number, or the first or last one if there is none. -/
def saturating (n : Int) : Timestamp :=
  ofInt (max (-9223372036854775808) (min n 9223372036854775807))

/-- The start of 1970. -/
def epoch : Timestamp := ofInt 0

/-- The moment at a time of a day, which may lie outside that day. -/
def ofDateAndTime (day : EpochDay) (time : ClockTime) : Timestamp :=
  ofInt (day.toInt * msPerDay + time.toInt)

/-- The moment with these calendar and clock fields, which may be out of range. -/
def ofFields (year month day hour minute second : Int) : Timestamp :=
  ofInt ((EpochDay.ofFields year month day).toInt * msPerDay + clockMillis hour minute second 0)

/-- The day of a moment. Its number is taken modulo 2^32. -/
def date (moment : Timestamp) : EpochDay := EpochDay.ofInt (moment.toInt / msPerDay)

/-- The time of day of a moment. -/
def timeOfDay (moment : Timestamp) : ClockTime := ClockTime.ofInt (moment.toInt % msPerDay)

/-- The moment a number of milliseconds later, taken modulo 2^64. -/
def addMillis (moment : Timestamp) (n : Int) : Timestamp := ofInt (moment.toInt + n)

theorem fits_toInt (moment : Timestamp) : Fits64 moment.toInt := fits64_toInt moment.millis

theorem toInt_ofInt {n : Int} (h : Fits64 n) : (ofInt n).toInt = n := toInt_ofInt_of_fits64 h

theorem ext {a b : Timestamp} (h : a.toInt = b.toInt) : a = b := by
  cases a
  cases b
  simpa [toInt, Int64.toInt_inj] using h

theorem toInt_ofDateAndTime (day : EpochDay) (time : ClockTime) :
    (ofDateAndTime day time).toInt = day.toInt * msPerDay + time.toInt := by
  have hday := day.fits_toInt
  have htime := time.fits_toInt
  apply toInt_ofInt
  simp only [Fits32, Fits64, msPerDay, msPerHour, msPerMinute, msPerSecond] at *
  omega

theorem toInt_timeOfDay (moment : Timestamp) :
    moment.timeOfDay.toInt = moment.toInt % msPerDay := by
  apply ClockTime.toInt_ofInt
  simp only [Fits32, msPerDay, msPerHour, msPerMinute, msPerSecond]
  omega

theorem timeOfDay_bounds (moment : Timestamp) :
    0 ≤ moment.timeOfDay.toInt ∧ moment.timeOfDay.toInt < msPerDay := by
  rw [toInt_timeOfDay]
  simp only [msPerDay, msPerHour, msPerMinute, msPerSecond]
  omega

/-! ## Rounding -/

/-- A moment rounded to a number of fraction digits of its second. A result that does not fit in 64
    bits is the first or the last moment. -/
def round (moment : Timestamp) (digits : Nat) (mode : Rounding.Mode) : Timestamp :=
  saturating (Rounding.roundToMultiple mode moment.toInt (fractionUnit digits))

/-- Three digits and more keep the millisecond. -/
theorem round_of_three_le (moment : Timestamp) {digits : Nat} (h : 3 ≤ digits)
    (mode : Rounding.Mode) : moment.round digits mode = moment := by
  have hfits := moment.fits_toInt
  apply ext
  rw [round, fractionUnit_of_three_le h, Rounding.roundToMultiple,
    Rounding.roundMagnitude_of_dvd (Nat.one_dvd _), Int.sign_mul_natAbs, saturating]
  unfold Fits64 at hfits
  rw [toInt_ofInt (by unfold Fits64; omega)]
  omega

/-! ## Writing -/

/-- The text of a moment with `digits` fraction digits. -/
def render (moment : Timestamp) (digits : Nat) : List Char :=
  moment.date.render ++ ' ' :: renderClock moment.timeOfDay.toInt digits

/-- The length that is announced for the text of a moment. -/
def announcedLength (moment : Timestamp) (digits : Nat) : Nat :=
  moment.date.date.announcedLength + announcedClockLength digits + 1

/-- The text of a moment with `digits` fraction digits. -/
def format (moment : Timestamp) (digits : Nat) : String := String.ofList (moment.render digits)

end Timestamp

/-- The moment at which a day begins. -/
def EpochDay.midnight (day : EpochDay) : Timestamp := Timestamp.ofDateAndTime day .midnight

end CivilTime
