import CivilTime.Calendar.Date

/-!
# Day numbers

The Julian day number of a date, and the date of a Julian day number. Both count the years from
March, so that a leap day is the last day of its year; the months before a month then take
`(153 * m + 2) / 5` days, whatever the year.

* `dayNumber`: the number of a date. Fields outside their range carry over.
* `civilDate`: the date with a number.
* `civilDate_bounds`: a date has a month in `1..12` and a day in `1..31`.
-/

namespace CivilTime

/-- The Julian day number of the first of January 1970. -/
def epochDayNumber : Int := 2440588

/-- The Julian day number of the fifteenth of October 1582, from which dates are Gregorian. -/
def firstGregorianDay : Int := 2299161

/-- How many years before its own a month's March began: one for January and February, none for
    the other months. The quotient is rounded toward zero, which tells past the fourteenth month. -/
def marchShift (month : Int) : Int := Int.tdiv (14 - month) 12

/-- The number of years from March of the year -4800 to the March before a month. -/
def marchYear (year month : Int) : Int := year + 4800 - marchShift month

/-- The number of months from March to a month. -/
def marchMonth (month : Int) : Int := month + 12 * marchShift month - 3

/-- The number of days from the first of March to the first of the month that is `m` months
    later. -/
def daysBeforeMonth (m : Int) : Int := (153 * m + 2) / 5

/-- The day number of a date of the Gregorian calendar. -/
def gregorianDayNumber (year month day : Int) : Int :=
  let y := marchYear year month
  day + daysBeforeMonth (marchMonth month) + 365 * y + y / 4 - y / 100 + y / 400 - 32045

/-- The day number of a date of the Julian calendar. -/
def julianDayNumber (year month day : Int) : Int :=
  let y := marchYear year month
  day + daysBeforeMonth (marchMonth month) + 365 * y + y / 4 - 32083

/-- The day number of a date, read in the Julian calendar if the Gregorian one would place it
    before the change of calendar. -/
def dayNumber (year month day : Int) : Int :=
  if gregorianDayNumber year month day < firstGregorianDay then julianDayNumber year month day
  else gregorianDayNumber year month day

/-- The date that is `e` days after the first of March, `y` years after March of -4800. -/
def dateOfMarchDay (y e : Int) : CivilDate :=
  let m := (5 * e + 2) / 153
  { year := y - 4800 + m / 10
    month := (m + 3 - 12 * (m / 10)).toNat
    day := (e - daysBeforeMonth m + 1).toNat }

/-- The date of the Gregorian calendar with a day number. Four centuries, one, four years and one
    are split off in turn; the last century and the last year of a cycle are the longer ones. -/
def gregorianDate (n : Int) : CivilDate :=
  let inEra := (n + 32044) % 146097
  let century := min (inEra / 36524) 3
  let inCentury := inEra - 36524 * century
  let inCycle := inCentury % 1461
  let year := min (inCycle / 365) 3
  dateOfMarchDay (400 * ((n + 32044) / 146097) + 100 * century + 4 * (inCentury / 1461) + year)
    (inCycle - 365 * year)

/-- The date of the Julian calendar with a day number. -/
def julianDate (n : Int) : CivilDate :=
  let y := (4 * (n + 32082) + 3) / 1461
  dateOfMarchDay y (n + 32082 - 1461 * y / 4)

/-- The date with a day number. -/
def civilDate (n : Int) : CivilDate :=
  if firstGregorianDay ≤ n then gregorianDate n else julianDate n

/-! ## Ranges of the fields -/

theorem dateOfMarchDay_bounds {y e : Int} (h0 : 0 ≤ e) (h1 : e ≤ 365) :
    1 ≤ (dateOfMarchDay y e).month ∧ (dateOfMarchDay y e).month ≤ 12 ∧
      1 ≤ (dateOfMarchDay y e).day ∧ (dateOfMarchDay y e).day ≤ 31 := by
  have hm : 0 ≤ (5 * e + 2) / 153 ∧ (5 * e + 2) / 153 ≤ 11 := by omega
  have hyear : (5 * e + 2) / 153 / 10 = 0 ∨ (5 * e + 2) / 153 / 10 = 1 := by omega
  simp only [dateOfMarchDay, daysBeforeMonth]
  omega

theorem civilDate_bounds (n : Int) :
    1 ≤ (civilDate n).month ∧ (civilDate n).month ≤ 12 ∧
      1 ≤ (civilDate n).day ∧ (civilDate n).day ≤ 31 := by
  unfold civilDate
  split
  · exact dateOfMarchDay_bounds (by omega) (by omega)
  · exact dateOfMarchDay_bounds (by omega) (by omega)

end CivilTime
