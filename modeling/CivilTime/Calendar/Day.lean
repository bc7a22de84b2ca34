import CivilTime.Calendar.DayNumber
import CivilTime.Text.Decimal

/-!
# Days

A day is counted from the start of the Julian period (`JulianDay`) or from 1970-01-01 (`EpochDay`),
in 32 bits. A count outside that range keeps its residue. A day is written as its date `YYYY-MM-DD`,
a negative year with a minus in front, and a longer year, month or day in full.

* `JulianDay.toInt_ofInt`, `EpochDay.toInt_ofInt`: a count that fits is kept.
* `JulianDay.ext`, `EpochDay.ext`: a day is its count.
-/

namespace CivilTime

/-- A day, counted from the start of the Julian period. -/
structure JulianDay where
  count : Int32
  deriving DecidableEq, Repr

namespace JulianDay

/-- The number of days since the start of the Julian period. -/
def toInt (day : JulianDay) : Int := day.count.toInt

/-- The day with a number, taken modulo 2^32. -/
def ofInt (n : Int) : JulianDay := ⟨Int32.ofInt n⟩

/-- The day with these calendar fields, which need not be legal. -/
def ofFields (year month day : Int) : JulianDay := ofInt (dayNumber year month day)

/-- The calendar date of a day. -/
def date (day : JulianDay) : CivilDate := civilDate day.toInt

theorem fits_toInt (day : JulianDay) : Fits32 day.toInt := fits32_toInt day.count

theorem toInt_ofInt {n : Int} (h : Fits32 n) : (ofInt n).toInt = n := toInt_ofInt_of_fits32 h

theorem ext {a b : JulianDay} (h : a.toInt = b.toInt) : a = b := by
  cases a
  cases b
  simpa [toInt, Int32.toInt_inj] using h

end JulianDay

/-- A day, counted from 1970-01-01. -/
structure EpochDay where
  count : Int32
  deriving DecidableEq, Repr

namespace EpochDay

/-- The number of days since 1970-01-01. -/
def toInt (day : EpochDay) : Int := day.count.toInt

/-- The day with a number, taken modulo 2^32. -/
def ofInt (n : Int) : EpochDay := ⟨Int32.ofInt n⟩

/-- The first of January 1970. -/
def epoch : EpochDay := ofInt 0

/-- The same day, counted from the start of the Julian period. -/
def toJulianDay (day : EpochDay) : JulianDay := JulianDay.ofInt (day.toInt + epochDayNumber)

/-- The same day, counted from 1970-01-01. -/
def ofJulianDay (day : JulianDay) : EpochDay := ofInt (day.toInt - epochDayNumber)

/-- The day with these calendar fields, which need not be legal. -/
def ofFields (year month day : Int) : EpochDay :=
  ofJulianDay (JulianDay.ofFields year month day)

/-- The calendar date of a day. -/
def date (day : EpochDay) : CivilDate := day.toJulianDay.date

theorem fits_toInt (day : EpochDay) : Fits32 day.toInt := fits32_toInt day.count

theorem toInt_ofInt {n : Int} (h : Fits32 n) : (ofInt n).toInt = n := toInt_ofInt_of_fits32 h

theorem ext {a b : EpochDay} (h : a.toInt = b.toInt) : a = b := by
  cases a
  cases b
  simpa [toInt, Int32.toInt_inj] using h

end EpochDay

namespace CivilDate

/-- The Julian day of a date, legal or not. -/
def toJulianDay (date : CivilDate) : JulianDay :=
  JulianDay.ofFields date.year date.month date.day

/-- The day of a date, legal or not, counted from 1970-01-01. -/
def toEpochDay (date : CivilDate) : EpochDay :=
  EpochDay.ofFields date.year date.month date.day

end CivilDate

/-! ## Writing -/

/-- A year with at least four digits. -/
def renderYear (year : Int) : List Char :=
  (if year < 0 then ['-'] else []) ++ Text.padded 4 year.natAbs

namespace CivilDate

/-- The text of a date. -/
def render (date : CivilDate) : List Char :=
  renderYear date.year ++ '-' :: Text.padded 2 date.month ++ '-' :: Text.padded 2 date.day

/-- The length that is announced for the text of a date. It counts two digits for the month and for
    the day. -/
def announcedLength (date : CivilDate) : Nat :=
  6 + (max (Text.digitCount date.year.natAbs) 4 + if date.year < 0 then 1 else 0)

/-- The text of a date. -/
def format (date : CivilDate) : String := String.ofList date.render

end CivilDate

namespace EpochDay

/-- The text of a day. -/
def render (day : EpochDay) : List Char := day.date.render

/-- The text of a day. -/
def format (day : EpochDay) : String := String.ofList day.render

end EpochDay

end CivilTime
