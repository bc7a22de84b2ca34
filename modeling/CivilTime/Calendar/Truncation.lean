import CivilTime.Timestamp
import CivilTime.Unit.Unsupported

/-!
# Starts of years and months

A day or a moment is moved down to the start of its year or month, or up to the next start unless
it is one itself. Other units are not supported.
-/

namespace CivilTime

/-- How many units a value is moved up, given whether it is past the start of its unit. -/
def Direction.step : Direction → Bool → Int
  | .ceil, true => 1
  | _, _ => 0

/-- The start of a year or month that is nearest in a direction to a moment of a day.
    `pastMidnight` tells whether the moment is past the start of the day. Month thirteen is January
    of the next year. -/
def startOfUnit (direction : Direction) (unit : TimeUnit) (day : EpochDay) (pastMidnight : Bool) :
    Except UnsupportedUnit EpochDay :=
  let date := day.date
  match unit with
  | .year =>
    let past := 1 < date.month || 1 < date.day || pastMidnight
    .ok (EpochDay.ofFields (date.year + direction.step past) 1 1)
  | .month =>
    let past := 1 < date.day || pastMidnight
    .ok (EpochDay.ofFields date.year (date.month + direction.step past) 1)
  | unit => .error (.truncation direction unit)

namespace EpochDay

/-- A day moved to a start of a year or month. -/
def truncate (day : EpochDay) (direction : Direction) (unit : TimeUnit) :
    Except UnsupportedUnit EpochDay :=
  startOfUnit direction unit day false

/-- The start of the year or month of a day. -/
def floor (day : EpochDay) (unit : TimeUnit) : Except UnsupportedUnit EpochDay :=
  day.truncate .floor unit

/-- The first start of a year or month that does not come before a day. -/
def ceil (day : EpochDay) (unit : TimeUnit) : Except UnsupportedUnit EpochDay :=
  day.truncate .ceil unit

/-- The year, month or day of the month of a day. -/
def extract (day : EpochDay) (unit : TimeUnit) : Except UnsupportedUnit Int :=
  match unit with
  | .year => .ok day.date.year
  | .month => .ok day.date.month
  | .day => .ok day.date.day
  | unit => .error (.extraction unit)

end EpochDay

namespace Timestamp

/-- A moment moved to a start of a year or month. -/
def truncate (moment : Timestamp) (direction : Direction) (unit : TimeUnit) :
    Except UnsupportedUnit Timestamp :=
  (startOfUnit direction unit moment.date (moment.timeOfDay != .midnight)).map EpochDay.midnight

/-- The start of the year or month of a moment. -/
def floor (moment : Timestamp) (unit : TimeUnit) : Except UnsupportedUnit Timestamp :=
  moment.truncate .floor unit

/-- The first start of a year or month that does not come before a moment. -/
def ceil (moment : Timestamp) (unit : TimeUnit) : Except UnsupportedUnit Timestamp :=
  moment.truncate .ceil unit

end Timestamp

end CivilTime
