import CivilTime.Timestamp

/-!
# Wall clocks

What a calendar and a clock on a wall show together. The fields may be any numbers; they are legal
if they name a day of the calendar and a time of the clock.
-/

namespace CivilTime

/-- The fields of a calendar and a clock. They start at the beginning of 1970. -/
structure WallClock where
  year : Int := 1970
  month : Int := 1
  day : Int := 1
  hour : Int := 0
  minute : Int := 0
  second : Int := 0
  millisecond : Int := 0
  deriving DecidableEq, Repr

namespace WallClock

/-- The fields name a day of the calendar and a time of the clock. -/
def IsLegal (wall : WallClock) : Prop :=
  IsLegalDate wall.year wall.month wall.day ∧ (0 ≤ wall.hour ∧ wall.hour ≤ 23) ∧
    (0 ≤ wall.minute ∧ wall.minute ≤ 59) ∧ (0 ≤ wall.second ∧ wall.second ≤ 59) ∧
    (0 ≤ wall.millisecond ∧ wall.millisecond ≤ 999)

instance (wall : WallClock) : Decidable wall.IsLegal := inferInstanceAs (Decidable (_ ∧ _))

/-- The moment at which a wall clock in UTC shows the fields. -/
def toTimestamp (wall : WallClock) : Timestamp :=
  Timestamp.ofDateAndTime (EpochDay.ofFields wall.year wall.month wall.day)
    (ClockTime.ofFields wall.hour wall.minute wall.second wall.millisecond)

/-- What a wall clock in UTC shows at a moment. -/
def ofTimestamp (moment : Timestamp) : WallClock :=
  let date := moment.date.date
  let clock := moment.timeOfDay.fields
  { year := date.year
    month := date.month
    day := date.day
    hour := clock.hour
    minute := clock.minute
    second := clock.second
    millisecond := clock.millisecond }

end WallClock

end CivilTime
