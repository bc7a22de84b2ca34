import CivilTime.Clock
import CivilTime.Rounding
import CivilTime.Unit.Unsupported

/-!
# The texts of intervals

An interval is written with a sign, under a qualifier that says which fields it has.

An interval of months shows the years, the years and months, or the months. Years alone are rounded
to the nearest, from the middle upward.

An interval of milliseconds is rounded to the last field of its qualifier, from the middle upward.
The leading field is written in full, each later one with two digits below the next larger unit, and
fraction digits behind the seconds.
-/

namespace CivilTime.Interval

/-! ## Years and months -/

/-- The text of a number of months, without a sign. -/
def renderMonths (months : Nat) (qualifier : Qualifier) : List Char :=
  match qualifier with
  | .year => Text.digits (Rounding.roundMagnitude .halfUp months 12 / 12)
  | .yearToMonth => Text.digits (months / 12) ++ '-' :: Text.padded 2 (months % 12)
  | _ => Text.digits months

/-- The text of an interval of months, under a qualifier of years and months. -/
def renderYearMonth (months : Int) (qualifier : Qualifier) :
    Except UnsupportedUnit (List Char) :=
  if qualifier.IsYearMonth then
    .ok (Text.signChar months :: renderMonths months.natAbs qualifier)
  else .error (.yearMonthText qualifier)

/-- The text of an interval of months, under a qualifier of years and months. -/
def formatYearMonth (months : Int) (qualifier : Qualifier) : Except UnsupportedUnit String :=
  (renderYearMonth months qualifier).map String.ofList

/-! ## Days and times -/

/-- A field of an interval of days and times. -/
structure DayTimeField where
  unit : TimeUnit
  /-- The number of milliseconds in one of the field. -/
  millis : Nat
  /-- How many of the field make one of the next larger field. -/
  count : Nat
  /-- What stands between the next larger field and this one. -/
  separator : Char

/-- The fields of intervals of days and times, largest first. No field is larger than the days. -/
def dayTimeFields : List DayTimeField :=
  [⟨.day, msPerDay, 0, ' '⟩, ⟨.hour, msPerHour, 24, ' '⟩, ⟨.minute, msPerMinute, 60, ':'⟩,
   ⟨.second, msPerSecond, 60, ':'⟩]

/-- The fields that a qualifier shows. -/
def Qualifier.dayTimeFields (qualifier : Qualifier) : List DayTimeField :=
  Interval.dayTimeFields.filter fun field =>
    qualifier.smallest ≤ field.unit ∧ field.unit ≤ qualifier.leading

/-- What an interval is rounded to: the last field, or a unit of the last fraction digit. -/
def dayTimeIncrement (qualifier : Qualifier) (scale : Nat) : Nat :=
  match qualifier.smallest with
  | .second => fractionUnit scale
  | unit => unit.millis?.getD 1

/-- The text of fields: the first in full, the others with two digits. -/
def renderFields (millis : Nat) : List DayTimeField → List Char
  | [] => []
  | leading :: others =>
    Text.digits (millis / leading.millis) ++
      others.flatMap fun field =>
        field.separator :: Text.padded 2 (millis / field.millis % field.count)

/-- The text of a number of milliseconds, rounded but without a sign. -/
def renderMillis (millis : Nat) (qualifier : Qualifier) (scale : Nat) : List Char :=
  let rounded := Rounding.roundMagnitude .halfUp millis (dayTimeIncrement qualifier scale)
  renderFields rounded qualifier.dayTimeFields ++
    if qualifier.smallest = .second then renderFraction (rounded % msPerSecond) scale else []

/-- The text of an interval of milliseconds with `scale` fraction digits, under a qualifier of days
    and times. -/
def renderDayTime (millis : Int) (qualifier : Qualifier) (scale : Nat) :
    Except UnsupportedUnit (List Char) :=
  if qualifier.IsYearMonth then .error (.dayTimeText qualifier)
  else .ok (Text.signChar millis :: renderMillis millis.natAbs qualifier scale)

/-- The text of an interval of milliseconds with `scale` fraction digits, under a qualifier of days
    and times. -/
def formatDayTime (millis : Int) (qualifier : Qualifier) (scale : Nat) :
    Except UnsupportedUnit String :=
  (renderDayTime millis qualifier scale).map String.ofList

end CivilTime.Interval
