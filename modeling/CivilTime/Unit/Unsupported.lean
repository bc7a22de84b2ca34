import CivilTime.Interval.Qualifier

/-!
# Units that an operation does not support

Some operations are meant for some units only. Asked for another one, they answer with the
operation and the unit.
-/

namespace CivilTime

/-- Which way a value is moved to the start of a unit. -/
inductive Direction
  | floor
  | ceil
  deriving DecidableEq, Repr

/-- The word for a direction. -/
def Direction.name : Direction → String
  | .floor => "floor"
  | .ceil => "ceil"

/-- An operation and a unit or qualifier that it does not support. -/
inductive UnsupportedUnit
  | truncation (direction : Direction) (unit : TimeUnit)
  | extraction (unit : TimeUnit)
  | yearMonthText (qualifier : Interval.Qualifier)
  | dayTimeText (qualifier : Interval.Qualifier)
  deriving DecidableEq, Repr

namespace UnsupportedUnit

/-- What the operation is called. -/
def operation : UnsupportedUnit → String
  | .truncation direction _ => direction.name
  | .extraction _ => "extract"
  | .yearMonthText _ => "year-month interval formatting"
  | .dayTimeText _ => "day-time interval formatting"

/-- What the unit or qualifier is called. -/
def unit : UnsupportedUnit → String
  | .truncation _ unit => unit.label
  | .extraction unit => unit.label
  | .yearMonthText qualifier => qualifier.label
  | .dayTimeText qualifier => qualifier.label

/-- The wording of the answer. -/
def message (fault : UnsupportedUnit) : String :=
  fault.operation ++ " does not support unit " ++ fault.unit

end UnsupportedUnit

end CivilTime
