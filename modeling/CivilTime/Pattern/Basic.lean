import CivilTime.WallClock

/-!
# Patterns

A pattern is a list of items: fields of a wall clock, each with a width, and literal characters.
-/

namespace CivilTime

/-- A field that a pattern names by a letter. -/
inductive PatternField
  | year
  | month
  | day
  | hour
  | minute
  | second
  | millisecond
  deriving DecidableEq, Repr

namespace PatternField

/-- The field that a letter names. -/
def ofLetter? : Char → Option PatternField
  | 'y' => some .year
  | 'M' => some .month
  | 'd' => some .day
  | 'H' => some .hour
  | 'm' => some .minute
  | 's' => some .second
  | 'S' => some .millisecond
  | _ => none

end PatternField

namespace WallClock

/-- A wall clock with one field set. -/
def set (wall : WallClock) (field : PatternField) (n : Int) : WallClock :=
  match field with
  | .year => { wall with year := n }
  | .month => { wall with month := n }
  | .day => { wall with day := n }
  | .hour => { wall with hour := n }
  | .minute => { wall with minute := n }
  | .second => { wall with second := n }
  | .millisecond => { wall with millisecond := n }

/-- One field of a wall clock. -/
def get (wall : WallClock) (field : PatternField) : Int :=
  match field with
  | .year => wall.year
  | .month => wall.month
  | .day => wall.day
  | .hour => wall.hour
  | .minute => wall.minute
  | .second => wall.second
  | .millisecond => wall.millisecond

theorem get_set (wall : WallClock) (field other : PatternField) (n : Int) :
    (wall.set field n).get other = if field = other then n else wall.get other := by
  cases field <;> cases other <;> rfl

end WallClock

/-- An item of a pattern: a field with the number of letters that name it, or a character that
    stands for itself. -/
inductive PatternItem
  | field (field : PatternField) (width : Nat)
  | literal (c : Char)
  deriving DecidableEq, Repr

/-- A compiled pattern. -/
structure Pattern where
  items : List PatternItem
  deriving DecidableEq, Repr

end CivilTime
