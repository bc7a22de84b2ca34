import CivilTime.Text.Cut
import CivilTime.Unit

/-!
# Interval qualifiers

The leading and the trailing field of an interval, as in `DAY TO SECOND`. A qualifier with one field
has no trailing one.

* `Qualifier.ofUnits?_eq_some_iff`: a qualifier is its two units.
* `Qualifier.read?`: the qualifier of a text, with spaces or underscores around the `TO`.
-/

namespace CivilTime.Interval

/-- The qualifiers of intervals. -/
inductive Qualifier
  | year
  | yearToMonth
  | month
  | day
  | dayToHour
  | dayToMinute
  | dayToSecond
  | hour
  | hourToMinute
  | hourToSecond
  | minute
  | minuteToSecond
  | second
  deriving DecidableEq, Repr

namespace Qualifier

/-- All qualifiers. -/
def all : List Qualifier :=
  [year, yearToMonth, month, day, dayToHour, dayToMinute, dayToSecond, hour, hourToMinute,
   hourToSecond, minute, minuteToSecond, second]

theorem mem_all (q : Qualifier) : q ∈ all := by
  cases q <;> decide

/-- The unit of the leading field. -/
def leading : Qualifier → TimeUnit
  | .year => .year
  | .yearToMonth => .year
  | .month => .month
  | .day => .day
  | .dayToHour => .day
  | .dayToMinute => .day
  | .dayToSecond => .day
  | .hour => .hour
  | .hourToMinute => .hour
  | .hourToSecond => .hour
  | .minute => .minute
  | .minuteToSecond => .minute
  | .second => .second

/-- The unit of the trailing field, if there is one. -/
def trailing? : Qualifier → Option TimeUnit
  | .yearToMonth => some .month
  | .dayToHour => some .hour
  | .dayToMinute => some .minute
  | .dayToSecond => some .second
  | .hourToMinute => some .minute
  | .hourToSecond => some .second
  | .minuteToSecond => some .second
  | _ => none

/-- The unit of the last field. -/
def smallest (q : Qualifier) : TimeUnit := q.trailing?.getD q.leading

/-- The qualifier is one of years and months. -/
def IsYearMonth (q : Qualifier) : Prop := q.leading.IsCalendarUnit

instance (q : Qualifier) : Decidable q.IsYearMonth :=
  inferInstanceAs (Decidable q.leading.IsCalendarUnit)

/-- The qualifier with these fields. -/
def ofUnits? (leading : TimeUnit) (trailing : Option TimeUnit) : Option Qualifier :=
  all.find? fun q => q.leading = leading ∧ q.trailing? = trailing

theorem ofUnits?_eq_some_iff {u : TimeUnit} {v : Option TimeUnit} {q : Qualifier} :
    ofUnits? u v = some q ↔ q.leading = u ∧ q.trailing? = v := by
  constructor
  · intro h
    simpa using List.find?_some h
  · rintro ⟨rfl, rfl⟩
    cases q <;> decide

/-- The words of a qualifier, by which it is shown. -/
def name (q : Qualifier) : String :=
  match q.trailing? with
  | none => q.leading.name
  | some u => q.leading.name ++ " TO " ++ u.name

/-- The words of a qualifier written together, by which messages name it. -/
def label (q : Qualifier) : String :=
  match q.trailing? with
  | none => q.leading.label
  | some u => q.leading.label ++ "To" ++ u.label

/-- What may stand between the two units of a qualifier. An earlier one is looked for first. -/
def separators : List (List Char) :=
  [" TO ".toList, "_TO_".toList, " to ".toList, "_to_".toList]

/-- What stands before and behind the separator that is looked for first among those that a text
    holds. -/
def cutAtSeparator? (text : List Char) : Option (List Char × List Char) :=
  separators.findSome? fun separator => Text.cutAtWord? separator text

/-- The unit that a text names between blanks. -/
def readUnit? (text : List Char) : Option TimeUnit := TimeUnit.ofWord? (Text.trim text)

/-- The qualifier that a text names between blanks. -/
def read? (text : List Char) : Option Qualifier :=
  let text := Text.trim text
  match cutAtSeparator? text with
  | none => do ofUnits? (← readUnit? text) none
  | some (leading, trailing) => do ofUnits? (← readUnit? leading) (some (← readUnit? trailing))

/-- Reads a qualifier. -/
def parse (text : String) : Except Error Qualifier :=
  match read? text.toList with
  | some q => .ok q
  | none => .error (.outOfRange .unknownQualifier)

end Qualifier

end CivilTime.Interval
