import CivilTime.Clock
import CivilTime.Error

/-!
# Time units

The units that dates and times are made of, from the year down to the millisecond, with the order
of their lengths and the words for them. A word is read in any letter case, in the singular or with
one `s` at its end.
-/

namespace CivilTime

/-- A unit of time. -/
inductive TimeUnit
  | year
  | month
  | day
  | hour
  | minute
  | second
  | millisecond
  deriving DecidableEq, Repr

namespace TimeUnit

/-- All units, longest first. -/
def all : List TimeUnit := [year, month, day, hour, minute, second, millisecond]

theorem mem_all (u : TimeUnit) : u ∈ all := by
  cases u <;> decide

/-- The place of a unit among the units, shortest first. -/
def rank : TimeUnit → Nat
  | .year => 7
  | .month => 6
  | .day => 5
  | .hour => 4
  | .minute => 3
  | .second => 2
  | .millisecond => 1

/-- A unit is at most another if it is not the longer one. -/
instance : LE TimeUnit where
  le a b := a.rank ≤ b.rank

instance (a b : TimeUnit) : Decidable (a ≤ b) :=
  inferInstanceAs (Decidable (a.rank ≤ b.rank))

/-- Years and months have no fixed length. -/
def IsCalendarUnit (u : TimeUnit) : Prop := u = .year ∨ u = .month

instance (u : TimeUnit) : Decidable u.IsCalendarUnit := inferInstanceAs (Decidable (_ ∨ _))

/-- The length of a unit in milliseconds, if it is fixed. -/
def millis? : TimeUnit → Option Nat
  | .year => none
  | .month => none
  | .day => some msPerDay
  | .hour => some msPerHour
  | .minute => some msPerMinute
  | .second => some msPerSecond
  | .millisecond => some 1

theorem millis?_eq_none_iff (u : TimeUnit) : u.millis? = none ↔ u.IsCalendarUnit := by
  cases u <;> decide

/-- The word for a unit, in small letters. -/
def word : TimeUnit → List Char
  | .year => "year".toList
  | .month => "month".toList
  | .day => "day".toList
  | .hour => "hour".toList
  | .minute => "minute".toList
  | .second => "second".toList
  | .millisecond => "millisecond".toList

/-- The word for a unit in capitals, by which it is shown. -/
def name (u : TimeUnit) : String := String.ofList (u.word.map Char.toUpper)

/-- The word for a unit with a capital at its start, by which messages name it. -/
def label (u : TimeUnit) : String := String.ofList (u.word.modifyHead Char.toUpper)

/-- A word without the one `s` or `S` that may end it. -/
def singular (text : List Char) : List Char :=
  if text.getLast? = some 's' ∨ text.getLast? = some 'S' then text.dropLast else text

/-- The unit that a word names. ASCII letters may be of either case. -/
def ofWord? (text : List Char) : Option TimeUnit :=
  all.find? fun u => u.word = (singular text).map Char.toLower

/-- Reads a unit. -/
def parse (text : String) : Except UnknownUnit TimeUnit :=
  match ofWord? text.toList with
  | some u => .ok u
  | none => .error ⟨text⟩

theorem ofWord?_name (u : TimeUnit) : ofWord? u.name.toList = some u := by
  cases u <;> decide

end TimeUnit

end CivilTime
