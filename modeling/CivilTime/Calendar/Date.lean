/-!
# Calendar dates

The civil calendar has a leap day every fourth year up to 1582, and from then on drops three of
them in four centuries. The fourth of October 1582 is followed by the fifteenth.

* `IsLegalDate`: which year, month and day name a day of the calendar.
* `CivilDate`: a year, month and day, legal or not, in the order of the calendar.
-/

namespace CivilTime

/-- The year has a twenty-ninth of February. -/
def IsLeapYear (year : Int) : Prop :=
  year % 4 = 0 ∧ (year ≤ 1582 ∨ year % 100 ≠ 0 ∨ year % 400 = 0)

instance (year : Int) : Decidable (IsLeapYear year) := inferInstanceAs (Decidable (_ ∧ _))

/-- The number of days of a month, which is zero if there is no such month. -/
def daysInMonth (year month : Int) : Int :=
  if month = 2 then
    if IsLeapYear year then 29 else 28
  else if month = 4 ∨ month = 6 ∨ month = 9 ∨ month = 11 then 30
  else if 1 ≤ month ∧ month ≤ 12 then 31
  else 0

/-- The days that the calendar skips, from the fifth to the fourteenth of October 1582. -/
def IsSkippedDate (year month day : Int) : Prop :=
  year = 1582 ∧ month = 10 ∧ 5 ≤ day ∧ day ≤ 14

instance (year month day : Int) : Decidable (IsSkippedDate year month day) :=
  inferInstanceAs (Decidable (_ ∧ _))

/-- The year, month and day name a day of the calendar. -/
def IsLegalDate (year month day : Int) : Prop :=
  1 ≤ day ∧ day ≤ daysInMonth year month ∧ ¬ IsSkippedDate year month day

instance (year month day : Int) : Decidable (IsLegalDate year month day) :=
  inferInstanceAs (Decidable (_ ∧ _))

/-- A legal date names one of the twelve months. -/
theorem IsLegalDate.month_bounds {year month day : Int} (h : IsLegalDate year month day) :
    1 ≤ month ∧ month ≤ 12 := by
  obtain ⟨h1, h2, -⟩ := h
  unfold daysInMonth at h2
  split at h2
  · omega
  · split at h2
    · omega
    · split at h2 <;> omega

/-- A year, a month and a day of the month. -/
structure CivilDate where
  year : Int
  month : Nat
  day : Nat
  deriving DecidableEq, Repr

namespace CivilDate

/-- The fields name a day of the calendar. -/
def IsLegal (date : CivilDate) : Prop := IsLegalDate date.year date.month date.day

instance (date : CivilDate) : Decidable date.IsLegal :=
  inferInstanceAs (Decidable (IsLegalDate ..))

/-- The date with these fields, if they name a day of the calendar. -/
def ofFields? (year : Int) (month day : Nat) : Option CivilDate :=
  if IsLegalDate year month day then some ⟨year, month, day⟩ else none

/-- Dates are ordered by year, then month, then day. -/
instance : LT CivilDate where
  lt a b := a.year < b.year ∨ a.year = b.year ∧
    (a.month < b.month ∨ a.month = b.month ∧ a.day < b.day)

instance (a b : CivilDate) : Decidable (a < b) := inferInstanceAs (Decidable (_ ∨ _))

/-- A date is at most another if the other does not come before it. -/
instance : LE CivilDate where
  le a b := ¬ b < a

instance (a b : CivilDate) : Decidable (a ≤ b) := inferInstanceAs (Decidable (¬ _))

end CivilDate

end CivilTime
