import CivilTime.Proofs.Calendar.RoundTrip

/-!
# The date of the next day

The calendar goes from a date to the next by the lengths of the months. Day numbers, which are
computed without them, follow it one by one.

* `CivilDate.next`: the date after a date.
* `CivilDate.IsLegal.dayNumber_next`: the next date has the next day number.
* `civilDate_succ`, `JulianDay.date_succ`: the next day has the next date.
-/

namespace CivilTime

/-- The date after a date. The fourth of October 1582 is followed by the fifteenth. -/
def CivilDate.next (date : CivilDate) : CivilDate :=
  if date = ⟨1582, 10, 4⟩ then ⟨1582, 10, 15⟩
  else if date.day < daysInMonth date.year date.month then ⟨date.year, date.month, date.day + 1⟩
  else if date.month < 12 then ⟨date.year, date.month + 1, 1⟩
  else ⟨date.year + 1, 1, 1⟩

theorem daysInMonth_pos (year : Int) {month : Int} (h : 1 ≤ month ∧ month ≤ 12) :
    1 ≤ daysInMonth year month := by
  unfold daysInMonth
  split_ifs <;> omega

/-- Every month has a first day. -/
theorem isLegalDate_first (year : Int) {month : Int} (h : 1 ≤ month ∧ month ≤ 12) :
    IsLegalDate year month 1 := by
  refine ⟨Int.le_refl 1, daysInMonth_pos year h, ?_⟩
  rintro ⟨-, -, h5, -⟩
  omega

namespace CivilDate

variable {date : CivilDate}

/-- What the next date can be: the day after the change of calendar, the next day of the month, the
    first of the next month, or the first of January. -/
theorem next_cases (date : CivilDate) :
    (date = ⟨1582, 10, 4⟩ ∧ date.next = ⟨1582, 10, 15⟩) ∨
    (date ≠ ⟨1582, 10, 4⟩ ∧ date.day < daysInMonth date.year date.month ∧
      date.next = ⟨date.year, date.month, date.day + 1⟩) ∨
    (date ≠ ⟨1582, 10, 4⟩ ∧ daysInMonth date.year date.month ≤ date.day ∧ date.month < 12 ∧
      date.next = ⟨date.year, date.month + 1, 1⟩) ∨
    (date ≠ ⟨1582, 10, 4⟩ ∧ daysInMonth date.year date.month ≤ date.day ∧ 12 ≤ date.month ∧
      date.next = ⟨date.year + 1, 1, 1⟩) := by
  unfold CivilDate.next
  split_ifs with hchange hlast hyear
  · exact .inl ⟨hchange, rfl⟩
  · exact .inr (.inl ⟨hchange, hlast, rfl⟩)
  · exact .inr (.inr (.inl ⟨hchange, by omega, hyear, rfl⟩))
  · exact .inr (.inr (.inr ⟨hchange, by omega, by omega, rfl⟩))

theorem fields_ne_of_ne (hchange : date ≠ ⟨1582, 10, 4⟩) :
    ¬ (date.year = 1582 ∧ date.month = 10 ∧ date.day = 4) := by
  rintro ⟨hy, hm, hd⟩
  apply hchange
  cases date
  simp only at hy hm hd
  rw [hy, hm, hd]

theorem IsLegal.next (h : date.IsLegal) : date.next.IsLegal := by
  have hmonth := IsLegalDate.month_bounds h
  obtain ⟨hday, -, hskipped⟩ := h
  rcases next_cases date with
    ⟨-, hnext⟩ | ⟨hchange, hlast, hnext⟩ | ⟨-, -, hyear, hnext⟩ | ⟨-, -, -, hnext⟩ <;>
    rw [hnext]
  · decide
  · have hfields := fields_ne_of_ne hchange
    refine ⟨by dsimp only; omega, by dsimp only; omega, ?_⟩
    unfold IsSkippedDate at *
    dsimp only
    omega
  · exact isLegalDate_first date.year (by dsimp only; omega)
  · exact isLegalDate_first (date.year + 1) (show 1 ≤ (1 : Int) ∧ (1 : Int) ≤ 12 by decide)

/-- The calendar changes between two dates only. -/
theorem IsLegal.calendar_next (h : date.IsLegal) (hchange : date ≠ ⟨1582, 10, 4⟩) :
    date.next.calendar = date.calendar := by
  have hmonth := IsLegalDate.month_bounds h
  have hfields := fields_ne_of_ne hchange
  have hskipped : ¬ IsSkippedDate date.year date.month date.day := h.2.2
  have hiff : IsGregorianDate date.next.year date.next.month date.next.day ↔
      IsGregorianDate date.year date.month date.day := by
    unfold IsSkippedDate at hskipped
    unfold IsGregorianDate
    rcases next_cases date with
      ⟨hdate, -⟩ | ⟨-, -, hnext⟩ | ⟨-, hlast, -, hnext⟩ | ⟨-, -, hyear, hnext⟩
    · exact absurd hdate hchange
    · rw [hnext]
      dsimp only
      omega
    · have hoctober : ¬ (date.year = 1582 ∧ date.month = 10 ∧ date.day < 31) := by
        rintro ⟨hy, hm, hd⟩
        have h31 : daysInMonth 1582 (10 : Nat) = 31 := rfl
        rw [hy, hm] at hlast
        omega
      rw [hnext]
      dsimp only
      omega
    · rw [hnext]
      dsimp only
      omega
  simp only [calendar, Calendar.ofDate, hiff]

/-- The next date has the next day number. -/
theorem IsLegal.dayNumber_next (h : date.IsLegal) : date.next.dayNumber = date.dayNumber + 1 := by
  by_cases hchange : date = ⟨1582, 10, 4⟩
  · rw [hchange]
    decide
  have hmonth := IsLegalDate.month_bounds h
  have hday : date.day ≤ daysInMonth date.year date.month := h.2.1
  rw [h.next.dayNumber_eq, h.calendar_next hchange, h.dayNumber_eq]
  rcases next_cases date with
    ⟨hdate, -⟩ | ⟨-, -, hnext⟩ | ⟨-, hlast, hyear, hnext⟩ | ⟨-, hlast, hyear, hnext⟩
  · exact absurd hdate hchange
  · rw [hnext]
    exact date.calendar.encode_day_succ date.year date.month date.day
  · have hend : (date.day : Int) = daysInMonth date.year date.month := by omega
    have hfollows := Calendar.follows_ofDate date.year date.month date.day
    rw [hnext, hend]
    exact Calendar.encode_month_succ (by omega) hfollows
  · have hm : date.month = 12 := by omega
    have hend : (date.day : Int) = 31 := by
      have h31 : daysInMonth date.year (12 : Nat) = 31 := rfl
      rw [hm] at hday hlast
      omega
    rw [hnext, hm, hend]
    exact date.calendar.encode_year_succ date.year

end CivilDate

/-- The next day number has the next date. -/
theorem civilDate_succ (n : Int) : civilDate (n + 1) = (civilDate n).next := by
  obtain ⟨hlegal, hnumber⟩ := civilDate_spec n
  rw [← hlegal.next.civilDate_dayNumber, hlegal.dayNumber_next, hnumber]

/-- The day after a day, unless that is the last one, has the date after its date. -/
theorem JulianDay.date_succ (day : JulianDay) (h : day.toInt < 2147483647) :
    (JulianDay.ofInt (day.toInt + 1)).date = day.date.next := by
  have hfits := day.fits_toInt
  unfold Fits32 at hfits
  rw [JulianDay.date, JulianDay.toInt_ofInt (by unfold Fits32; omega), civilDate_succ]
  rfl

/-- The last day of the Julian calendar, and the last of February in a year without leap day. -/
theorem JulianDay.date_succ_change :
    ((JulianDay.ofInt 2299160).toInt < 2147483647 ∧
      (JulianDay.ofInt ((JulianDay.ofInt 2299160).toInt + 1)).date = ⟨1582, 10, 15⟩) ∧
    ((JulianDay.ofInt 2342031).toInt < 2147483647 ∧
      (JulianDay.ofInt ((JulianDay.ofInt 2342031).toInt + 1)).date = ⟨1700, 3, 1⟩) := by
  refine ⟨⟨by decide, ?_⟩, by decide, ?_⟩
  · exact (JulianDay.date_succ _ (by decide)).trans (by decide)
  · exact (JulianDay.date_succ _ (by decide)).trans (by decide)

end CivilTime
