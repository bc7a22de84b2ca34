import CivilTime.Proofs.Calendar.NextDate

/-!
# Fields that carry over

The fields of a date may be out of their ranges. A month outside its year is one of a year before or
after, and from November 1582 on, a day behind the end of its month is one of a month after.

* `dayNumber_add_years`: twelve months are a year.
* `dayNumber_add_days`: in the Gregorian calendar the days are counted on without end.
* `JulianDay.ofFields_carry`: the same for days of 32 bits.
-/

namespace CivilTime

variable {year month day : Int}

/-! ## Months -/

theorem marchShift_of_le (h : month ≤ 14) : marchShift month = (14 - month) / 12 :=
  Int.tdiv_eq_ediv_of_nonneg (by omega)

/-- Years may be written as months, as long as the month does not come to be past the fourteenth. -/
theorem dayNumber_add_years (year day k : Int) (h : month ≤ 14) (hk : month - 12 * k ≤ 14) :
    dayNumber year month day = dayNumber (year + k) (month - 12 * k) day := by
  have hshift : marchShift (month - 12 * k) = marchShift month + k := by
    rw [marchShift_of_le h, marchShift_of_le hk]
    omega
  apply dayNumber_congr
  · unfold marchYear
    omega
  · unfold marchMonth
    omega

/-! ## Days -/

theorem gregorianDayNumber_add (year month day n : Int) :
    gregorianDayNumber year month (day + n) = gregorianDayNumber year month day + n := by
  simp only [gregorianDayNumber]
  omega

/-- A date of the Gregorian calendar, from which days are counted on, stays in that calendar. -/
theorem dayNumber_add_days {n : Int} (h : firstGregorianDay ≤ gregorianDayNumber year month day)
    (hn : 0 ≤ n) : dayNumber year month (day + n) = dayNumber year month day + n := by
  have hnumber := gregorianDayNumber_add year month day n
  unfold dayNumber
  rw [if_neg (by omega), if_neg (by omega), hnumber]

/-- The first of a month after the change of calendar has a Gregorian number. -/
theorem firstGregorianDay_le_first (h : 1 ≤ month ∧ month ≤ 12)
    (hafter : IsGregorianDate year month 1) :
    firstGregorianDay ≤ gregorianDayNumber year month 1 := by
  obtain ⟨h0, h365, -⟩ := marchDay_bounds (isLegalDate_first year h)
  have hmarch := (Calendar.march_of_change year h (show 1 ≤ (1 : Int) ∧ _ ≤ 31 by decide)).1
  exact (Calendar.firstGregorianDay_le_encode year ⟨h0, h365⟩).2 (hmarch.1 hafter)

/-! ## Days of 32 bits -/

namespace JulianDay

/-- Numbers are added modulo 2^32, too. -/
theorem ofInt_toInt_add (a b : Int) : ofInt ((ofInt a).toInt + b) = ofInt (a + b) := by
  simp only [ofInt, toInt, Int32.ofInt_add, Int32.ofInt_toInt]

/-- A month up to the fourteenth is the month of the year it belongs to, and a day from November
    1582 on is the one that many days after the first of its month. -/
theorem ofFields_carry :
    (∀ year month day : Int, month ≤ 14 →
      ofFields year month day =
        ofFields (year + (month - 1) / 12) (month - 12 * ((month - 1) / 12)) day) ∧
    ∀ year month day : Int, 1 ≤ month ∧ month ≤ 12 → 1582 < year ∨ year = 1582 ∧ 11 ≤ month →
      1 ≤ day → ofFields year month day = ofInt ((ofFields year month 1).toInt + (day - 1)) := by
  constructor
  · intro year month day h
    have hmonth : month - 12 * ((month - 1) / 12) ≤ 14 := by omega
    rw [ofFields, dayNumber_add_years year day _ h hmonth, ofFields]
  · intro year month day hmonth hafter hday
    have hgregorian : IsGregorianDate year month 1 := by
      unfold IsGregorianDate
      omega
    have hfirst := firstGregorianDay_le_first hmonth hgregorian
    have hnumber := dayNumber_add_days hfirst (show 0 ≤ day - 1 by omega)
    rw [ofFields, ofFields, ofInt_toInt_add, ← hnumber]
    congr 2
    omega

/-- The first month of 32 bits, which lies 178956971 years before its year, and the last day of 32
    bits of a month after the change of calendar, whose number has wrapped around. -/
theorem ofFields_carry_ends :
    (-2147483648 : Int) ≤ 14 ∧ ofFields 178958995 (-2147483648) 29 = ofFields 2024 4 29 ∧
      (1 ≤ (11 : Int) ∧ (11 : Int) ≤ 12) ∧
      (1582 < (1582 : Int) ∨ (1582 : Int) = 1582 ∧ 11 ≤ (11 : Int)) ∧ 1 ≤ (2147483647 : Int) ∧
      ofFields 1582 11 2147483647 = ofInt ((ofFields 1582 11 1).toInt + 2147483646) ∧
      (ofFields 1582 11 2147483647).toInt = -2145184472 := by
  have hmonth : (-2147483648 : Int) ≤ 14 := by decide
  have hnovember : 1 ≤ (11 : Int) ∧ (11 : Int) ≤ 12 := by decide
  have hafter : 1582 < (1582 : Int) ∨ (1582 : Int) = 1582 ∧ 11 ≤ (11 : Int) := by decide
  have hday : 1 ≤ (2147483647 : Int) := by decide
  exact ⟨hmonth, ofFields_carry.1 178958995 _ 29 hmonth, hnovember, hafter, hday,
    ofFields_carry.2 1582 11 _ hnovember hafter hday, by decide⟩

end JulianDay

end CivilTime
