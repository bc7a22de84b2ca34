import CivilTime.Calendar.DayNumber
import Mathlib.Tactic.IntervalCases
import Mathlib.Tactic.SplitIfs

/-!
# Years that start in March

Day numbers are computed from years that start in March, and from days counted from the first of
March. A leap day is the last day of such a year, and its month and day of the month do not depend
on the year.

* `marchDay_bounds`: the days of a year have the numbers from 0 to 364, and a leap day has 365.
* `march_month_succ`, `march_february_succ`, `march_year_succ`: the first day of a month comes after
  the last one of the month before.
* `dateOfMarchDay_of_legal`: the year and day of a legal date lead back to the date.
* `dateOfMarchDay_spec`, `dateOfMarchDay_day_le`: a year and day lead to a day of a month, whose
  year and day they are.
-/

namespace CivilTime

/-! ## From the date to the day -/

/-- The days from the first of March to a day of a month. -/
def marchDay (month day : Int) : Int := daysBeforeMonth (marchMonth month) + day - 1

theorem marchShift_eq {month : Int} (h : 1 ≤ month ∧ month ≤ 12) :
    marchShift month = if month ≤ 2 then 1 else 0 := by
  unfold marchShift
  rw [Int.tdiv_eq_ediv_of_nonneg (by omega)]
  split_ifs <;> omega

/-- Every month but February ends where the next one starts. -/
theorem daysInMonth_eq {year month : Int} (h : 1 ≤ month ∧ month ≤ 12) (h2 : month ≠ 2) :
    daysInMonth year month =
      daysBeforeMonth (marchMonth month + 1) - daysBeforeMonth (marchMonth month) := by
  unfold daysInMonth marchMonth
  rw [marchShift_eq h]
  obtain ⟨h1, h12⟩ := h
  interval_cases month <;> first | rfl | contradiction

theorem daysInMonth_february (year : Int) :
    daysInMonth year 2 = if IsLeapYear year then 29 else 28 := if_pos rfl

section
variable {year month day : Int}

theorem IsLegalDate.day_le (h : IsLegalDate year month day) : day ≤ 31 := by
  obtain ⟨-, hday, -⟩ := h
  unfold daysInMonth at hday
  split_ifs at hday <;> omega

theorem IsLegalDate.marchYear_eq (h : IsLegalDate year month day) :
    marchYear year month = year + 4800 - if month ≤ 2 then 1 else 0 := by
  rw [marchYear, marchShift_eq h.month_bounds]

/-- A day of the month comes before the next month starts. The thirtieth of February would be the
    last day before March. -/
theorem IsLegalDate.day_le_daysBeforeMonth (h : IsLegalDate year month day) :
    day ≤ daysBeforeMonth (marchMonth month + 1) - daysBeforeMonth (marchMonth month) := by
  obtain ⟨-, hday, -⟩ := id h
  by_cases h2 : month = 2
  · subst h2
    have hmarch : daysBeforeMonth (marchMonth 2 + 1) - daysBeforeMonth (marchMonth 2) = 30 := rfl
    rw [daysInMonth_february] at hday
    split_ifs at hday <;> omega
  · rwa [daysInMonth_eq h.month_bounds h2] at hday

/-- A legal date is one of the first 365 days from March on, or a leap day. -/
theorem marchDay_bounds (h : IsLegalDate year month day) :
    0 ≤ marchDay month day ∧ marchDay month day ≤ 365 ∧
      (marchDay month day = 365 → month = 2 ∧ IsLeapYear year) := by
  have hmonth := h.month_bounds
  have hday := h.day_le_daysBeforeMonth
  obtain ⟨h1, hfebruary, -⟩ := h
  unfold marchDay
  by_cases h2 : month = 2
  · subst h2
    have h337 : daysBeforeMonth (marchMonth 2) = 337 := rfl
    rw [daysInMonth_february] at hfebruary
    split_ifs at hfebruary with hleap
    · exact ⟨by omega, by omega, fun _ => ⟨rfl, hleap⟩⟩
    · exact ⟨by omega, by omega, fun _ => by omega⟩
  · unfold daysBeforeMonth marchMonth at *
    rw [marchShift_eq hmonth] at *
    split_ifs at * <;> omega

theorem marchMonth_of_marchDay (h : IsLegalDate year month day) :
    (5 * marchDay month day + 2) / 153 = marchMonth month := by
  have hmonth := marchShift_eq h.month_bounds
  have hday := h.day_le_daysBeforeMonth
  have h1 : 1 ≤ day := h.1
  unfold marchDay daysBeforeMonth at *
  omega

/-- The year and day of a legal date lead back to it. -/
theorem dateOfMarchDay_of_legal (h : IsLegalDate year month day) :
    dateOfMarchDay (marchYear year month) (marchDay month day) =
      ⟨year, month.toNat, day.toNat⟩ := by
  have hmonth := h.month_bounds
  have h1 : 1 ≤ day := h.1
  have hshift := marchShift_eq hmonth
  simp only [dateOfMarchDay, marchMonth_of_marchDay h, CivilDate.mk.injEq]
  unfold marchDay marchYear marchMonth at *
  split_ifs at * <;> omega

end

/-- A day number is computed from the year and the month that start in March alone. -/
theorem dayNumber_congr {year month year' month' : Int} (day : Int)
    (hyear : marchYear year month = marchYear year' month')
    (hmonth : marchMonth month = marchMonth month') :
    dayNumber year month day = dayNumber year' month' day := by
  unfold dayNumber gregorianDayNumber julianDayNumber
  rw [hyear, hmonth]

/-! ## The first of the next month -/

theorem march_month_succ (year : Int) {month : Int} (h : 1 ≤ month ∧ month ≤ 11) (h2 : month ≠ 2) :
    marchYear year (month + 1) = marchYear year month ∧
      marchDay (month + 1) 1 = marchDay month (daysInMonth year month) + 1 := by
  have hshift := marchShift_eq (show 1 ≤ month ∧ month ≤ 12 by omega)
  have hshift' := marchShift_eq (show 1 ≤ month + 1 ∧ month + 1 ≤ 12 by omega)
  rw [daysInMonth_eq (by omega) h2]
  unfold marchYear marchDay marchMonth
  rw [hshift, hshift']
  unfold daysBeforeMonth
  split_ifs <;> omega

/-- The first of March starts a year, and the last of February ends the one before. -/
theorem march_february_succ (year : Int) : marchYear year (2 + 1) = year + 4800 ∧
    marchYear year 2 + 1 = year + 4800 ∧ marchDay (2 + 1) 1 = 0 ∧
    marchDay 2 (daysInMonth year 2) = if IsLeapYear year then 365 else 364 := by
  have h2 : marchShift 2 = 1 := rfl
  have h3 : marchShift (2 + 1) = 0 := rfl
  have h337 : daysBeforeMonth (marchMonth 2) = 337 := rfl
  refine ⟨?_, ?_, rfl, ?_⟩
  · unfold marchYear; omega
  · unfold marchYear; omega
  · rw [daysInMonth_february]
    unfold marchDay
    split_ifs <;> omega

theorem march_year_succ (year : Int) : marchYear (year + 1) 1 = marchYear year 12 ∧
    marchDay 1 1 = marchDay 12 31 + 1 := by
  have h1 : marchShift 1 = 1 := rfl
  have h12 : marchShift 12 = 0 := rfl
  refine ⟨?_, rfl⟩
  unfold marchYear
  omega

/-! ## From the day to the date -/

/-- The month and the day of the month of the day `e` of a year. -/
theorem dateOfMarchDay_spec (y : Int) {e : Int} (h : 0 ≤ e ∧ e ≤ 365) :
    marchYear (dateOfMarchDay y e).year (dateOfMarchDay y e).month = y ∧
      marchMonth (dateOfMarchDay y e).month = (5 * e + 2) / 153 ∧
      ((dateOfMarchDay y e).day : Int) = e - daysBeforeMonth ((5 * e + 2) / 153) + 1 := by
  have hbounds := dateOfMarchDay_bounds (y := y) h.1 h.2
  have hm : 0 ≤ (5 * e + 2) / 153 ∧ (5 * e + 2) / 153 ≤ 11 := by omega
  have hmonth : ((dateOfMarchDay y e).month : Int) =
      (5 * e + 2) / 153 + 3 - 12 * ((5 * e + 2) / 153 / 10) := by
    simp only [dateOfMarchDay]
    omega
  have hshift : marchShift (dateOfMarchDay y e).month = (5 * e + 2) / 153 / 10 := by
    rw [marchShift_eq (by omega)]
    split_ifs <;> omega
  refine ⟨?_, ?_, ?_⟩
  · rw [marchYear, hshift]
    simp only [dateOfMarchDay]
    omega
  · rw [marchMonth, hshift, hmonth]
    omega
  · simp only [dateOfMarchDay] at hbounds ⊢
    omega

theorem marchDay_dateOfMarchDay (y : Int) {e : Int} (h : 0 ≤ e ∧ e ≤ 365) :
    marchDay (dateOfMarchDay y e).month (dateOfMarchDay y e).day = e := by
  obtain ⟨-, hmonth, hday⟩ := dateOfMarchDay_spec y h
  unfold marchDay
  rw [hmonth, hday]
  omega

/-- The day 365 of a year is a day of February if that February has a leap day. -/
theorem dateOfMarchDay_day_le (y : Int) {e : Int} (h : 0 ≤ e ∧ e ≤ 365)
    (hleap : e = 365 → IsLeapYear (y - 4799)) :
    (dateOfMarchDay y e).day ≤
      daysInMonth (dateOfMarchDay y e).year (dateOfMarchDay y e).month := by
  obtain ⟨hyear, hmonth, hday⟩ := dateOfMarchDay_spec y h
  have hbounds := dateOfMarchDay_bounds (y := y) h.1 h.2
  rw [hday]
  by_cases h2 : (dateOfMarchDay y e).month = 2
  · rw [h2, Nat.cast_ofNat] at hyear hmonth
    have hm : (5 * e + 2) / 153 = 11 := hmonth.symm
    have hy : (dateOfMarchDay y e).year = y - 4799 := by
      have hshift : marchShift 2 = 1 := rfl
      unfold marchYear at hyear
      omega
    rw [h2, hy, hm, Nat.cast_ofNat, daysInMonth_february]
    unfold daysBeforeMonth
    split_ifs with hyl
    · omega
    · have he : e ≠ 365 := fun he => hyl (hleap he)
      omega
  · rw [daysInMonth_eq (by omega) (by omega), hmonth]
    unfold daysBeforeMonth
    omega

end CivilTime
