import CivilTime.Proofs.Calendar.NextDate
import Mathlib.Order.Basic

/-!
# The order of days and of their dates

Dates are ordered by year, month and day, and days by their counts. A later day number has a later
date. So does a later day counted from 1970, unless the day number wraps around between the two.

* `strictMono_civilDate`: dates come in the order of their day numbers.
* `CivilDate.IsLegal.dayNumber_le_dayNumber`: and day numbers in the order of legal dates.
* `EpochDay.date_lt_date_iff`: when the dates of two days come in the order of the days.
* `EpochDay.date_wrapsAround`: a day whose date comes millions of years before that of the day
  before.
-/

namespace CivilTime

/-! ## Dates -/

namespace CivilDate

variable {a b date : CivilDate}

theorem lt_iff : a < b ↔ a.year < b.year ∨ a.year = b.year ∧
    (a.month < b.month ∨ a.month = b.month ∧ a.day < b.day) := Iff.rfl

theorem le_iff : a ≤ b ↔ a.year < b.year ∨ a.year = b.year ∧
    (a.month < b.month ∨ a.month = b.month ∧ a.day ≤ b.day) := by
  show ¬ b < a ↔ _
  rw [lt_iff]
  omega

instance : LinearOrder CivilDate where
  le_refl a := by rw [le_iff]; omega
  le_trans a b c := by simp only [le_iff]; omega
  lt_iff_le_not_ge a b := by rw [lt_iff, le_iff, le_iff]; omega
  le_antisymm a b h h' := by
    rw [le_iff] at h h'
    cases a
    cases b
    simp only [mk.injEq] at *
    omega
  le_total a b := by rw [le_iff, le_iff]; omega
  toDecidableLE := inferInstance

theorem lt_next (date : CivilDate) : date < date.next := by
  rcases next_cases date with
    ⟨hdate, hnext⟩ | ⟨-, -, hnext⟩ | ⟨-, -, -, hnext⟩ | ⟨-, -, -, hnext⟩ <;> rw [hnext, lt_iff]
  · rw [hdate]
    decide
  · exact .inr ⟨rfl, .inr ⟨rfl, Nat.lt_succ_self _⟩⟩
  · exact .inr ⟨rfl, .inl (Nat.lt_succ_self _)⟩
  · exact .inl (Int.lt_succ _)

end CivilDate

/-! ## Day numbers -/

/-- A later day number has a later date, since each date is followed by the next one. -/
theorem strictMono_civilDate : StrictMono civilDate := by
  apply strictMono_int_of_lt_succ
  intro n
  rw [civilDate_succ]
  exact (civilDate n).lt_next

namespace CivilDate.IsLegal

variable {a b : CivilDate}

theorem dayNumber_le_dayNumber (ha : a.IsLegal) (hb : b.IsLegal) :
    a.dayNumber ≤ b.dayNumber ↔ a ≤ b := by
  rw [← strictMono_civilDate.le_iff_le, ha.civilDate_dayNumber, hb.civilDate_dayNumber]

theorem dayNumber_lt_dayNumber (ha : a.IsLegal) (hb : b.IsLegal) :
    a.dayNumber < b.dayNumber ↔ a < b := by
  rw [← strictMono_civilDate.lt_iff_lt, ha.civilDate_dayNumber, hb.civilDate_dayNumber]

end CivilDate.IsLegal

/-! ## Days of 32 bits -/

namespace EpochDay

variable {a b day : EpochDay}

/-- Days come in the order of their counts. -/
instance : LinearOrder EpochDay := LinearOrder.lift' toInt fun _ _ => ext

theorem le_iff : a ≤ b ↔ a.toInt ≤ b.toInt := Iff.rfl

theorem lt_iff : a < b ↔ a.toInt < b.toInt := Iff.rfl

theorem toInt_toJulianDay (h : Fits32 (day.toInt + epochDayNumber)) :
    day.toJulianDay.toInt = day.toInt + epochDayNumber := JulianDay.toInt_ofInt h

/-- The day number of a day near the end of the range has wrapped around. -/
theorem toInt_toJulianDay_of_not_fits (h : ¬ Fits32 (day.toInt + epochDayNumber)) :
    day.toJulianDay.toInt = day.toInt + epochDayNumber - 4294967296 := by
  have hday := day.fits_toInt
  unfold Fits32 epochDayNumber at *
  rw [toJulianDay, JulianDay.ofInt, JulianDay.toInt, Int32.toInt_ofInt, Int32.size, Int.bmod_def]
  unfold epochDayNumber
  split_ifs <;> omega

/-- The days whose day numbers do not fit come after the others. -/
theorem lt_of_not_fits (ha : Fits32 (a.toInt + epochDayNumber))
    (hb : ¬ Fits32 (b.toInt + epochDayNumber)) : a < b := by
  have hcount := b.fits_toInt
  rw [lt_iff]
  unfold Fits32 epochDayNumber at *
  omega

/-- A day whose number has wrapped around has a negative year. -/
theorem fits_of_year_nonneg (h : 0 ≤ day.date.year) : Fits32 (day.toInt + epochDayNumber) := by
  by_contra hfits
  have hday := day.fits_toInt
  have hnumber := toInt_toJulianDay_of_not_fits hfits
  have hneg : day.toJulianDay.toInt < 0 := by
    unfold Fits32 epochDayNumber at *
    omega
  have hdate : day.date < civilDate 0 := strictMono_civilDate hneg
  have hfirst : civilDate 0 = ⟨-4712, 1, 1⟩ := by decide
  rw [hfirst, CivilDate.lt_iff] at hdate
  simp only at hdate
  omega

theorem date_lt_date : a.date < b.date ↔ a.toJulianDay.toInt < b.toJulianDay.toInt :=
  strictMono_civilDate.lt_iff_lt

/-- Days whose numbers fit have dates in the same order. -/
theorem date_le_date (ha : Fits32 (a.toInt + epochDayNumber))
    (hb : Fits32 (b.toInt + epochDayNumber)) : a.date ≤ b.date ↔ a ≤ b := by
  have hdate : a.date ≤ b.date ↔ a.toJulianDay.toInt ≤ b.toJulianDay.toInt :=
    strictMono_civilDate.le_iff_le
  rw [hdate, toInt_toJulianDay ha, toInt_toJulianDay hb, le_iff]
  omega

/-- The later of two days has the later date, exactly if the day numbers of both fit in 32 bits or
    neither does. -/
theorem date_lt_date_iff (h : a < b) : a.date < b.date ↔
    (Fits32 (a.toInt + epochDayNumber) ↔ Fits32 (b.toInt + epochDayNumber)) := by
  rw [date_lt_date]
  by_cases ha : Fits32 (a.toInt + epochDayNumber)
  · rw [toInt_toJulianDay ha]
    by_cases hb : Fits32 (b.toInt + epochDayNumber)
    · rw [lt_iff] at h
      rw [toInt_toJulianDay hb]
      exact iff_of_true (by omega) (iff_of_true ha hb)
    · -- the later day has wrapped around to before all days whose numbers fit
      have hfirst := a.fits_toInt
      have hlast := b.fits_toInt
      rw [toInt_toJulianDay_of_not_fits hb]
      refine iff_of_false ?_ fun hiff => hb (hiff.1 ha)
      unfold Fits32 at *
      omega
  · have hb : ¬ Fits32 (b.toInt + epochDayNumber) := fun hb => lt_asymm h (lt_of_not_fits hb ha)
    rw [lt_iff] at h
    rw [toInt_toJulianDay_of_not_fits ha, toInt_toJulianDay_of_not_fits hb]
    exact iff_of_true (by omega) (iff_of_false ha hb)

/-- The change of calendar, and two days whose day numbers have both wrapped around. -/
theorem date_lt_date_iff_change :
    (ofInt (-141428) < ofInt (-141427) ∧ (ofInt (-141428)).date = ⟨1582, 10, 4⟩ ∧
      (ofInt (-141427)).date = ⟨1582, 10, 15⟩ ∧ (ofInt (-141428)).date < (ofInt (-141427)).date) ∧
    (ofInt 2145043060 < ofInt 2147483647 ∧
      (ofInt 2145043060).date < (ofInt 2147483647).date) := by
  have hchange : ofInt (-141428) < ofInt (-141427) := by decide
  have hwrapped : ofInt 2145043060 < ofInt 2147483647 := by decide
  exact ⟨⟨hchange, by decide, by decide, (date_lt_date_iff hchange).2 (by decide)⟩,
    hwrapped, (date_lt_date_iff hwrapped).2 (by decide)⟩

/-- The last day whose day number fits, and the day after it. -/
theorem date_wrapsAround :
    (ofInt 2145043059 < ofInt 2145043060 ∧ (ofInt 2145043059).date = ⟨5874898, 6, 3⟩ ∧
      (ofInt 2145043060).date = ⟨-5884202, 3, 16⟩) ∧
    ¬ ∀ a b : EpochDay, a < b → a.date < b.date := by
  refine ⟨by decide, fun horder => ?_⟩
  have hdate : (ofInt 2145043059).date < (ofInt 2145043060).date := horder _ _ (by decide)
  exact absurd hdate (by decide)

end EpochDay

end CivilTime
