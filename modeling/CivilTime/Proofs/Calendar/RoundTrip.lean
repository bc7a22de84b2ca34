import CivilTime.Calendar.Day
import CivilTime.Proofs.Calendar.Rules

/-!
# Dates and day numbers

Every day number has a legal date, and every legal date has one day number. The two directions
agree: both read a date in the Gregorian calendar from the fifteenth of October 1582 on and in the
Julian calendar before.

* `Calendar.ofDate`, `Calendar.ofDay`: the calendar that a date and a day number belong to.
* `IsLegalDate.dayNumber_spec`: in which calendar a legal date is counted.
* `IsLegalDate.civilDate_dayNumber`: a legal date is decoded from its number.
* `civilDate_spec`: the decoded date is legal and has the number it was decoded from.
* `JulianDay.date_roundTrip`: the same for days of 32 bits.
-/

namespace CivilTime

/-! ## The change of calendar -/

/-- The date is the fifteenth of October 1582 or a later one. -/
def IsGregorianDate (year month day : Int) : Prop :=
  1582 < year ∨ year = 1582 ∧ (10 < month ∨ month = 10 ∧ 15 ≤ day)

instance (year month day : Int) : Decidable (IsGregorianDate year month day) :=
  inferInstanceAs (Decidable (_ ∨ _))

namespace Calendar

/-- The calendar that a date belongs to. -/
def ofDate (year month day : Int) : Calendar :=
  if IsGregorianDate year month day then gregorian else julian

/-- The calendar that a day number belongs to. -/
def ofDay (n : Int) : Calendar := if firstGregorianDay ≤ n then gregorian else julian

theorem follows_ofDate (year month day : Int) : (ofDate year month day).Follows year month := by
  rintro rfl
  unfold ofDate IsLeapYear
  split_ifs with hg <;> unfold IsGregorianDate at hg
  · simp only [gregorian]
    omega
  · simp only [julian]
    omega

variable (year : Int) {month day : Int}

/-- The change of calendar comes 217 days after the first of March 1582 and skips ten days. -/
theorem march_of_change (hmonth : 1 ≤ month ∧ month ≤ 12) (hday : 1 ≤ day ∧ day ≤ 31) :
    (IsGregorianDate year month day ↔
      6382 < marchYear year month ∨ marchYear year month = 6382 ∧ 228 ≤ marchDay month day) ∧
    (IsSkippedDate year month day ↔ marchYear year month = 6382 ∧
      218 ≤ marchDay month day ∧ marchDay month day ≤ 227) := by
  unfold IsGregorianDate IsSkippedDate marchYear marchDay marchMonth daysBeforeMonth
  rw [marchShift_eq hmonth]
  have hoctober : month ≤ 9 ∨ month = 10 ∨ 11 ≤ month := by omega
  split_ifs
  · omega
  · rcases hoctober with h9 | rfl | h11 <;> omega

theorem firstGregorianDay_le_encode (h : 0 ≤ marchDay month day ∧ marchDay month day ≤ 365) :
    firstGregorianDay ≤ gregorian.encode year month day ↔
      6382 < marchYear year month ∨ marchYear year month = 6382 ∧ 228 ≤ marchDay month day := by
  have hnumber := gregorian.encode_eq year month day
  simp only [gregorian, gregorianYearStart] at hnumber ⊢
  unfold firstGregorianDay
  omega

theorem encode_lt_firstGregorianDay (h : 0 ≤ marchDay month day ∧ marchDay month day ≤ 365) :
    julian.encode year month day < firstGregorianDay ↔
      marchYear year month < 6382 ∨ marchYear year month = 6382 ∧ marchDay month day ≤ 217 := by
  have hnumber := julian.encode_eq year month day
  simp only [julian] at hnumber ⊢
  unfold firstGregorianDay
  omega

end Calendar

/-! ## Decoding an encoded date -/

section
variable {year month day : Int}

/-- A legal date is counted in the calendar it belongs to, although the choice is made by the
    Gregorian number. -/
theorem IsLegalDate.dayNumber_spec (h : IsLegalDate year month day) :
    dayNumber year month day = (Calendar.ofDate year month day).encode year month day ∧
      Calendar.ofDay (dayNumber year month day) = Calendar.ofDate year month day := by
  obtain ⟨h0, h365, -⟩ := marchDay_bounds h
  obtain ⟨hdate, hskip⟩ := Calendar.march_of_change year h.month_bounds ⟨h.1, h.day_le⟩
  have hgregorian := Calendar.firstGregorianDay_le_encode year ⟨h0, h365⟩
  have hjulian := Calendar.encode_lt_firstGregorianDay year ⟨h0, h365⟩
  rw [← hdate] at hgregorian
  have hskipped : ¬ IsSkippedDate year month day := h.2.2
  rw [hskip] at hskipped
  simp only [Calendar.gregorian, Calendar.julian] at hgregorian hjulian
  unfold Calendar.ofDate Calendar.ofDay dayNumber
  by_cases hg : IsGregorianDate year month day
  · have hfirst := hgregorian.2 hg
    rw [if_neg (by omega), if_pos hg, if_pos hfirst]
    exact ⟨rfl, rfl⟩
  · have hfirst : ¬ firstGregorianDay ≤ gregorianDayNumber year month day := mt hgregorian.1 hg
    have hmarch := mt hdate.2 hg
    have hlast : julianDayNumber year month day < firstGregorianDay := hjulian.2 (by omega)
    rw [if_pos (by omega), if_neg hg, if_neg (by omega)]
    exact ⟨rfl, rfl⟩

theorem civilDate_eq (n : Int) : civilDate n = (Calendar.ofDay n).decode n := by
  unfold civilDate Calendar.ofDay
  split_ifs
  · rfl
  · rfl

theorem IsLegalDate.civilDate_dayNumber (h : IsLegalDate year month day) :
    civilDate (dayNumber year month day) = ⟨year, month.toNat, day.toNat⟩ := by
  obtain ⟨hnumber, hcalendar⟩ := h.dayNumber_spec
  rw [civilDate_eq, hcalendar, hnumber]
  exact Calendar.decode_encode h (Calendar.follows_ofDate year month day)

end

/-! ## Encoding a decoded date -/

namespace CivilDate

/-- The day number of a date. -/
def dayNumber (date : CivilDate) : Int := CivilTime.dayNumber date.year date.month date.day

/-- The calendar that a date belongs to. -/
def calendar (date : CivilDate) : Calendar := Calendar.ofDate date.year date.month date.day

theorem IsLegal.dayNumber_eq {date : CivilDate} (h : date.IsLegal) :
    date.dayNumber = date.calendar.encode date.year date.month date.day :=
  (IsLegalDate.dayNumber_spec h).1

theorem IsLegal.civilDate_dayNumber {date : CivilDate} (h : date.IsLegal) :
    civilDate date.dayNumber = date :=
  IsLegalDate.civilDate_dayNumber h

end CivilDate

/-- A date belongs to the calendar that it is decoded with, and is not skipped. -/
theorem calendar_civilDate (n : Int) : (civilDate n).calendar = Calendar.ofDay n ∧
    ¬ IsSkippedDate (civilDate n).year (civilDate n).month (civilDate n).day := by
  obtain ⟨hnumber, hmonth, hday, hmarch⟩ := (Calendar.ofDay n).decode_spec n
  rw [civilDate_eq, CivilDate.calendar]
  generalize (Calendar.ofDay n).decode n = date at *
  obtain ⟨hdate, hskip⟩ := Calendar.march_of_change date.year
    (show 1 ≤ (date.month : Int) ∧ _ ≤ 12 by omega) (show 1 ≤ (date.day : Int) ∧ _ ≤ 31 by omega)
  rw [hskip]
  unfold Calendar.ofDay at *
  by_cases hn : firstGregorianDay ≤ n
  · rw [if_pos hn] at *
    have hfirst := Calendar.firstGregorianDay_le_encode date.year hmarch
    rw [hnumber] at hfirst
    exact ⟨if_pos (hdate.2 (hfirst.1 hn)), by omega⟩
  · rw [if_neg hn] at *
    have hlast := Calendar.encode_lt_firstGregorianDay date.year hmarch
    rw [hnumber] at hlast
    exact ⟨if_neg (mt hdate.1 (by omega)), by omega⟩

theorem civilDate_spec (n : Int) : (civilDate n).IsLegal ∧ (civilDate n).dayNumber = n := by
  obtain ⟨hcalendar, hskipped⟩ := calendar_civilDate n
  have hday := civilDate_bounds n
  have hlegal : (civilDate n).IsLegal := by
    refine ⟨by omega, ?_, hskipped⟩
    have hfollows := Calendar.follows_ofDate (civilDate n).year (civilDate n).month
      (civilDate n).day
    rw [CivilDate.calendar] at hcalendar
    rw [hcalendar] at hfollows
    rw [civilDate_eq] at hfollows ⊢
    exact Calendar.decode_day_le n hfollows
  refine ⟨hlegal, ?_⟩
  rw [hlegal.dayNumber_eq, hcalendar, civilDate_eq]
  exact ((Calendar.ofDay n).decode_spec n).1

/-! ## Days of 32 bits -/

namespace JulianDay

theorem date_isLegal (day : JulianDay) : day.date.IsLegal := (civilDate_spec day.toInt).1

theorem dayNumber_date (day : JulianDay) : day.date.dayNumber = day.toInt :=
  (civilDate_spec day.toInt).2

theorem toJulianDay_date (day : JulianDay) : day.date.toJulianDay = day := by
  apply ext
  have hnumber := day.dayNumber_date
  unfold CivilDate.dayNumber at hnumber
  rw [CivilDate.toJulianDay, ofFields, hnumber, toInt_ofInt day.fits_toInt]

theorem fits_dayNumber_date (day : JulianDay) : Fits32 day.date.dayNumber := by
  rw [dayNumber_date]
  exact day.fits_toInt

/-- The year of a day has seven digits at most. -/
theorem year_bounds (day : JulianDay) : -10000000 < day.date.year ∧ day.date.year < 10000000 := by
  have hfits := day.fits_toInt
  have hlegal : IsLegalDate _ _ _ := day.date_isLegal
  rw [← day.dayNumber_date, CivilDate.dayNumber, hlegal.dayNumber_spec.1] at hfits
  have hnumber := (Calendar.ofDate day.date.year day.date.month day.date.day).encode_eq
    day.date.year day.date.month day.date.day
  have hbounds := marchDay_bounds hlegal
  rw [hlegal.marchYear_eq] at hnumber
  unfold Calendar.ofDate Fits32 at *
  split_ifs at *
  all_goals simp only [Calendar.gregorian, Calendar.julian, Calendar.gregorianYearStart] at *
  all_goals omega

theorem date_ofFields {year month day : Int} (h : IsLegalDate year month day)
    (hfits : Fits32 (dayNumber year month day)) :
    (ofFields year month day).date = ⟨year, month.toNat, day.toNat⟩ := by
  rw [date, ofFields, toInt_ofInt hfits, h.civilDate_dayNumber]

/-- Days and legal dates correspond: the date of a day is legal and has that day, and fields are
    read back from their day exactly if they are legal and the number of the day fits in 32 bits. -/
theorem date_roundTrip :
    (∀ day : JulianDay, day.date.IsLegal ∧ day.date.toJulianDay = day) ∧
      ∀ year month day : Int,
        ((ofFields year month day).date.year = year ∧
            ((ofFields year month day).date.month : Int) = month ∧
            ((ofFields year month day).date.day : Int) = day) ↔
          IsLegalDate year month day ∧ Fits32 (dayNumber year month day) := by
  refine ⟨fun day => ⟨day.date_isLegal, day.toJulianDay_date⟩, fun year month day => ?_⟩
  constructor
  · rintro ⟨hyear, hmonth, hday⟩
    have hlegal := (ofFields year month day).date_isLegal
    have hnumber := (ofFields year month day).dayNumber_date
    unfold CivilDate.IsLegal at hlegal
    unfold CivilDate.dayNumber at hnumber
    rw [hyear, hmonth, hday] at hlegal hnumber
    rw [hnumber]
    exact ⟨hlegal, fits_toInt _⟩
  · rintro ⟨hlegal, hfits⟩
    have hmonth := hlegal.month_bounds
    have hday : 1 ≤ day := hlegal.1
    rw [date_ofFields hlegal hfits]
    dsimp only
    omega

end JulianDay

namespace EpochDay

/-- The two counts of days wrap around together. -/
theorem ofJulianDay_toJulianDay (day : EpochDay) : ofJulianDay day.toJulianDay = day := by
  apply ext
  simp only [ofJulianDay, toJulianDay, JulianDay.ofInt, JulianDay.toInt, ofInt, toInt,
    Int32.toInt_ofInt]
  rw [Int.bmod_sub_bmod, Int.add_sub_cancel]
  exact Int32.toInt_bmod day.count

theorem toJulianDay_ofJulianDay (day : JulianDay) : (ofJulianDay day).toJulianDay = day := by
  apply JulianDay.ext
  simp only [ofJulianDay, toJulianDay, JulianDay.ofInt, JulianDay.toInt, ofInt, toInt,
    Int32.toInt_ofInt]
  rw [Int.bmod_add_bmod, Int.sub_add_cancel]
  exact Int32.toInt_bmod day.count

theorem date_ofFields (year month day : Int) :
    (ofFields year month day).date = (JulianDay.ofFields year month day).date := by
  rw [date, ofFields, toJulianDay_ofJulianDay]

theorem ofFields_date (day : EpochDay) :
    ofFields day.date.year day.date.month day.date.day = day := by
  have hjulian : JulianDay.ofFields day.date.year day.date.month day.date.day = day.toJulianDay :=
    day.toJulianDay.toJulianDay_date
  rw [ofFields, hjulian, ofJulianDay_toJulianDay]

theorem toEpochDay_date (day : EpochDay) : day.date.toEpochDay = day := day.ofFields_date

theorem date_isLegal (day : EpochDay) : day.date.IsLegal := day.toJulianDay.date_isLegal

theorem year_bounds (day : EpochDay) : -10000000 < day.date.year ∧ day.date.year < 10000000 :=
  day.toJulianDay.year_bounds

end EpochDay

/-- A legal date is the date of its day, if the number of the day fits. -/
theorem CivilDate.IsLegal.date_toEpochDay {date : CivilDate} (h : date.IsLegal)
    (hfits : Fits32 date.dayNumber) : date.toEpochDay.date = date := by
  rw [toEpochDay, EpochDay.date_ofFields, JulianDay.date_ofFields h hfits]
  rfl

end CivilTime
