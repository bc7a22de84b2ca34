import CivilTime.Calendar.Truncation
import CivilTime.Proofs.Calendar.Carry
import CivilTime.Proofs.Timestamp
import Mathlib.Order.Bounds.Defs

/-!
# The nearest starts of years and months

A day or a moment is moved down to the last start of a year or month that is not after it, and up to
the first one that is not before it. Dates have such neighbours by their order alone; days have
those of their dates as long as their day numbers do not wrap around.

* `CivilDate.le_startOf_iff`, `CivilDate.nextStart_le_iff`: no start of a unit lies between that of
  a date and the next one.
* `CivilDate.IsLegal.startOf_bounds`: both are at most 366 days away.
* `isGreatest_startOf`, `isLeast_nextStart`: the starts next to a day are those of its date.
* `startOfUnit_floor`, `startOfUnit_ceil`: a moment of a day is moved to one of them.
* `truncate_isNearest`: the same for days and for moments.
-/

namespace CivilTime

/-! ## Starts in the order of dates -/

namespace CivilDate

/-- The date is the first day of a year or a month. -/
def StartsUnit (unit : TimeUnit) (date : CivilDate) : Prop :=
  match unit with
  | .year => date.month = 1 ∧ date.day = 1
  | .month => date.day = 1
  | _ => False

/-- The first day of the year or the month of a date. -/
def startOf (unit : TimeUnit) (date : CivilDate) : CivilDate :=
  match unit with
  | .year => ⟨date.year, 1, 1⟩
  | .month => ⟨date.year, date.month, 1⟩
  | _ => date

/-- The first day of the year or the month after that of a date. -/
def nextStart (unit : TimeUnit) (date : CivilDate) : CivilDate :=
  match unit with
  | .year => ⟨date.year + 1, 1, 1⟩
  | .month => if date.month < 12 then ⟨date.year, date.month + 1, 1⟩ else ⟨date.year + 1, 1, 1⟩
  | _ => date

variable {unit : TimeUnit} {date start : CivilDate}

theorem IsLegal.bounds (h : date.IsLegal) :
    1 ≤ date.month ∧ date.month ≤ 12 ∧ 1 ≤ date.day := by
  have hmonth := IsLegalDate.month_bounds h
  have hday : (1 : Int) ≤ date.day := h.1
  omega

theorem isLegal_first (year : Int) {month : Nat} (h : 1 ≤ month ∧ month ≤ 12) :
    IsLegal ⟨year, month, 1⟩ :=
  isLegalDate_first year (by dsimp only; omega)

theorem startsUnit_startOf (hunit : unit.IsCalendarUnit) :
    (date.startOf unit).StartsUnit unit := by
  rcases hunit with rfl | rfl
  · exact ⟨rfl, rfl⟩
  · rfl

theorem startsUnit_nextStart (hunit : unit.IsCalendarUnit) :
    (date.nextStart unit).StartsUnit unit := by
  rcases hunit with rfl | rfl
  · exact ⟨rfl, rfl⟩
  · unfold nextStart StartsUnit
    split_ifs <;> rfl

theorem IsLegal.startOf (h : date.IsLegal) (hunit : unit.IsCalendarUnit) :
    (date.startOf unit).IsLegal := by
  have hbounds := h.bounds
  rcases hunit with rfl | rfl
  · exact isLegal_first date.year (by decide)
  · exact isLegal_first date.year (by omega)

theorem isLegal_nextStart (date : CivilDate) (hunit : unit.IsCalendarUnit) :
    (date.nextStart unit).IsLegal := by
  rcases hunit with rfl | rfl
  · exact isLegal_first (date.year + 1) (by decide)
  · unfold nextStart
    split_ifs
    · exact isLegal_first date.year (by omega)
    · exact isLegal_first (date.year + 1) (by decide)

theorem startOf_eq_self (hunit : unit.IsCalendarUnit) (hstart : date.StartsUnit unit) :
    date.startOf unit = date := by
  cases date
  rcases hunit with rfl | rfl
  · obtain ⟨hmonth, hday⟩ := hstart
    simp only [CivilDate.startOf, mk.injEq, true_and]
    exact ⟨hmonth.symm, hday.symm⟩
  · have hday : _ = 1 := hstart
    simp only [CivilDate.startOf, mk.injEq, true_and]
    exact hday.symm

/-- A start of a unit is not after a date if it is not after the start of the date's own unit. -/
theorem le_startOf_iff (hunit : unit.IsCalendarUnit) (hdate : date.IsLegal) (hlegal : start.IsLegal)
    (hstart : start.StartsUnit unit) : start ≤ date.startOf unit ↔ start ≤ date := by
  have hbounds := hdate.bounds
  have hlater := hlegal.bounds
  rw [le_iff, le_iff]
  rcases hunit with rfl | rfl
  · obtain ⟨hmonth, hday⟩ := hstart
    simp only [CivilDate.startOf]
    omega
  · have hday : start.day = 1 := hstart
    simp only [CivilDate.startOf]
    omega

/-- A start of a unit is after a date if it is not before the start of the unit after the
    date's. -/
theorem nextStart_le_iff (hunit : unit.IsCalendarUnit) (hdate : date.IsLegal)
    (hlegal : start.IsLegal) (hstart : start.StartsUnit unit) :
    date.nextStart unit ≤ start ↔ date < start := by
  have hbounds := hdate.bounds
  have hlater := hlegal.bounds
  rw [le_iff, lt_iff]
  rcases hunit with rfl | rfl
  · obtain ⟨hmonth, hday⟩ := hstart
    simp only [CivilDate.nextStart]
    omega
  · have hday : start.day = 1 := hstart
    unfold CivilDate.nextStart
    split_ifs <;> dsimp only <;> omega

/-! ## Distances -/

/-- A year has at most 366 days, in the year of the change of calendar too. -/
theorem dayNumber_nextYear_le (year : Int) :
    CivilTime.dayNumber (year + 1) 1 1 ≤ CivilTime.dayNumber year 1 1 + 366 := by
  have hshift : marchShift 1 = 1 := rfl
  have hbefore : daysBeforeMonth (marchMonth 1) = 306 := rfl
  simp only [CivilTime.dayNumber, gregorianDayNumber, julianDayNumber, marchYear, hshift, hbefore]
  unfold firstGregorianDay
  split_ifs <;> omega

/-- The start of a month is in its year, and the next month starts at the end of the year at the
    latest. -/
theorem IsLegal.startOf_year_le (h : date.IsLegal) (hunit : unit.IsCalendarUnit) :
    date.startOf .year ≤ date.startOf unit ∧ date.nextStart unit ≤ date.nextStart .year := by
  have hbounds := h.bounds
  rcases hunit with rfl | rfl
  · exact ⟨le_rfl, le_rfl⟩
  · constructor
    · rw [le_iff]
      exact .inr ⟨rfl, by simp only [CivilDate.startOf]; omega⟩
    · rw [le_iff]
      unfold nextStart
      split_ifs
      · exact .inl (Int.lt_succ _)
      · exact .inr ⟨rfl, .inr ⟨rfl, le_rfl⟩⟩

/-- The starts of the units of a date and after it are at most 366 days away. -/
theorem IsLegal.startOf_bounds (h : date.IsLegal) (hunit : unit.IsCalendarUnit) :
    date.dayNumber - 366 < (date.startOf unit).dayNumber ∧
      (date.nextStart unit).dayNumber ≤ date.dayNumber + 366 := by
  have hyear : TimeUnit.year.IsCalendarUnit := .inl rfl
  have hfirst := h.startOf hyear
  have hnext := date.isLegal_nextStart hyear
  obtain ⟨hstart, hend⟩ := h.startOf_year_le hunit
  rw [← hfirst.dayNumber_le_dayNumber (h.startOf hunit)] at hstart
  rw [← (date.isLegal_nextStart hunit).dayNumber_le_dayNumber hnext] at hend
  have hle : (date.startOf .year).dayNumber ≤ date.dayNumber := by
    rw [hfirst.dayNumber_le_dayNumber h]
    exact (le_startOf_iff hyear h hfirst (startsUnit_startOf hyear)).1 le_rfl
  have hlt : date.dayNumber < (date.nextStart .year).dayNumber := by
    rw [h.dayNumber_lt_dayNumber hnext]
    exact (nextStart_le_iff hyear h hnext (startsUnit_nextStart hyear)).1 le_rfl
  have hlength : (date.nextStart .year).dayNumber ≤ (date.startOf .year).dayNumber + 366 :=
    dayNumber_nextYear_le date.year
  omega

end CivilDate

/-! ## Days -/

/-- The day has the date of a first day of a year or a month. -/
def EpochDay.StartsUnit (unit : TimeUnit) (day : EpochDay) : Prop := day.date.StartsUnit unit

/-- The moment is the midnight of a first day of a year or a month. -/
def Timestamp.StartsUnit (unit : TimeUnit) (moment : Timestamp) : Prop :=
  ∃ day : EpochDay, day.StartsUnit unit ∧ day.midnight = moment

/-- A count of days that is a year away from the ends of the range in which day numbers fit. -/
def IsInnerCount (n : Int) : Prop :=
  -2147483648 + 366 ≤ n ∧ n ≤ 2147483647 - epochDayNumber - 366

instance (n : Int) : Decidable (IsInnerCount n) := inferInstanceAs (Decidable (_ ∧ _))

theorem IsInnerCount.fits {n : Int} (h : IsInnerCount n) : Fits32 n := by
  unfold IsInnerCount Fits32 epochDayNumber at *
  omega

theorem IsInnerCount.fits_dayNumber {n : Int} (h : IsInnerCount n) :
    Fits32 (n + epochDayNumber) := by
  unfold IsInnerCount Fits32 epochDayNumber at *
  omega

section
variable {unit : TimeUnit} {day : EpochDay}

/-- Month thirteen is January of the next year. -/
theorem dayNumber_monthThirteen (year : Int) : dayNumber year 13 1 = dayNumber (year + 1) 1 1 :=
  dayNumber_add_years year 1 1 (by decide) (by decide)

theorem startOfUnit_floor_eq (hunit : unit.IsCalendarUnit) (past : Bool) :
    startOfUnit .floor unit day past = .ok (day.date.startOf unit).toEpochDay := by
  rcases hunit with rfl | rfl
  · simp only [startOfUnit, Direction.step, Int.add_zero]
    rfl
  · simp only [startOfUnit, Direction.step, Int.add_zero]
    rfl

theorem Direction.step_ceil (past : Bool) : Direction.ceil.step past = if past then 1 else 0 := by
  cases past <;> rfl

/-- A moment is moved up to the start of the next unit, unless it is the midnight of a start. -/
theorem startOfUnit_ceil_eq (day : EpochDay) (hunit : unit.IsCalendarUnit) (past : Bool) :
    (day.StartsUnit unit ∧ past = false ∧ startOfUnit .ceil unit day past = .ok day) ∨
      ((day.StartsUnit unit → past = true) ∧
        startOfUnit .ceil unit day past = .ok (day.date.nextStart unit).toEpochDay) := by
  have hbounds := day.date_isLegal.bounds
  have hself : day.StartsUnit unit → (day.date.startOf unit).toEpochDay = day := by
    intro hstart
    rw [CivilDate.startOf_eq_self hunit hstart]
    exact day.toEpochDay_date
  rcases hunit with rfl | rfl
  · simp only [startOfUnit, Direction.step_ceil, Bool.or_eq_true, decide_eq_true_eq]
    split_ifs with hpast
    · refine .inr ⟨fun hstart => ?_, rfl⟩
      obtain ⟨hmonth, hday⟩ : day.date.month = 1 ∧ day.date.day = 1 := hstart
      simpa [hmonth, hday] using hpast
    · have hstart : day.date.month = 1 ∧ day.date.day = 1 := by omega
      refine .inl ⟨hstart, by simpa using mt .inr hpast, ?_⟩
      rw [Int.add_zero]
      exact congrArg Except.ok (hself hstart)
  · simp only [startOfUnit, Direction.step_ceil, Bool.or_eq_true, decide_eq_true_eq]
    split_ifs with hpast
    · refine .inr ⟨fun hstart => ?_, ?_⟩
      · have hday : day.date.day = 1 := hstart
        simpa [hday] using hpast
      · unfold CivilDate.nextStart
        split_ifs with hlast
        · rfl
        · have hmonth : day.date.month = 12 := by omega
          rw [hmonth]
          exact congrArg (Except.ok ∘ EpochDay.ofJulianDay ∘ JulianDay.ofInt)
            (dayNumber_monthThirteen day.date.year)
    · have hstart : day.date.day = 1 := by omega
      refine .inl ⟨hstart, by simpa using mt .inr hpast, ?_⟩
      rw [Int.add_zero]
      exact congrArg Except.ok (hself hstart)

/-- A date at most 366 days from an inner day is the date of its own day, which has not wrapped
    around. -/
theorem date_toEpochDay_of_near (h : IsInnerCount day.toInt) {date : CivilDate}
    (hlegal : date.IsLegal) (hafter : day.date.dayNumber - 366 ≤ date.dayNumber)
    (hbefore : date.dayNumber ≤ day.date.dayNumber + 366) :
    date.toEpochDay.date = date ∧ Fits32 (date.toEpochDay.toInt + epochDayNumber) := by
  have hnumber : day.date.dayNumber = day.toInt + epochDayNumber := by
    rw [← EpochDay.toInt_toJulianDay h.fits_dayNumber]
    exact day.toJulianDay.dayNumber_date
  have hjulian : date.toJulianDay.toInt = date.dayNumber := by
    apply JulianDay.toInt_ofInt
    unfold IsInnerCount Fits32 epochDayNumber at *
    show _ ≤ date.dayNumber ∧ date.dayNumber ≤ _
    omega
  have hcount : date.toEpochDay.toInt = date.dayNumber - epochDayNumber := by
    rw [← hjulian]
    apply EpochDay.toInt_ofInt
    show Fits32 (date.toJulianDay.toInt - epochDayNumber)
    rw [hjulian]
    unfold IsInnerCount Fits32 epochDayNumber at *
    omega
  have hfits : Fits32 date.dayNumber := by
    rw [← hjulian]
    exact date.toJulianDay.fits_toInt
  refine ⟨hlegal.date_toEpochDay hfits, ?_⟩
  rwa [hcount, Int.sub_add_cancel]

/-- The first day of the unit of a day is the last start that is not after the day. -/
theorem isGreatest_startOf (hunit : unit.IsCalendarUnit) (h : IsInnerCount day.toInt) :
    IsGreatest {other | other.StartsUnit unit ∧ other ≤ day}
      (day.date.startOf unit).toEpochDay := by
  have hdate := day.date_isLegal
  have hday := h.fits_dayNumber
  have hlegal := hdate.startOf hunit
  have hstarts : (day.date.startOf unit).StartsUnit unit := CivilDate.startsUnit_startOf hunit
  have hle : day.date.startOf unit ≤ day.date :=
    (CivilDate.le_startOf_iff hunit hdate hlegal hstarts).1 le_rfl
  have hnear := (hdate.startOf_bounds hunit).1
  have hnumber := (hlegal.dayNumber_le_dayNumber hdate).2 hle
  obtain ⟨hstart, hfits⟩ := date_toEpochDay_of_near h hlegal (by omega) (by omega)
  refine ⟨⟨?_, ?_⟩, ?_⟩
  · rwa [EpochDay.StartsUnit, hstart]
  · rwa [← EpochDay.date_le_date hfits hday, hstart]
  · rintro other ⟨hother, hbefore⟩
    have hotherFits : Fits32 (other.toInt + epochDayNumber) := by
      by_contra hwrapped
      exact not_lt.2 hbefore (EpochDay.lt_of_not_fits hday hwrapped)
    rw [← EpochDay.date_le_date hotherFits hfits, hstart,
      CivilDate.le_startOf_iff hunit hdate other.date_isLegal hother,
      EpochDay.date_le_date hotherFits hday]
    exact hbefore

/-- The first day of the unit after that of a day is the first start that is after the day. -/
theorem isLeast_nextStart (hunit : unit.IsCalendarUnit) (h : IsInnerCount day.toInt) :
    IsLeast {other | other.StartsUnit unit ∧ day < other}
      (day.date.nextStart unit).toEpochDay := by
  have hdate := day.date_isLegal
  have hday := h.fits_dayNumber
  have hlegal := day.date.isLegal_nextStart hunit
  have hstarts : (day.date.nextStart unit).StartsUnit unit :=
    CivilDate.startsUnit_nextStart hunit
  have hlt : day.date < day.date.nextStart unit :=
    (CivilDate.nextStart_le_iff hunit hdate hlegal hstarts).1 le_rfl
  have hnear := (hdate.startOf_bounds hunit).2
  have hnumber := (hdate.dayNumber_lt_dayNumber hlegal).2 hlt
  obtain ⟨hstart, hfits⟩ := date_toEpochDay_of_near h hlegal (by omega) (by omega)
  refine ⟨⟨?_, ?_⟩, ?_⟩
  · rwa [EpochDay.StartsUnit, hstart]
  · rwa [← not_le, ← EpochDay.date_le_date hfits hday, hstart, not_le]
  · rintro other ⟨hother, hafter⟩
    by_cases hotherFits : Fits32 (other.toInt + epochDayNumber)
    · rw [← EpochDay.date_le_date hfits hotherFits, hstart,
        CivilDate.nextStart_le_iff hunit hdate other.date_isLegal hother, ← not_le,
        EpochDay.date_le_date hotherFits hday, not_le]
      exact hafter
    · exact (EpochDay.lt_of_not_fits hfits hotherFits).le

/-- Whether or not it is the midnight of its day, a moment is moved down to the last start that is
    not after its day. -/
theorem startOfUnit_floor (hunit : unit.IsCalendarUnit) (h : IsInnerCount day.toInt)
    (past : Bool) : ∃ start, startOfUnit .floor unit day past = .ok start ∧
      IsGreatest {other | other.StartsUnit unit ∧ other ≤ day} start :=
  ⟨_, startOfUnit_floor_eq hunit past, isGreatest_startOf hunit h⟩

/-- A moment is moved up to the first start of a unit that is after its day, or that is its day if
    the moment is a midnight. -/
theorem startOfUnit_ceil (hunit : unit.IsCalendarUnit) (h : IsInnerCount day.toInt)
    (past : Bool) : ∃ start, startOfUnit .ceil unit day past = .ok start ∧
      IsLeast {other | other.StartsUnit unit ∧ if past then day < other else day ≤ other}
        start := by
  rcases startOfUnit_ceil_eq day hunit past with ⟨hstarts, rfl, heq⟩ | ⟨hpast, heq⟩
  · refine ⟨day, heq, ⟨hstarts, ?_⟩, ?_⟩
    · simp
    · rintro other ⟨-, hafter⟩
      simpa using hafter
  · obtain ⟨⟨hstarts, hafter⟩, hleast⟩ := isLeast_nextStart hunit h
    refine ⟨_, heq, ⟨hstarts, ?_⟩, ?_⟩
    · split_ifs
      · exact hafter
      · exact hafter.le
    · rintro other ⟨hother, hotherAfter⟩
      refine hleast ⟨hother, ?_⟩
      split_ifs at hotherAfter with hmidnight
      · exact hotherAfter
      · refine lt_of_le_of_ne hotherAfter ?_
        rintro rfl
        exact hmidnight (hpast hother)

end

/-! ## Moments -/

section
variable {unit : TimeUnit} {moment : Timestamp}

theorem floor_isGreatest (hunit : unit.IsCalendarUnit)
    (h : IsInnerCount (moment.toInt / msPerDay)) : ∃ start, moment.floor unit = .ok start ∧
      IsGreatest {other | other.StartsUnit unit ∧ other ≤ moment} start := by
  have hday := h
  rw [← Timestamp.toInt_date h.fits] at hday
  obtain ⟨start, heq, ⟨hstarts, hle⟩, hgreatest⟩ :=
    startOfUnit_floor hunit hday (moment.timeOfDay != .midnight)
  refine ⟨start.midnight, ?_, ⟨⟨start, hstarts, rfl⟩, ?_⟩, ?_⟩
  · rw [Timestamp.floor, Timestamp.truncate, heq]
    rfl
  · exact (Timestamp.midnight_le_iff h.fits).2 hle
  · rintro _ ⟨⟨other, hother, rfl⟩, hbefore⟩
    exact Timestamp.midnight_le_midnight.2
      (hgreatest ⟨hother, (Timestamp.midnight_le_iff h.fits).1 hbefore⟩)

theorem ceil_isLeast (hunit : unit.IsCalendarUnit)
    (h : IsInnerCount (moment.toInt / msPerDay)) : ∃ start, moment.ceil unit = .ok start ∧
      IsLeast {other | other.StartsUnit unit ∧ moment ≤ other} start := by
  have hday := h
  rw [← Timestamp.toInt_date h.fits] at hday
  obtain ⟨start, heq, ⟨hstarts, hle⟩, hleast⟩ :=
    startOfUnit_ceil hunit hday (moment.timeOfDay != .midnight)
  refine ⟨start.midnight, ?_, ⟨⟨start, hstarts, rfl⟩, ?_⟩, ?_⟩
  · rw [Timestamp.ceil, Timestamp.truncate, heq]
    rfl
  · exact (Timestamp.le_midnight_iff h.fits).2 hle
  · rintro _ ⟨⟨other, hother, rfl⟩, hafter⟩
    exact Timestamp.midnight_le_midnight.2
      (hleast ⟨hother, (Timestamp.le_midnight_iff h.fits).1 hafter⟩)

/-- Days and moments at least a year away from the ends of the range are moved down to the last
    start of a year or month that is not after them, and up to the first one that is not before
    them. -/
theorem truncate_isNearest (hunit : unit.IsCalendarUnit) :
    (∀ day : EpochDay, IsInnerCount day.toInt →
      (∃ start, day.floor unit = .ok start ∧
        IsGreatest {other | other.StartsUnit unit ∧ other ≤ day} start) ∧
      ∃ start, day.ceil unit = .ok start ∧
        IsLeast {other | other.StartsUnit unit ∧ day ≤ other} start) ∧
    ∀ moment : Timestamp, IsInnerCount (moment.toInt / msPerDay) →
      (∃ start, moment.floor unit = .ok start ∧
        IsGreatest {other | other.StartsUnit unit ∧ other ≤ moment} start) ∧
      ∃ start, moment.ceil unit = .ok start ∧
        IsLeast {other | other.StartsUnit unit ∧ moment ≤ other} start := by
  constructor
  · intro day h
    exact ⟨startOfUnit_floor hunit h false, startOfUnit_ceil hunit h false⟩
  · intro moment h
    exact ⟨floor_isGreatest hunit h, ceil_isLeast hunit h⟩

end

/-- The last day of the Julian calendar is moved up over the days that are skipped, and the last
    millisecond before 1970 down to the start of its year. -/
theorem truncate_isNearest_change :
    (TimeUnit.month.IsCalendarUnit ∧ IsInnerCount (EpochDay.ofInt (-141428)).toInt ∧
      (EpochDay.ofInt (-141428)).ceil .month = .ok (EpochDay.ofInt (-141410)) ∧
      IsLeast {other | other.StartsUnit .month ∧ EpochDay.ofInt (-141428) ≤ other}
        (EpochDay.ofInt (-141410))) ∧
    TimeUnit.year.IsCalendarUnit ∧ IsInnerCount ((Timestamp.ofInt (-1)).toInt / msPerDay) ∧
      (Timestamp.ofInt (-1)).floor .year = .ok (Timestamp.ofInt (-31536000000)) ∧
      IsGreatest {other | other.StartsUnit .year ∧ other ≤ Timestamp.ofInt (-1)}
        (Timestamp.ofInt (-31536000000)) := by
  have hmonth : TimeUnit.month.IsCalendarUnit := .inr rfl
  have hyear : TimeUnit.year.IsCalendarUnit := .inl rfl
  have hday : IsInnerCount (EpochDay.ofInt (-141428)).toInt := by decide
  have hmoment : IsInnerCount ((Timestamp.ofInt (-1)).toInt / msPerDay) := by decide
  have hceil : (EpochDay.ofInt (-141428)).ceil .month = .ok (EpochDay.ofInt (-141410)) := by decide
  have hfloor : (Timestamp.ofInt (-1)).floor .year = .ok (Timestamp.ofInt (-31536000000)) := by
    decide
  obtain ⟨-, next, hnext, hleast⟩ := (truncate_isNearest hmonth).1 _ hday
  obtain ⟨⟨start, hstart, hgreatest⟩, -⟩ := (truncate_isNearest hyear).2 _ hmoment
  obtain rfl := Except.ok.inj (hnext.symm.trans hceil)
  obtain rfl := Except.ok.inj (hstart.symm.trans hfloor)
  exact ⟨⟨hmonth, hday, hceil, hleast⟩, hyear, hmoment, hfloor, hgreatest⟩

end CivilTime
