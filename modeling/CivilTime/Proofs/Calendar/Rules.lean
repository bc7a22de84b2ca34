import CivilTime.Proofs.Calendar.MarchYear
import Mathlib.Data.Int.ConditionallyCompleteOrder
import Mathlib.Order.Monotone.Basic

/-!
# The two calendars

The Gregorian and the Julian calendar differ in their leap years alone. Each is a `Calendar`, which
counts days and finds dates by the starts of its years; what follows from that is proved for both.

* `Calendar.decode_encode`: a legal date is found from its number, if the calendar has the leap day.
* `Calendar.decode_spec`: the date of a number has that number.
* `Calendar.encode_month_succ`, `Calendar.encode_year_succ`: the first day of a month follows the
  last one of the month before.
-/

namespace CivilTime

/-- The day number `n` is that of the day `e` of the year `y`, counted from zero. -/
structure IsDayOfYear (start : Int → Int) (n y e : Int) : Prop where
  eq : n = start y + e
  nonneg : 0 ≤ e
  lt : n < start (y + 1)

theorem IsDayOfYear.unique {start : Int → Int} (hstart : StrictMono start) {n y e y' e' : Int}
    (h : IsDayOfYear start n y e) (h' : IsDayOfYear start n y' e') : y = y' ∧ e = e' := by
  obtain ⟨heq, h0, hlt⟩ := h
  obtain ⟨heq', h0', hlt'⟩ := h'
  have hle : y < y' + 1 := hstart.lt_iff_lt.1 (by omega)
  have hge : y' < y + 1 := hstart.lt_iff_lt.1 (by omega)
  have hy : y = y' := by omega
  subst hy
  exact ⟨rfl, by omega⟩

/-- A calendar whose years, from March on, have 365 days or end with a leap day. -/
structure Calendar where
  /-- The year has a leap day. -/
  IsLeap : Int → Prop
  /-- The days from March of -4800 to the March `y` years later. -/
  yearStart : Int → Int
  /-- The days from March of -4800 to the start of the Julian period. -/
  shift : Int
  /-- The day number of a date. -/
  encode : Int → Int → Int → Int
  /-- The date with a day number. -/
  decode : Int → CivilDate
  yearStart_succ (y : Int) : IsLeap (y - 4799) ∧ yearStart (y + 1) = yearStart y + 366 ∨
    ¬ IsLeap (y - 4799) ∧ yearStart (y + 1) = yearStart y + 365
  encode_eq (year month day : Int) : encode year month day + shift =
    yearStart (marchYear year month) + marchDay month day
  exists_decode_eq (n : Int) : ∃ y e, decode n = dateOfMarchDay y e ∧
    IsDayOfYear yearStart (n + shift) y e

namespace Calendar

/-! ## The Gregorian calendar -/

/-- The days from March of -4800 to the March `y` years later, in the Gregorian calendar. -/
def gregorianYearStart (y : Int) : Int := 365 * y + y / 4 - y / 100 + y / 400

theorem gregorianYearStart_succ (y : Int) :
    gregorianYearStart (y + 1) = gregorianYearStart y +
      if (y + 1) % 4 = 0 ∧ ((y + 1) % 100 ≠ 0 ∨ (y + 1) % 400 = 0) then 366 else 365 := by
  unfold gregorianYearStart
  split_ifs <;> omega

theorem gregorianYearStart_eq {g c b a : Int} (hc : 0 ≤ c ∧ c ≤ 3) (hb : 0 ≤ b ∧ b ≤ 24)
    (ha : 0 ≤ a ∧ a ≤ 3) : gregorianYearStart (400 * g + 100 * c + 4 * b + a) =
      146097 * g + 36524 * c + 1461 * b + 365 * a := by
  unfold gregorianYearStart
  omega

theorem exists_gregorianDate_eq (n : Int) : ∃ y e, gregorianDate n = dateOfMarchDay y e ∧
    IsDayOfYear gregorianYearStart (n + 32044) y e := by
  refine ⟨_, _, rfl, ?_⟩
  have hn := Int.mul_ediv_add_emod (n + 32044) 146097
  have hr := Int.emod_nonneg (n + 32044) (show (146097 : Int) ≠ 0 by decide)
  have hr' := Int.emod_lt_of_pos (n + 32044) (show (0 : Int) < 146097 by decide)
  generalize (n + 32044) / 146097 = g at *
  generalize (n + 32044) % 146097 = r at *
  generalize hc : min (r / 36524) 3 = c at *
  generalize hb : (r - 36524 * c) / 1461 = b at *
  generalize ha : min ((r - 36524 * c) % 1461 / 365) 3 = a at *
  have hc3 : 0 ≤ c ∧ c ≤ 3 := by omega
  have hb24 : 0 ≤ b ∧ b ≤ 24 := by omega
  have ha3 : 0 ≤ a ∧ a ≤ 3 := by omega
  have hstart := gregorianYearStart_eq (g := g) hc3 hb24 ha3
  refine ⟨?_, ?_, ?_⟩
  · rw [hstart]; omega
  · omega
  · -- only the last year of a cycle has a day 365, and not in the last cycle of a common century
    have hle : r - 36524 * c - 1461 * b - 365 * a ≤ 365 := by omega
    have hlast : r - 36524 * c - 1461 * b - 365 * a = 365 → a = 3 ∧ (b ≤ 23 ∨ c = 3) := by omega
    rw [gregorianYearStart_succ, hstart]
    clear hc hb ha hr hr' hstart
    split_ifs <;> omega

/-- The Gregorian calendar. -/
def gregorian : Calendar where
  IsLeap year := year % 4 = 0 ∧ (year % 100 ≠ 0 ∨ year % 400 = 0)
  yearStart := gregorianYearStart
  shift := 32044
  encode := gregorianDayNumber
  decode := gregorianDate
  yearStart_succ y := by
    rw [gregorianYearStart_succ]
    split_ifs with hleap
    · exact .inl ⟨by omega, rfl⟩
    · exact .inr ⟨by omega, rfl⟩
  encode_eq year month day := by
    simp only [gregorianDayNumber, gregorianYearStart, marchDay]
    omega
  exists_decode_eq := exists_gregorianDate_eq

/-! ## The Julian calendar -/

/-- The Julian calendar, extended into the past. -/
def julian : Calendar where
  IsLeap year := year % 4 = 0
  yearStart y := 365 * y + y / 4
  shift := 32082
  encode := julianDayNumber
  decode := julianDate
  yearStart_succ y := by omega
  encode_eq year month day := by
    simp only [julianDayNumber, marchDay]
    omega
  exists_decode_eq n := by
    refine ⟨_, _, rfl, ?_⟩
    constructor <;> omega

/-! ## Encoding and decoding -/

variable (c : Calendar)

theorem strictMono_yearStart : StrictMono c.yearStart := by
  apply strictMono_int_of_lt_succ
  intro y
  rcases c.yearStart_succ y with ⟨-, hsucc⟩ | ⟨-, hsucc⟩ <;> omega

/-- A year has 365 days, and one more if it ends with a leap day. -/
theorem day_bounds {n y e : Int} (h : IsDayOfYear c.yearStart n y e) :
    (0 ≤ e ∧ e ≤ 365) ∧ (e = 365 → c.IsLeap (y - 4799)) := by
  obtain ⟨heq, h0, hlt⟩ := h
  rcases c.yearStart_succ y with ⟨hleap, hsucc⟩ | ⟨-, hsucc⟩
  · exact ⟨by omega, fun _ => hleap⟩
  · exact ⟨by omega, fun _ => by omega⟩

/-- The calendar has the leap day that the month may end with. -/
def Follows (year month : Int) : Prop := month = 2 → (c.IsLeap year ↔ IsLeapYear year)

variable {c} {year month day : Int}

theorem isDayOfYear_encode (h : IsLegalDate year month day) (hleap : c.Follows year month) :
    IsDayOfYear c.yearStart (c.encode year month day + c.shift) (marchYear year month)
      (marchDay month day) := by
  obtain ⟨h0, h365, hlast⟩ := marchDay_bounds h
  refine ⟨c.encode_eq year month day, h0, ?_⟩
  rw [c.encode_eq]
  rcases c.yearStart_succ (marchYear year month) with ⟨-, hsucc⟩ | ⟨hcommon, hsucc⟩
  · omega
  · have hne : marchDay month day ≠ 365 := by
      intro he
      obtain ⟨rfl, hyear⟩ := hlast he
      have hmarch : marchYear year 2 - 4799 = year := by
        rw [h.marchYear_eq, if_pos le_rfl]
        omega
      rw [hmarch] at hcommon
      exact hcommon ((hleap rfl).2 hyear)
    omega

/-- A legal date is found from its number. -/
theorem decode_encode (h : IsLegalDate year month day) (hleap : c.Follows year month) :
    c.decode (c.encode year month day) = ⟨year, month.toNat, day.toNat⟩ := by
  obtain ⟨y, e, hdate, hday⟩ := c.exists_decode_eq (c.encode year month day)
  obtain ⟨rfl, rfl⟩ := (isDayOfYear_encode h hleap).unique c.strictMono_yearStart hday
  rw [hdate, dateOfMarchDay_of_legal h]

/-- The date of a number has that number, and is a date of one of the twelve months. -/
theorem decode_spec (c : Calendar) (n : Int) :
    c.encode (c.decode n).year (c.decode n).month (c.decode n).day = n ∧
      (1 ≤ (c.decode n).month ∧ (c.decode n).month ≤ 12) ∧
      (1 ≤ (c.decode n).day ∧ (c.decode n).day ≤ 31) ∧
      0 ≤ marchDay (c.decode n).month (c.decode n).day ∧
      marchDay (c.decode n).month (c.decode n).day ≤ 365 := by
  obtain ⟨y, e, hdate, hday⟩ := c.exists_decode_eq n
  obtain ⟨he, -⟩ := c.day_bounds hday
  have hbounds := dateOfMarchDay_bounds (y := y) he.1 he.2
  have hnumber := c.encode_eq (c.decode n).year (c.decode n).month (c.decode n).day
  rw [hdate] at hnumber ⊢
  rw [(dateOfMarchDay_spec y he).1, marchDay_dateOfMarchDay y he, ← hday.eq] at hnumber
  rw [marchDay_dateOfMarchDay y he]
  omega

theorem decode_day_le (n : Int) (hleap : c.Follows (c.decode n).year (c.decode n).month) :
    (c.decode n).day ≤ daysInMonth (c.decode n).year (c.decode n).month := by
  obtain ⟨y, e, hdate, hday⟩ := c.exists_decode_eq n
  obtain ⟨he, hlast⟩ := c.day_bounds hday
  rw [hdate] at hleap ⊢
  refine dateOfMarchDay_day_le y he fun h365 => ?_
  have hyear : (dateOfMarchDay y e).year = y - 4799 := by
    simp only [dateOfMarchDay]
    omega
  have hmonth : ((dateOfMarchDay y e).month : Int) = 2 := by
    simp only [dateOfMarchDay]
    omega
  rw [hyear] at hleap
  exact (hleap hmonth).1 (hlast h365)

/-! ## The next day -/

theorem encode_day_succ (c : Calendar) (year month day : Int) :
    c.encode year month (day + 1) = c.encode year month day + 1 := by
  have hfirst := c.encode_eq year month (day + 1)
  have hlast := c.encode_eq year month day
  unfold marchDay at *
  omega

theorem encode_month_succ (h : 1 ≤ month ∧ month ≤ 11) (hleap : c.Follows year month) :
    c.encode year (month + 1) 1 = c.encode year month (daysInMonth year month) + 1 := by
  have hfirst := c.encode_eq year (month + 1) 1
  have hlast := c.encode_eq year month (daysInMonth year month)
  by_cases hm : month = 2
  · subst hm
    obtain ⟨hyear, hyear', hday, hday'⟩ := march_february_succ year
    have hmarch : marchYear year 2 - 4799 = year := by omega
    have hsucc := c.yearStart_succ (marchYear year 2)
    rw [hyear, ← hyear', hday] at hfirst
    rw [hday'] at hlast
    rw [hmarch, hleap rfl] at hsucc
    split_ifs at hlast with hyl
    · rcases hsucc with ⟨-, hsucc⟩ | ⟨hcommon, -⟩
      · omega
      · exact absurd hyl hcommon
    · rcases hsucc with ⟨hyl', -⟩ | ⟨-, hsucc⟩
      · exact absurd hyl' hyl
      · omega
  · obtain ⟨hyear, hday⟩ := march_month_succ year h hm
    rw [hyear, hday] at hfirst
    omega

theorem encode_year_succ (c : Calendar) (year : Int) :
    c.encode (year + 1) 1 1 = c.encode year 12 31 + 1 := by
  have hfirst := c.encode_eq (year + 1) 1 1
  have hlast := c.encode_eq year 12 31
  obtain ⟨hyear, hday⟩ := march_year_succ year
  rw [hyear, hday] at hfirst
  omega

end Calendar

end CivilTime
