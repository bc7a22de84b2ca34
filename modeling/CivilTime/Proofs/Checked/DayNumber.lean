import CivilTime.Proofs.Calendar.Carry
import CivilTime.Proofs.Checked

/-!
# Day numbers in words

Day numbers are computed in words of 64 bits, and dates are stored in narrower ones. From fields and
numbers of 32 bits no step leaves its range, so that both are the exact ones.

* `marchMonth_bounds`, `marchYear_bounds`: how far from a March the fields of a date can be.
* `Checked.dayNumber_ofInt`: the number of a date.
* `Checked.gregorianOfMarchDay_ofInt`, `Checked.julianOfMarchDay_ofInt`: both calendars find the
  same date in a year.
* `Checked.gregorianDate_ofInt`, `Checked.julianDate_ofInt`: the date with a number.
-/

namespace CivilTime

variable {year month day n : Int}

/-! ## Ranges -/

/-- A month comes at most 22 months after the March that it is counted from. -/
theorem marchMonth_bounds (month : Int) : 0 ≤ marchMonth month ∧ marchMonth month ≤ 22 := by
  unfold marchMonth
  obtain h | h := Int.le_total month 14
  · rw [marchShift_of_le h]
    omega
  · have hshift : marchShift month = -((month - 14) / 12) := by
      rw [marchShift, ← Int.neg_sub, Int.neg_tdiv, Int.tdiv_eq_ediv_of_nonneg (by omega)]
    omega

theorem marchShift_bounds (h : Fits32 month) :
    -200000000 ≤ marchShift month ∧ marchShift month ≤ 200000000 := by
  have hmonth := marchMonth_bounds month
  unfold marchMonth at hmonth
  unfold Fits32 at h
  omega

theorem marchYear_bounds (hyear : Fits32 year) (hmonth : Fits32 month) :
    -2400000000 ≤ marchYear year month ∧ marchYear year month ≤ 2400000000 := by
  have hshift := marchShift_bounds hmonth
  unfold Fits32 at hyear
  unfold marchYear
  omega

theorem julianDayNumber_bounds (hyear : Fits32 year) (hmonth : Fits32 month)
    (hday : Fits32 day) :
    -900000000000 ≤ julianDayNumber year month day ∧
      julianDayNumber year month day ≤ 900000000000 := by
  have hy := marchYear_bounds hyear hmonth
  have hm := marchMonth_bounds month
  unfold Fits32 at hday
  dsimp only [julianDayNumber, daysBeforeMonth]
  omega

/-- The calendars count the same days, but for three leap days in four centuries. -/
theorem gregorianDayNumber_eq (year month day : Int) :
    gregorianDayNumber year month day = julianDayNumber year month day + 32083 -
      marchYear year month / 100 + marchYear year month / 400 - 32045 := by
  dsimp only [gregorianDayNumber, julianDayNumber]
  omega

/-- The year fits in 32 bits, and the month and the day are in their usual ranges. -/
def CivilDate.FitsWords (date : CivilDate) : Prop :=
  Fits32 date.year ∧ (1 ≤ date.month ∧ date.month ≤ 12) ∧ 1 ≤ date.day ∧ date.day ≤ 31

theorem dateOfMarchDay_fitsWords {y e : Int} (hy : -6000000 ≤ y ∧ y ≤ 6000000)
    (he : 0 ≤ e ∧ e ≤ 365) : (dateOfMarchDay y e).FitsWords := by
  obtain ⟨h1, h12, hday⟩ := dateOfMarchDay_bounds (y := y) he.1 he.2
  refine ⟨?_, ⟨h1, h12⟩, hday⟩
  unfold dateOfMarchDay Fits32
  dsimp only
  omega

theorem gregorianDate_fitsWords (h : Fits32 n) : (gregorianDate n).FitsWords := by
  unfold Fits32 at h
  exact dateOfMarchDay_fitsWords (by omega) (by omega)

theorem julianDate_fitsWords (h : Fits32 n) : (julianDate n).FitsWords := by
  unfold Fits32 at h
  exact dateOfMarchDay_fitsWords (by omega) (by omega)

namespace Checked

/-! ## The number of a date -/

/-- The years before a month's own in which its March lies, in words. -/
def marchShift (month : Checked) : Checked := (14 - month) / 12

/-- The years from March of the year -4800 to the March before a month, in words. -/
def marchYear (year month : Checked) : Checked := year + 4800 - marchShift month

/-- The months from March to a month, in words. -/
def marchMonth (month : Checked) : Checked := month + 12 * marchShift month - 3

/-- The days from the first of March to the first of a month, in words. -/
def daysBeforeMonth (m : Checked) : Checked := (153 * m + 2).ediv 5

/-- The days from March of the year -4800 to a date, with a leap day every fourth year, in words. -/
def daysSinceMarch (year month day : Checked) : Checked :=
  let y := marchYear year month
  day + daysBeforeMonth (marchMonth month) + 365 * y + y.ediv 4

/-- The day number of a date of the Gregorian calendar, in words. -/
def gregorianDayNumber (year month day : Checked) : Checked :=
  let y := marchYear year month
  daysSinceMarch year month day - y.ediv 100 + y.ediv 400 - 32045

/-- The day number of a date of the Julian calendar, in words. -/
def julianDayNumber (year month day : Checked) : Checked :=
  daysSinceMarch year month day - 32083

/-- The day number of a date, in words. -/
def dayNumber (year month day : Checked) : Checked :=
  Option.bind (gregorianDayNumber year month day) fun n =>
    if n < firstGregorianDay then julianDayNumber year month day else some n

theorem marchShift_ofInt (h : Fits32 month) :
    marchShift (ofInt month) = ofInt (CivilTime.marchShift month) := by
  unfold Fits32 at h
  simp (disch := unfold Fits64; omega) only [marchShift, ofNat_eq, sub_ofInt, tdiv_ofInt]
  rfl

theorem marchYear_ofInt (hyear : Fits32 year) (hmonth : Fits32 month) :
    marchYear (ofInt year) (ofInt month) = ofInt (CivilTime.marchYear year month) := by
  have hshift := marchShift_bounds hmonth
  rw [marchYear, marchShift_ofInt hmonth]
  unfold Fits32 at hyear
  simp (disch := unfold Fits64; omega) only [ofNat_eq, add_ofInt, sub_ofInt]
  rfl

theorem marchMonth_ofInt (h : Fits32 month) :
    marchMonth (ofInt month) = ofInt (CivilTime.marchMonth month) := by
  have hshift := marchShift_bounds h
  rw [marchMonth, marchShift_ofInt h]
  unfold Fits32 at h
  simp (disch := unfold Fits64; omega) only [ofNat_eq, mul_ofInt, add_ofInt, sub_ofInt]
  rfl

theorem daysBeforeMonth_ofInt {m : Int} (h : 0 ≤ m ∧ m ≤ 22) :
    daysBeforeMonth (ofInt m) = ofInt (CivilTime.daysBeforeMonth m) := by
  simp (disch := unfold Fits64; omega) only
    [daysBeforeMonth, ofNat_eq, mul_ofInt, add_ofInt, ediv_ofInt]
  rfl

section
variable (hyear : Fits32 year) (hmonth : Fits32 month) (hday : Fits32 day)
include hyear hmonth hday

theorem daysSinceMarch_ofInt : daysSinceMarch (ofInt year) (ofInt month) (ofInt day) =
    ofInt (CivilTime.julianDayNumber year month day + 32083) := by
  have hy := marchYear_bounds hyear hmonth
  have hm := marchMonth_bounds month
  rw [daysSinceMarch, marchYear_ofInt hyear hmonth, marchMonth_ofInt hmonth,
    daysBeforeMonth_ofInt hm, CivilTime.julianDayNumber, CivilTime.daysBeforeMonth,
    Int.sub_add_cancel]
  unfold Fits32 at hday
  simp (disch := unfold Fits64; omega) only [ofNat_eq, mul_ofInt, add_ofInt, ediv_ofInt]

theorem julianDayNumber_ofInt : julianDayNumber (ofInt year) (ofInt month) (ofInt day) =
    some (CivilTime.julianDayNumber year month day) := by
  have hbounds := julianDayNumber_bounds hyear hmonth hday
  rw [julianDayNumber, daysSinceMarch_ofInt hyear hmonth hday]
  simp (disch := unfold Fits64; omega) only [ofNat_eq, sub_ofInt, Int.add_sub_cancel]
  apply ofInt_eq_some
  unfold Fits64
  omega

theorem gregorianDayNumber_ofInt : gregorianDayNumber (ofInt year) (ofInt month) (ofInt day) =
    some (CivilTime.gregorianDayNumber year month day) := by
  have hbounds := julianDayNumber_bounds hyear hmonth hday
  have hy := marchYear_bounds hyear hmonth
  rw [gregorianDayNumber, daysSinceMarch_ofInt hyear hmonth hday, marchYear_ofInt hyear hmonth,
    CivilTime.gregorianDayNumber_eq]
  simp (disch := unfold Fits64; omega) only [ofNat_eq, add_ofInt, sub_ofInt, ediv_ofInt]
  apply ofInt_eq_some
  unfold Fits64
  omega

theorem dayNumber_ofInt : dayNumber (ofInt year) (ofInt month) (ofInt day) =
    some (CivilTime.dayNumber year month day) := by
  rw [dayNumber, gregorianDayNumber_ofInt hyear hmonth hday,
    julianDayNumber_ofInt hyear hmonth hday, CivilTime.dayNumber, apply_ite some]
  rfl

end

/-! ## The date with a number -/

/-- The date with these fields, if each of them fits in its word. -/
def toDate? (year month day : Checked) : Option CivilDate := do
  return ⟨← year.toInt32?, ← month.toByte?, ← day.toByte?⟩

theorem toDate?_ofInt {date : CivilDate} (h : date.FitsWords) :
    toDate? (ofInt date.year) (ofInt date.month) (ofInt date.day) = some date := by
  obtain ⟨hyear, ⟨-, hmonth⟩, -, hday⟩ := h
  rw [toDate?, toInt32?_ofInt hyear, toByte?_ofInt (by omega), toByte?_ofInt (by omega)]
  rfl

/-- The date of the day `da` of a year `y`, in words, as the Gregorian calendar finds it. -/
def gregorianOfMarchDay (y da : Checked) : Option CivilDate :=
  let m := (da * 5 + 308) / 153 - 2
  let d := da - (m + 4) * 153 / 5 + 122
  toDate? (y - 4800 + (m + 2) / 12) ((m + 2) % 12 + 1) (d + 1)

/-- The date of the day `e` of a year `d`, in words, as the Julian calendar finds it. -/
def julianOfMarchDay (d e : Checked) : Option CivilDate :=
  let m := (5 * e + 2) / 153
  let day := e - (153 * m + 2) / 5 + 1
  toDate? (d - 4800 + m / 10) (m + 3 - 12 * (m / 10)) day

section
variable {y e : Int} (hy : -6000000 ≤ y ∧ y ≤ 6000000) (he : 0 ≤ e ∧ e ≤ 365)
include hy he

theorem gregorianOfMarchDay_ofInt :
    gregorianOfMarchDay (ofInt y) (ofInt e) = some (dateOfMarchDay y e) := by
  have hm : (ofInt e * 5 + 308) / 153 - 2 = ofInt ((5 * e + 2) / 153) := by
    simp (disch := unfold Fits64; omega) only
      [ofNat_eq, mul_ofInt, add_ofInt, div_ofInt, sub_ofInt]
    congr 1
    omega
  have hbounds : 0 ≤ (5 * e + 2) / 153 ∧ (5 * e + 2) / 153 ≤ 11 := by omega
  have hyear : (5 * e + 2) / 153 / 10 = 0 ∨ (5 * e + 2) / 153 / 10 = 1 := by omega
  rw [← toDate?_ofInt (dateOfMarchDay_fitsWords hy he), gregorianOfMarchDay, hm]
  dsimp only [dateOfMarchDay, CivilTime.daysBeforeMonth]
  simp (disch := unfold Fits64; omega) only
    [ofNat_eq, mul_ofInt, add_ofInt, div_ofInt, mod_ofInt, sub_ofInt]
  congr 2 <;> omega

theorem julianOfMarchDay_ofInt :
    julianOfMarchDay (ofInt y) (ofInt e) = some (dateOfMarchDay y e) := by
  have hbounds : 0 ≤ (5 * e + 2) / 153 ∧ (5 * e + 2) / 153 ≤ 11 := by omega
  rw [← toDate?_ofInt (dateOfMarchDay_fitsWords hy he), julianOfMarchDay]
  dsimp only [dateOfMarchDay, CivilTime.daysBeforeMonth]
  simp (disch := unfold Fits64; omega) only
    [ofNat_eq, mul_ofInt, add_ofInt, div_ofInt, sub_ofInt]
  congr 2 <;> omega

end

/-- The smaller of a quotient up to four and three, in words. -/
def atMostThree (q : Checked) : Checked := (q + 1) * 3 / 4

theorem atMostThree_ofInt {q : Int} (h : 0 ≤ q ∧ q ≤ 4) :
    atMostThree (ofInt q) = ofInt (min q 3) := by
  simp (disch := unfold Fits64; omega) only [atMostThree, ofNat_eq, add_ofInt, mul_ofInt, div_ofInt]
  congr 1
  omega

/-- The date of the Gregorian calendar with a day number, in words. -/
def gregorianDate (n : Checked) : Option CivilDate :=
  let g := (n + 32044).ediv 146097
  let dg := (n + 32044).emod 146097
  let c := atMostThree (dg / 36524)
  let dc := dg - c * 36524
  let b := dc / 1461
  let db := dc % 1461
  let a := atMostThree (db / 365)
  let da := db - a * 365
  gregorianOfMarchDay (g * 400 + c * 100 + b * 4 + a) da

/-- The date of the Julian calendar with a day number, in words. -/
def julianDate (n : Checked) : Option CivilDate :=
  let c := n + 32082
  let d := (4 * c + 3).ediv 1461
  let e := c - (1461 * d).ediv 4
  julianOfMarchDay d e

theorem gregorianDate_ofInt (h : Fits32 n) :
    gregorianDate (ofInt n) = some (CivilTime.gregorianDate n) := by
  unfold Fits32 at h
  unfold gregorianDate CivilTime.gregorianDate
  extract_lets g dg c dc b db a da inEra century inCentury inCycle year
  have hg : g = ofInt ((n + 32044) / 146097) := by
    simp (disch := unfold Fits64; omega) only [g, ofNat_eq, add_ofInt, ediv_ofInt]
  have hdg : dg = ofInt inEra := by
    simp (disch := unfold Fits64; omega) only [dg, ofNat_eq, add_ofInt, emod_ofInt]
    rfl
  have hc : c = ofInt century := by
    simp (disch := unfold Fits64; omega) only [c, hdg, ofNat_eq, div_ofInt]
    exact atMostThree_ofInt (by omega)
  have hdc : dc = ofInt inCentury := by
    simp (disch := unfold Fits64; omega) only [dc, hdg, hc, ofNat_eq, mul_ofInt, sub_ofInt]
    congr 1
    omega
  have hb : b = ofInt (inCentury / 1461) := by
    simp (disch := unfold Fits64; omega) only [b, hdc, ofNat_eq, div_ofInt]
  have hdb : db = ofInt inCycle := by
    simp (disch := unfold Fits64; omega) only [db, hdc, ofNat_eq, mod_ofInt]
    rfl
  have ha : a = ofInt year := by
    simp (disch := unfold Fits64; omega) only [a, hdb, ofNat_eq, div_ofInt]
    exact atMostThree_ofInt (by omega)
  have hda : da = ofInt (inCycle - 365 * year) := by
    simp (disch := unfold Fits64; omega) only [da, hdb, ha, ofNat_eq, mul_ofInt, sub_ofInt]
    congr 1
    omega
  rw [hg, hc, hb, ha, hda, ← gregorianOfMarchDay_ofInt (by omega) (by omega)]
  simp (disch := unfold Fits64; omega) only [ofNat_eq, mul_ofInt, add_ofInt]
  congr 2
  omega

theorem julianDate_ofInt (h : Fits32 n) :
    julianDate (ofInt n) = some (CivilTime.julianDate n) := by
  unfold Fits32 at h
  rw [julianDate, CivilTime.julianDate, ← julianOfMarchDay_ofInt (by omega) (by omega)]
  simp (disch := unfold Fits64; omega) only
    [ofNat_eq, add_ofInt, mul_ofInt, sub_ofInt, ediv_ofInt]

end Checked

end CivilTime
