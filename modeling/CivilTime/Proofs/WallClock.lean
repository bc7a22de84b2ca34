import CivilTime.Offset
import CivilTime.Proofs.Calendar.RoundTrip
import CivilTime.WallClock

/-!
# Moments and wall clocks

A wall clock shows a moment exactly, as long as the number of the day fits in 32 bits.

* `WallClock.ofTimestamp_isLegal`: every moment is shown with legal fields.
* `WallClock.toTimestamp_ofTimestamp`: the fields of a moment have that moment.
* `WallClock.ofTimestamp_toTimestamp_iff`: legal fields are shown at their moment exactly if the
  number of their day fits.
* `WallClock.ofTimestamp_ofFields`: moments and legal fields correspond.
* `WallClock.toInt_addMillis_neg`, `WallClock.toInt_addMillis_neg_add`: the moment of a wall clock
  at an offset, without and with a fraction of a second.
* `WallClock.eq_addMillis_neg_iff`: the same moment, as that of a day and a time.
* `Timestamp.toInt_addMillis_offset`: a moment may be shifted by an offset to any moment whose day
  fits, without wrapping around.
* `Timestamp.toInt_ofDateAndTime_addMillis`: so may the moment of a day and a time by any offset.
* `Timestamp.ofDateAndTime_ofFields`: the moment of fields, legal or not, with the milliseconds at
  the end.
-/

namespace CivilTime

theorem clockMillis_clockFields (millis : Int) :
    clockMillis (clockFields millis).hour (clockFields millis).minute (clockFields millis).second
      (clockFields millis).millisecond = millis % msPerDay := by
  simp only [clockMillis, clockFields, msPerDay, msPerHour, msPerMinute, msPerSecond]
  omega

/-- The milliseconds that a clock shows are those of the count. -/
theorem clockFields_millisecond (millis : Int) :
    ((clockFields millis).millisecond : Int) = millis % msPerSecond := by
  simp only [clockFields, msPerDay, msPerHour, msPerMinute, msPerSecond]
  omega

/-- A clock shows the fields that a number of milliseconds is made of. -/
theorem clockFields_clockMillis {hour minute second millisecond : Int}
    (hhour : 0 ≤ hour ∧ hour ≤ 23) (hminute : 0 ≤ minute ∧ minute ≤ 59)
    (hsecond : 0 ≤ second ∧ second ≤ 59) (hmillisecond : 0 ≤ millisecond ∧ millisecond ≤ 999) :
    clockFields (clockMillis hour minute second millisecond) =
      ⟨hour.toNat, minute.toNat, second.toNat, millisecond.toNat⟩ := by
  simp only [clockMillis, clockFields, msPerDay, msPerHour, msPerMinute, msPerSecond,
    ClockFields.mk.injEq]
  omega

/-! ## Moments -/

namespace Timestamp
variable {moment : Timestamp}

theorem date_ofDateAndTime (day : EpochDay) {time : ClockTime}
    (h : 0 ≤ time.toInt ∧ time.toInt < msPerDay) : (ofDateAndTime day time).date = day := by
  have hday : (ofDateAndTime day time).toInt / msPerDay = day.toInt := by
    rw [toInt_ofDateAndTime]
    unfold msPerDay msPerHour msPerMinute msPerSecond at *
    omega
  apply EpochDay.ext
  rw [date, hday, EpochDay.toInt_ofInt day.fits_toInt]

theorem timeOfDay_ofDateAndTime (day : EpochDay) {time : ClockTime}
    (h : 0 ≤ time.toInt ∧ time.toInt < msPerDay) : (ofDateAndTime day time).timeOfDay = time := by
  apply ClockTime.ext
  rw [toInt_timeOfDay, toInt_ofDateAndTime]
  unfold msPerDay msPerHour msPerMinute msPerSecond at *
  omega

theorem toInt_date (h : Fits32 (moment.toInt / msPerDay)) :
    moment.date.toInt = moment.toInt / msPerDay := EpochDay.toInt_ofInt h

theorem toInt_addMillis {n : Int} (h : Fits64 (moment.toInt + n)) :
    (moment.addMillis n).toInt = moment.toInt + n := toInt_ofInt h

theorem addMillis_zero (moment : Timestamp) : moment.addMillis 0 = moment := by
  apply ext
  rw [toInt_addMillis (by rw [Int.add_zero]; exact moment.fits_toInt), Int.add_zero]

theorem addMillis_addMillis (moment : Timestamp) (a b : Int) :
    (moment.addMillis a).addMillis b = moment.addMillis (a + b) := by
  simp only [addMillis, ofInt, toInt, Int64.ofInt_add, Int64.ofInt_toInt, Int64.add_assoc]

/-- Numbers of milliseconds are added modulo 2^64. -/
theorem ofInt_toInt_add (a b : Int) : ofInt ((ofInt a).toInt + b) = ofInt (a + b) := by
  simp only [ofInt, toInt, Int64.ofInt_add, Int64.ofInt_toInt]

/-- The milliseconds of a time may be added to its second, unless the time wraps around. -/
theorem ofDateAndTime_ofFields {hour minute second millisecond : Int} (year month day : Int)
    (h : Fits32 (clockMillis hour minute second millisecond)) :
    ofDateAndTime (EpochDay.ofFields year month day)
        (ClockTime.ofFields hour minute second millisecond) =
      (ofFields year month day hour minute second).addMillis millisecond := by
  have hsplit : clockMillis hour minute second millisecond =
      clockMillis hour minute second 0 + millisecond := by
    unfold clockMillis
    omega
  rw [ofDateAndTime, ClockTime.ofFields, ClockTime.toInt_ofInt h, hsplit, ofFields, addMillis,
    ofInt_toInt_add, Int.add_assoc]

/-- A day and a time of day are far enough from the first and the last moment. -/
theorem toInt_ofDateAndTime_addMillis (day : EpochDay) (time : ClockTime) {n : Int}
    (h : -10 ^ 18 ≤ n ∧ n ≤ 10 ^ 18) :
    ((ofDateAndTime day time).addMillis n).toInt = day.toInt * msPerDay + time.toInt + n := by
  have hday := day.fits_toInt
  have htime := time.fits_toInt
  rw [toInt_addMillis, toInt_ofDateAndTime]
  rw [toInt_ofDateAndTime]
  unfold Fits32 Fits64 msPerDay msPerHour msPerMinute msPerSecond at *
  omega

theorem toInt_addMillis_offset (moment : Timestamp) (zone : Offset)
    (h : Fits32 ((moment.addMillis zone.millis).toInt / msPerDay)) :
    (moment.addMillis zone.millis).toInt = moment.toInt + zone.millis := by
  have hmoment := moment.fits_toInt
  have hlower := zone.lower
  have hupper := zone.upper
  apply toInt_addMillis
  -- a sum that wraps around is too far from 1970
  rw [addMillis, ofInt, toInt, Int64.toInt_ofInt, Int64.size, Int.bmod_def] at h
  unfold Fits32 Fits64 Offset.millis msPerDay msPerHour msPerMinute msPerSecond at *
  split_ifs at h <;> omega

end Timestamp

/-! ## Wall clocks -/

namespace WallClock

theorem ofTimestamp_isLegal (moment : Timestamp) : (ofTimestamp moment).IsLegal := by
  have hclock := clockFields_bounds moment.timeOfDay.toInt
  refine ⟨moment.date.date_isLegal, ?_⟩
  simp only [ofTimestamp, ClockTime.fields]
  omega

theorem millisecond_ofTimestamp (moment : Timestamp) :
    (ofTimestamp moment).millisecond = moment.toInt % msPerSecond := by
  have hrest := clockFields_millisecond moment.timeOfDay.toInt
  rw [moment.toInt_timeOfDay, Int.emod_emod_of_dvd _ (by decide)] at hrest
  rw [← hrest, ← moment.toInt_timeOfDay]
  rfl

/-- The fields that a moment is shown with have the second that the moment lies in. -/
theorem toInt_toTimestamp_ofTimestamp {moment : Timestamp} (h : Fits32 (moment.toInt / msPerDay))
    {millisecond : Int} (hms : 0 ≤ millisecond ∧ millisecond ≤ 999) :
    ({ ofTimestamp moment with millisecond := millisecond } : WallClock).toTimestamp.toInt =
      moment.toInt - moment.toInt % msPerSecond + millisecond := by
  have hmillis : clockMillis moment.timeOfDay.fields.hour moment.timeOfDay.fields.minute
      moment.timeOfDay.fields.second millisecond =
      moment.toInt % msPerDay - moment.toInt % msPerSecond + millisecond := by
    have hclock := clockMillis_clockFields moment.timeOfDay.toInt
    have hrest := millisecond_ofTimestamp moment
    rw [moment.toInt_timeOfDay] at hclock
    simp only [ofTimestamp, ClockTime.fields, moment.toInt_timeOfDay] at hrest ⊢
    unfold clockMillis at *
    simp only [msPerDay, msPerHour, msPerMinute, msPerSecond] at *
    omega
  have hfits : Fits32 (moment.toInt % msPerDay - moment.toInt % msPerSecond + millisecond) := by
    simp only [Fits32, msPerDay, msPerHour, msPerMinute, msPerSecond]
    omega
  have hdate := moment.date.ofFields_date
  have hdiv := Int.ediv_mul_add_emod moment.toInt msPerDay
  rw [toTimestamp, Timestamp.toInt_ofDateAndTime]
  simp only [ofTimestamp]
  rw [hdate, Timestamp.toInt_date h, ClockTime.ofFields, hmillis, ClockTime.toInt_ofInt hfits]
  omega

/-- The fields of a wall clock down to the second. -/
def wholeSecond (wall : WallClock) : WallClock := { wall with millisecond := 0 }

theorem IsLegal.wholeSecond {wall : WallClock} (h : wall.IsLegal) : wall.wholeSecond.IsLegal := by
  obtain ⟨hdate, hhour, hminute, hsecond, -⟩ := h
  exact ⟨hdate, hhour, hminute, hsecond, Int.le_refl 0, Int.natCast_nonneg 999⟩

theorem toInt_wholeSecond_ofTimestamp {moment : Timestamp}
    (h : Fits32 (moment.toInt / msPerDay)) :
    (ofTimestamp moment).wholeSecond.toTimestamp.toInt =
      moment.toInt - moment.toInt % msPerSecond := by
  rw [wholeSecond, toInt_toTimestamp_ofTimestamp h (by decide), Int.add_zero]

/-- A moment is the one at which a wall clock shows its fields. -/
theorem toTimestamp_ofTimestamp {moment : Timestamp} (h : Fits32 (moment.toInt / msPerDay)) :
    (ofTimestamp moment).toTimestamp = moment := by
  have hms := (ofTimestamp_isLegal moment).2.2.2.2
  have hshown := toInt_toTimestamp_ofTimestamp h hms
  have hrest := millisecond_ofTimestamp moment
  apply Timestamp.ext
  rw [← hrest, Int.sub_add_cancel] at hshown
  exact hshown

theorem IsLegal.clockMillis_bounds {wall : WallClock} (h : wall.IsLegal) :
    0 ≤ clockMillis wall.hour wall.minute wall.second wall.millisecond ∧
      clockMillis wall.hour wall.minute wall.second wall.millisecond < msPerDay := by
  obtain ⟨-, hhour, hminute, hsecond, hmillisecond⟩ := h
  unfold clockMillis msPerDay msPerHour msPerMinute msPerSecond
  omega

theorem IsLegal.fits_clockMillis {wall : WallClock} (h : wall.IsLegal) :
    Fits32 (clockMillis wall.hour wall.minute wall.second wall.millisecond) := by
  have hbounds := h.clockMillis_bounds
  unfold Fits32 msPerDay msPerHour msPerMinute msPerSecond at *
  omega

theorem IsLegal.toInt_ofFields {wall : WallClock} (h : wall.IsLegal) :
    (ClockTime.ofFields wall.hour wall.minute wall.second wall.millisecond).toInt =
      clockMillis wall.hour wall.minute wall.second wall.millisecond :=
  ClockTime.toInt_ofInt h.fits_clockMillis

/-- A fraction of a second comes after the moment of the whole second. -/
theorem IsLegal.toInt_fraction {wall : WallClock} (h : wall.IsLegal)
    (hwhole : wall.millisecond = 0) {millisecond : Nat} (hms : millisecond ≤ 999) :
    ({ wall with millisecond := millisecond } : WallClock).toTimestamp.toInt =
      wall.toTimestamp.toInt + millisecond := by
  have hbounds : 0 ≤ (millisecond : Int) ∧ (millisecond : Int) ≤ 999 := by omega
  have hshown : ({ wall with millisecond := millisecond } : WallClock).IsLegal := by
    obtain ⟨hdate, hhour, hminute, hsecond, -⟩ := h
    exact ⟨hdate, hhour, hminute, hsecond, hbounds⟩
  have hclock := h.toInt_ofFields
  have hfraction := hshown.toInt_ofFields
  rw [hwhole] at hclock
  simp only [toTimestamp, Timestamp.toInt_ofDateAndTime, hwhole, hclock, hfraction]
  unfold clockMillis
  omega

/-- At the moment of legal fields the clock is right; the date is that of the day they are stored
    as. -/
theorem IsLegal.ofTimestamp_toTimestamp {wall : WallClock} (h : wall.IsLegal) :
    ofTimestamp wall.toTimestamp =
      { wall with
        year := (JulianDay.ofFields wall.year wall.month wall.day).date.year
        month := (JulianDay.ofFields wall.year wall.month wall.day).date.month
        day := (JulianDay.ofFields wall.year wall.month wall.day).date.day } := by
  obtain ⟨-, hhour, hminute, hsecond, hmillisecond⟩ := id h
  have htime := h.clockMillis_bounds
  rw [← h.toInt_ofFields] at htime
  have hclock := clockFields_clockMillis hhour hminute hsecond hmillisecond
  simp only [ofTimestamp, toTimestamp, Timestamp.date_ofDateAndTime _ htime,
    Timestamp.timeOfDay_ofDateAndTime _ htime, EpochDay.date_ofFields, ClockTime.fields,
    h.toInt_ofFields, hclock, WallClock.mk.injEq, true_and]
  omega

/-- Legal fields are shown at their moment exactly if the number of their day fits in 32 bits. -/
theorem ofTimestamp_toTimestamp_iff {wall : WallClock} (h : wall.IsLegal) :
    ofTimestamp wall.toTimestamp = wall ↔ Fits32 (dayNumber wall.year wall.month wall.day) := by
  have hdate : IsLegalDate wall.year wall.month wall.day := h.1
  rw [h.ofTimestamp_toTimestamp]
  constructor
  · intro hshown
    have hfits := (JulianDay.ofFields wall.year wall.month wall.day).fits_dayNumber_date
    have hyear := congrArg WallClock.year hshown
    have hmonth := congrArg WallClock.month hshown
    have hday := congrArg WallClock.day hshown
    dsimp only at hyear hmonth hday
    rwa [CivilDate.dayNumber, hyear, hmonth, hday] at hfits
  · intro hfits
    have hmonth := hdate.month_bounds
    have hday : 1 ≤ wall.day := hdate.1
    rw [JulianDay.date_ofFields hdate hfits]
    simp only [Int.toNat_of_nonneg (show 0 ≤ wall.month by omega),
      Int.toNat_of_nonneg (show 0 ≤ wall.day by omega)]

/-- The moment of legal fields down to the second, and the milliseconds after it, are the moment of
    all the fields. -/
theorem IsLegal.ofFields_addMillis {wall : WallClock} (h : wall.IsLegal) :
    (Timestamp.ofFields wall.year wall.month wall.day wall.hour wall.minute wall.second).addMillis
      wall.millisecond = wall.toTimestamp :=
  (Timestamp.ofDateAndTime_ofFields wall.year wall.month wall.day h.fits_clockMillis).symm

/-- Moments and wall clocks correspond: every moment has a time in its day and legal fields, and is
    made from them again if its day fits in 32 bits; and legal fields are shown at the moment that
    is made from them if the number of their day fits. -/
theorem ofTimestamp_ofFields :
    (∀ moment : Timestamp,
      (0 ≤ moment.timeOfDay.toInt ∧ moment.timeOfDay.toInt < msPerDay) ∧
      (ofTimestamp moment).IsLegal ∧
      (Fits32 (moment.toInt / msPerDay) →
        let wall := ofTimestamp moment
        (Timestamp.ofFields wall.year wall.month wall.day wall.hour wall.minute
          wall.second).addMillis wall.millisecond = moment)) ∧
    ∀ wall : WallClock, wall.IsLegal → Fits32 (dayNumber wall.year wall.month wall.day) →
      ofTimestamp ((Timestamp.ofFields wall.year wall.month wall.day wall.hour wall.minute
        wall.second).addMillis wall.millisecond) = wall := by
  constructor
  · intro moment
    refine ⟨moment.timeOfDay_bounds, ofTimestamp_isLegal moment, ?_⟩
    intro hday
    show (Timestamp.ofFields _ _ _ _ _ _).addMillis _ = moment
    rw [(ofTimestamp_isLegal moment).ofFields_addMillis, toTimestamp_ofTimestamp hday]
  · intro wall hlegal hfits
    rw [hlegal.ofFields_addMillis]
    exact (ofTimestamp_toTimestamp_iff hlegal).2 hfits

/-- The last millisecond before 1970, and the last one of the first day whose number fits, which has
    wrapped around to a moment after 1970. -/
theorem ofTimestamp_ofFields_wrapped :
    Fits32 ((Timestamp.ofInt (-1)).toInt / msPerDay) ∧
      (Timestamp.ofFields 1969 12 31 23 59 59).addMillis 999 = Timestamp.ofInt (-1) ∧
      IsLegal ⟨-5884202, 3, 16, 23, 59, 59, 999⟩ ∧ Fits32 (dayNumber (-5884202) 3 16) ∧
      (Timestamp.ofFields (-5884202) 3 16 23 59 59).addMillis 999 =
        Timestamp.ofInt 185331720470399999 ∧
      ofTimestamp (Timestamp.ofInt 185331720470399999) = ⟨-5884202, 3, 16, 23, 59, 59, 999⟩ := by
  have hday : Fits32 ((Timestamp.ofInt (-1)).toInt / msPerDay) := by decide
  have hlegal : IsLegal ⟨-5884202, 3, 16, 23, 59, 59, 999⟩ := by decide
  have hfits : Fits32 (dayNumber (-5884202) 3 16) := by decide
  have hshown : ofTimestamp (Timestamp.ofInt (-1)) = ⟨1969, 12, 31, 23, 59, 59, 999⟩ := by decide
  have hmoment : (Timestamp.ofFields (-5884202) 3 16 23 59 59).addMillis 999 =
      Timestamp.ofInt 185331720470399999 := by decide
  have hback := (ofTimestamp_ofFields.1 (Timestamp.ofInt (-1))).2.2 hday
  have hforth := ofTimestamp_ofFields.2 _ hlegal hfits
  rw [hshown] at hback
  rw [hmoment] at hforth
  exact ⟨hday, hback, hlegal, hfits, hmoment, hforth⟩

/-! ## Wall clocks at an offset -/

/-- Neither an offset nor a second takes the moment of a wall clock past the first or the last
    one. -/
theorem toInt_addMillis_neg_add (wall : WallClock) (zone : Offset) {n : Int}
    (h : 0 ≤ n ∧ n ≤ 1000) :
    (wall.toTimestamp.addMillis (-zone.millis + n)).toInt + zone.millis =
      wall.toTimestamp.toInt + n := by
  have hlower := zone.lower
  have hupper := zone.upper
  have hbounds : -10 ^ 18 ≤ -zone.millis + n ∧ -zone.millis + n ≤ 10 ^ 18 := by
    unfold Offset.millis
    omega
  rw [toTimestamp, Timestamp.toInt_ofDateAndTime_addMillis _ _ hbounds,
    Timestamp.toInt_ofDateAndTime]
  omega

theorem toInt_addMillis_neg (wall : WallClock) (zone : Offset) :
    (wall.toTimestamp.addMillis (-zone.millis)).toInt + zone.millis = wall.toTimestamp.toInt := by
  have hzero := wall.toInt_addMillis_neg_add zone (n := 0) (by decide)
  rwa [Int.add_zero, Int.add_zero] at hzero

theorem addMillis_neg_addMillis (wall : WallClock) (zone : Offset) :
    (wall.toTimestamp.addMillis (-zone.millis)).addMillis zone.millis = wall.toTimestamp := by
  rw [Timestamp.addMillis_addMillis, Int.add_left_neg, Timestamp.addMillis_zero]

/-- A wall clock at an offset has the moment of its day and its time less the offset. -/
theorem eq_addMillis_neg_iff (wall : WallClock) (zone : Offset) {moment : Timestamp} :
    moment = wall.toTimestamp.addMillis (-zone.millis) ↔
      moment.toInt = (Timestamp.ofDateAndTime (EpochDay.ofFields wall.year wall.month wall.day)
        (ClockTime.ofFields wall.hour wall.minute wall.second wall.millisecond)).toInt -
          zone.millis := by
  have hshift := wall.toInt_addMillis_neg zone
  rw [toTimestamp] at hshift ⊢
  constructor
  · rintro rfl
    omega
  · intro hmoment
    apply Timestamp.ext
    omega

end WallClock

end CivilTime
