import CivilTime.Proofs.Clock.Printer
import CivilTime.Proofs.Literal.Timestamp
import CivilTime.Proofs.Pattern.Canonical
import CivilTime.Proofs.Timestamp

/-!
# The order of the texts of moments

The text of a moment tells the number of units of its last digit that have passed. So it is that of
the moment rounded down, and texts with years of four digits come in the order of the moments.

* `EpochDay.before_render`: days in the order of their texts.
* `Timestamp.render_congr`: moments in the same unit have the same text.
* `Timestamp.format_floor`: fewer digits are the beginning of the text, and round down.
* `Timestamp.before_render`: moments come in the order of their units.
* `Timestamp.format_order`: texts in the order of the moments.
-/

namespace CivilTime

/-! ## Days -/

namespace CivilDate

variable {a b : CivilDate} {s t : List Char}

/-- The fields have no more digits than they are padded to, and the year has no sign. -/
def FitsWidths (date : CivilDate) : Prop :=
  0 ≤ date.year ∧ date.year ≤ 9999 ∧ date.month ≤ 99 ∧ date.day ≤ 99

theorem FitsWidths.before_render (ha : a.FitsWidths) (hb : b.FitsWidths) :
    Text.Before (a.render ++ s) (b.render ++ t) ↔ a < b ∨ a = b ∧ Text.Before s t := by
  obtain ⟨hayear, ha9999, hamonth, haday⟩ := ha
  obtain ⟨hbyear, hb9999, hbmonth, hbday⟩ := hb
  have hyear : (a.year.toNat < b.year.toNat ↔ a.year < b.year) ∧
      (a.year.toNat = b.year.toNat ↔ a.year = b.year) := by omega
  have heq : a = b ↔ a.year = b.year ∧ a.month = b.month ∧ a.day = b.day := by
    cases a
    cases b
    rw [mk.injEq]
  simp only [render, renderYear_of_nonneg hayear, renderYear_of_nonneg hbyear, List.append_assoc,
    List.cons_append]
  rw [Text.before_padded (by decide) (by omega) (by omega), Text.before_cons_self,
    Text.before_padded (by decide) (by omega) (by omega), Text.before_cons_self,
    Text.before_padded (by decide) (by omega) (by omega), hyear.1, hyear.2, lt_iff, heq]
  simp only [and_or_left, or_assoc, and_assoc]

end CivilDate

namespace EpochDay

variable {a b day : EpochDay} {s t : List Char}

theorem fitsWidths_date (h : 0 ≤ day.date.year ∧ day.date.year ≤ 9999) :
    day.date.FitsWidths := by
  have hbounds : 1 ≤ day.date.month ∧ day.date.month ≤ 12 ∧ 1 ≤ day.date.day ∧
      day.date.day ≤ 31 := civilDate_bounds day.toJulianDay.toInt
  unfold CivilDate.FitsWidths
  omega

/-- Days come in the order of their texts while the years have four digits. -/
theorem before_render (ha : 0 ≤ a.date.year ∧ a.date.year ≤ 9999)
    (hb : 0 ≤ b.date.year ∧ b.date.year ≤ 9999) :
    Text.Before (a.render ++ s) (b.render ++ t) ↔ a < b ∨ a = b ∧ Text.Before s t := by
  have hle := date_le_date (fits_of_year_nonneg ha.1) (fits_of_year_nonneg hb.1)
  have hge := date_le_date (fits_of_year_nonneg hb.1) (fits_of_year_nonneg ha.1)
  have heq : a.date = b.date ↔ a = b := by rw [le_antisymm_iff, hle, hge, ← le_antisymm_iff]
  rw [render, render, (fitsWidths_date ha).before_render (fitsWidths_date hb),
    lt_iff_lt_of_le_iff_le hge, heq]

end EpochDay

/-! ## Moments -/

namespace Timestamp

variable {a b : Timestamp} {digits : Nat}

/-- The clock of a moment shows the time of its day. -/
theorem renderClock_timeOfDay (moment : Timestamp) (digits : Nat) :
    renderClock moment.timeOfDay.toInt digits = renderClock moment.toInt digits := by
  have hfields : clockFields (moment.toInt % msPerDay) = clockFields moment.toInt := by
    unfold clockFields
    rw [Int.emod_emod_of_dvd _ (Int.dvd_refl _)]
  rw [renderClock, moment.toInt_timeOfDay, hfields, renderClock]

/-- What is less than a unit of the last digit makes no difference to a text. -/
theorem render_congr (h : a.toInt / fractionUnit digits = b.toInt / fractionUnit digits) :
    a.render digits = b.render digits := by
  have hday : fractionUnit digits ∣ msPerDay := fractionUnit_dvd_of_dvd digits (by decide)
  obtain ⟨hdate, htime⟩ := (ediv_eq_ediv_iff hday (by decide)).1 h
  rw [render, render, renderClock_timeOfDay, renderClock_timeOfDay, renderClock_congr htime, date,
    date, hdate]

theorem toInt_round_floor_ediv (moment : Timestamp) (digits : Nat) :
    (moment.round digits .floor).toInt / fractionUnit digits =
      moment.toInt / fractionUnit digits := by
  have hpos := fractionUnit_pos digits
  have hfits := moment.fits_toInt
  have hbounds := cutOff_bounds moment.toInt digits
  have hnext := Int.lt_ediv_add_one_mul_self moment.toInt (b := fractionUnit digits) (by omega)
  unfold Fits64 at hfits
  rw [Int.add_mul, Int.one_mul] at hnext
  rw [moment.toInt_round_floor, Int.ediv_eq_iff_of_pos (by omega)]
  omega

/-- Fewer digits are the beginning of a text with more. They are cut off, which rounds down. -/
theorem format_floor (moment : Timestamp) (digits : Nat) :
    (∀ more, digits ≤ more →
      (moment.format digits).toList <+: (moment.format more).toList) ∧
    moment.format digits = (moment.round digits .floor).format digits := by
  refine ⟨fun more h => ?_, ?_⟩
  · have hmillis := (clockFields_bounds moment.timeOfDay.toInt).2.2.2
    rw [format, format, String.toList_ofList, String.toList_ofList, render, render,
      List.prefix_append_right_inj, List.prefix_cons_inj, renderClock, renderClock,
      ClockFields.render, ClockFields.render, List.prefix_append_right_inj]
    exact renderFraction_prefix hmillis h
  · rw [format, format, render_congr (toInt_round_floor_ediv moment digits)]

/-- The first moment, on a date that has wrapped around. The tenth of a second that it lies in
    begins before it, so that nothing is left to round down to. -/
theorem format_floor_first :
    (ofInt (-9223372036854775808)).round 1 .floor = ofInt (-9223372036854775808) ∧
    1 ≤ 5 ∧ "1705471-09-26 16:47:04.1".toList <+: "1705471-09-26 16:47:04.19200".toList ∧
    "1705471-09-26 16:47:04.1" = ((ofInt (-9223372036854775808)).round 1 .floor).format 1 := by
  have hshort : (ofInt (-9223372036854775808)).format 1 = "1705471-09-26 16:47:04.1" := by
    decide +kernel
  have hlong : (ofInt (-9223372036854775808)).format 5 = "1705471-09-26 16:47:04.19200" := by
    decide +kernel
  obtain ⟨hbeginning, hfloor⟩ := format_floor (ofInt (-9223372036854775808)) 1
  have hfive := hbeginning 5 (by decide)
  rw [hshort, hlong] at hfive
  rw [hshort] at hfloor
  exact ⟨by decide, by decide, hfive, hfloor⟩

/-- The day of a moment fits in 32 bits, and its date has a year of four digits. -/
structure HasFourDigitYear (moment : Timestamp) : Prop where
  fits : Fits32 (moment.toInt / msPerDay)
  year : 0 ≤ moment.date.date.year ∧ moment.date.date.year ≤ 9999

/-- The texts of moments come in the order of their numbers of units. -/
theorem before_render (ha : a.HasFourDigitYear) (hb : b.HasFourDigitYear) (digits : Nat) :
    Text.Before (a.render digits) (b.render digits) ↔
      a.toInt / fractionUnit digits < b.toInt / fractionUnit digits := by
  have hday : fractionUnit digits ∣ msPerDay := fractionUnit_dvd_of_dvd digits (by decide)
  have heq : a.date = b.date ↔ a.toInt / msPerDay = b.toInt / msPerDay := by
    rw [← toInt_date ha.fits, ← toInt_date hb.fits]
    exact ⟨congrArg EpochDay.toInt, EpochDay.ext⟩
  rw [render, render, EpochDay.before_render ha.year hb.year, Text.before_cons_self,
    renderClock_timeOfDay, renderClock_timeOfDay, before_renderClock, EpochDay.lt_iff, heq,
    toInt_date ha.fits, toInt_date hb.fits, ← ediv_lt_ediv_iff hday (by decide)]

theorem isAscii_render (moment : Timestamp) (digits : Nat) :
    Text.IsAscii (moment.render digits) := by
  intro c hc
  rcases List.mem_append.1 hc with hc | hc
  · rcases CivilDate.mem_render hc with hc | rfl
    · exact Text.toNat_lt_of_isDigit hc
    · decide
  · rcases List.mem_cons.1 hc with rfl | hc
    · decide
    · rcases ClockFields.mem_render hc with hc | rfl | rfl
      · exact Text.toNat_lt_of_isDigit hc
      · decide
      · decide

/-- So do the bytes of their texts. -/
theorem precedes_format (ha : a.HasFourDigitYear) (hb : b.HasFourDigitYear) (digits : Nat) :
    Text.Precedes (a.format digits) (b.format digits) ↔
      a.toInt / fractionUnit digits < b.toInt / fractionUnit digits := by
  rw [format, format, Text.precedes_ofList_iff (a.isAscii_render digits) (b.isAscii_render digits),
    before_render ha hb]

/-- While the years have four digits, the text of a later moment does not come before that of an
    earlier one. With milliseconds, texts come in the order of the moments and are different for
    different moments. -/
theorem format_order (ha : a.HasFourDigitYear) (hb : b.HasFourDigitYear) (digits : Nat) :
    (a ≤ b → ¬ Text.Precedes (b.format digits) (a.format digits)) ∧
    (3 ≤ digits →
      (Text.Precedes (a.format digits) (b.format digits) ↔ a < b) ∧
      (a.format digits = b.format digits ↔ a = b)) := by
  have hpos : 0 < (fractionUnit digits : Int) := Int.natCast_pos.2 (fractionUnit_pos digits)
  have hab := precedes_format ha hb digits
  have hba := precedes_format hb ha digits
  refine ⟨fun hle => ?_, fun hdigits => ?_⟩
  · rw [hba]
    exact not_lt.2 (Int.ediv_le_ediv hpos (le_iff.1 hle))
  · rw [fractionUnit_of_three_le hdigits, Int.natCast_one, Int.ediv_one, Int.ediv_one] at hab hba
    refine ⟨hab, fun htext => ?_, fun h => by rw [h]⟩
    -- neither of two texts that are the same comes before the other
    have hself : ¬ Text.Precedes (b.format digits) (b.format digits) := Text.not_precedes_self _
    rw [htext] at hab hba
    exact le_antisymm (not_lt.1 fun h => hself (hba.2 h)) (not_lt.1 fun h => hself (hab.2 h))

/-- The last millisecond before the change of calendar and the midnight after it. -/
theorem format_order_change :
    let last := ofInt (-12219292800001)
    let first := ofInt (-12219292800000)
    (last.HasFourDigitYear ∧ first.HasFourDigitYear) ∧
    (last ≤ first ∧ ¬ Text.Precedes "1582-10-15 00:00:00" "1582-10-04 23:59:59") ∧
    3 ≤ 3 ∧ last < first ∧
    Text.Precedes "1582-10-04 23:59:59.999" "1582-10-15 00:00:00.000" := by
  intro last first
  have hlast : last.HasFourDigitYear := ⟨by decide, by decide⟩
  have hfirst : first.HasFourDigitYear := ⟨by decide, by decide⟩
  have hle : last ≤ first := by decide
  have hlt : last < first := by decide
  have hsecond : last.format 0 = "1582-10-04 23:59:59" ∧ first.format 0 = "1582-10-15 00:00:00" :=
    by decide +kernel
  have hmillis : last.format 3 = "1582-10-04 23:59:59.999" ∧
      first.format 3 = "1582-10-15 00:00:00.000" := by decide +kernel
  have hcut := (format_order hlast hfirst 0).1 hle
  have hfull := ((format_order hlast hfirst 3).2 (by decide)).1.2 hlt
  rw [hsecond.1, hsecond.2] at hcut
  rw [hmillis.1, hmillis.2] at hfull
  exact ⟨⟨hlast, hfirst⟩, ⟨hle, hcut⟩, by decide, hlt, hfull⟩

end Timestamp

end CivilTime
