import CivilTime.Proofs.Literal.Date
import CivilTime.Proofs.Pattern.Fraction
import CivilTime.Proofs.WallClock
import CivilTime.Timestamp

/-!
# The text of a moment as a literal

A moment is read back from the text it is written as. The fraction of a literal is a number of
milliseconds, whatever its digits are, so that the three digits of a full text are read as they are
meant; without a fraction the second is read.

* `ClockFields.InRange.read_render_zero`, `ClockFields.InRange.read_render_three`: the fields of a
  clock are read back, without and with the milliseconds.
* `Timestamp.read_render`: the text of a moment is read as its day and what its time is read as.
* `Timestamp.parse_format_of_fits`: moments and times of day are read back from their texts.
-/

namespace CivilTime

/-! ## Clocks -/

namespace ClockFields

variable {fields : ClockFields}

/-- The fields are in their usual ranges. -/
def InRange (fields : ClockFields) : Prop :=
  fields.hour ≤ 23 ∧ fields.minute ≤ 59 ∧ fields.second ≤ 59 ∧ fields.millisecond ≤ 999

theorem InRange.isNumeral (h : fields.InRange) (width : Nat) :
    Text.IsNumeral (Text.padded width fields.hour) ∧
      Text.IsNumeral (Text.padded width fields.minute) ∧
      Text.IsNumeral (Text.padded width fields.second) ∧
      Text.IsNumeral (Text.padded width fields.millisecond) := by
  obtain ⟨hhour, hminute, hsecond, hmillisecond⟩ := h
  refine ⟨?_, ?_, ?_, ?_⟩
  all_goals
    apply Text.isNumeral_padded
    unfold Fits32
    omega

/-- Without fraction digits the millisecond of a text is zero. -/
theorem InRange.read_render_zero (h : fields.InRange) :
    ClockTime.read (fields.render 0) =
      .ok (ClockTime.ofFields fields.hour fields.minute fields.second 0) := by
  obtain ⟨hhour, hminute, hsecond, -⟩ := h.isNumeral 2
  have hread := ClockTime.read_digits hhour hminute hsecond
  simp only [Text.value_padded] at hread
  simpa [render, renderFraction] using hread

/-- Three fraction digits are the number of milliseconds. -/
theorem InRange.read_render_three (h : fields.InRange) :
    ClockTime.read (fields.render 3) =
      .ok (ClockTime.ofFields fields.hour fields.minute fields.second fields.millisecond) := by
  obtain ⟨hhour, hminute, hsecond, -⟩ := h.isNumeral 2
  obtain ⟨-, -, -, hfraction⟩ := h.isNumeral 3
  have hdigits : fractionDigits fields.millisecond 3 = Text.padded 3 fields.millisecond := by
    rw [fractionDigits_of_ge h.2.2.2 (Nat.le_refl 3)]
    simp
  have hread := ClockTime.read_fraction hhour hminute hsecond hfraction
  simp only [Text.value_padded] at hread
  simpa [render, renderFraction, hdigits] using hread

/-- The text of a clock is made of digits, colons and a point. -/
theorem mem_render {digits : Nat} {c : Char} (h : c ∈ fields.render digits) :
    c.isDigit = true ∨ c = ':' ∨ c = '.' := by
  simp only [render, renderFraction, List.mem_append, List.mem_cons] at h
  rcases h with ((hc | rfl | hc) | rfl | hc) | hc
  · exact .inl (Text.isDigit_of_mem_padded hc)
  · exact .inr (.inl rfl)
  · exact .inl (Text.isDigit_of_mem_padded hc)
  · exact .inr (.inl rfl)
  · exact .inl (Text.isDigit_of_mem_padded hc)
  · split_ifs at hc with hzero
    · cases hc
    · rcases List.mem_cons.1 hc with rfl | hc
      · exact .inr (.inr rfl)
      · exact .inl (isDigit_of_mem_fractionDigits hc)

end ClockFields

theorem clockFields_inRange (millis : Int) : (clockFields millis).InRange :=
  clockFields_bounds millis

namespace ClockTime

/-- The fields of a number of milliseconds down to the second are its whole seconds in the day. -/
theorem toInt_ofFields_second (millis : Int) :
    (ofFields (clockFields millis).hour (clockFields millis).minute (clockFields millis).second
      0).toInt = millis % msPerDay / msPerSecond * msPerSecond := by
  have hclock := clockMillis_clockFields millis
  have hrest := clockFields_millisecond millis
  have hsecond : clockMillis (clockFields millis).hour (clockFields millis).minute
      (clockFields millis).second 0 = millis % msPerDay / msPerSecond * msPerSecond := by
    unfold clockMillis msPerDay msPerHour msPerMinute msPerSecond at *
    omega
  rw [ofFields, hsecond]
  apply toInt_ofInt
  unfold Fits32 msPerDay msPerHour msPerMinute msPerSecond
  omega

theorem toInt_ofFields_clockFields (millis : Int) :
    (ofFields (clockFields millis).hour (clockFields millis).minute (clockFields millis).second
      (clockFields millis).millisecond).toInt = millis % msPerDay := by
  rw [ofFields, clockMillis_clockFields]
  apply toInt_ofInt
  unfold Fits32 msPerDay msPerHour msPerMinute msPerSecond
  omega

/-- A number of milliseconds is read from its text without a fraction as the second in its day. -/
theorem exists_read_renderClock_zero (millis : Int) :
    ∃ second, read (renderClock millis 0) = .ok second ∧
      second.toInt = millis % msPerDay / msPerSecond * msPerSecond :=
  ⟨_, (clockFields_inRange millis).read_render_zero, toInt_ofFields_second millis⟩

/-- A number of milliseconds is read from its text with three fraction digits as the millisecond in
    its day. -/
theorem exists_read_renderClock_three (millis : Int) :
    ∃ time, read (renderClock millis 3) = .ok time ∧ time.toInt = millis % msPerDay :=
  ⟨_, (clockFields_inRange millis).read_render_three, toInt_ofFields_clockFields millis⟩

end ClockTime

/-! ## Moments -/

/-- The text of a date is made of digits and minus signs. -/
theorem CivilDate.mem_render {date : CivilDate} {c : Char} (h : c ∈ date.render) :
    c.isDigit = true ∨ c = '-' := by
  simp only [render, renderYear, List.mem_append, List.mem_cons] at h
  rcases h with (((hc | hc) | rfl | hc) | rfl | hc)
  · split_ifs at hc with hneg
    · exact .inr (List.mem_singleton.1 hc)
    · cases hc
  · exact .inl (Text.isDigit_of_mem_padded hc)
  · exact .inr rfl
  · exact .inl (Text.isDigit_of_mem_padded hc)
  · exact .inr rfl
  · exact .inl (Text.isDigit_of_mem_padded hc)

namespace Timestamp

/-- The text of a moment is read as its day, and as what the text of its time is read as. -/
theorem read_render (moment : Timestamp) (digits : Nat) {clock : ClockTime}
    (hclock : ClockTime.read (renderClock moment.timeOfDay.toInt digits) = .ok clock) :
    read (moment.render digits) = .ok (ofDateAndTime moment.date clock) := by
  have hspace : ' ' ∉ moment.date.render := by
    intro hmem
    rcases CivilDate.mem_render hmem with hc | hc
    · cases hc
    · cases hc
  exact read_append (Text.not_mem_trim _ hspace) moment.date.read_render hclock

theorem toInt_date_mul_add {moment : Timestamp} (h : Fits32 (moment.toInt / msPerDay)) :
    moment.date.toInt * msPerDay + moment.toInt % msPerDay = moment.toInt := by
  rw [toInt_date h]
  exact Int.ediv_mul_add_emod moment.toInt msPerDay

/-- A moment whose day fits in 32 bits is read back from its text with three fraction digits, and
    without them as the second that it lies in. A time of day is read back from its text as the
    second of its day. -/
theorem parse_format_of_fits :
    (∀ moment : Timestamp, Fits32 (moment.toInt / msPerDay) →
      parse (moment.format 3) = .ok moment ∧
      ∃ second, parse (moment.format 0) = .ok second ∧
        second.toInt = moment.toInt - moment.toInt % msPerSecond) ∧
    ∀ time : ClockTime, ∃ second, ClockTime.parse time.format 0 = .ok second ∧
      second.toInt = time.toInt % msPerDay / msPerSecond * msPerSecond := by
  refine ⟨fun moment hday => ⟨?_, ?_⟩, fun time => ?_⟩
  · obtain ⟨clock, hclock, hmillis⟩ :=
      ClockTime.exists_read_renderClock_three moment.timeOfDay.toInt
    have hsame : ofDateAndTime moment.date clock = moment := by
      apply ext
      rw [toInt_ofDateAndTime, hmillis, toInt_timeOfDay, Int.emod_emod_of_dvd _ (Int.dvd_refl _)]
      exact toInt_date_mul_add hday
    rw [parse, format, String.toList_ofList, moment.read_render 3 hclock, hsame]
  · obtain ⟨clock, hclock, hmillis⟩ :=
      ClockTime.exists_read_renderClock_zero moment.timeOfDay.toInt
    refine ⟨ofDateAndTime moment.date clock, ?_, ?_⟩
    · rw [parse, format, String.toList_ofList, moment.read_render 0 hclock]
    · have hsplit := toInt_date_mul_add hday
      rw [toInt_ofDateAndTime, hmillis, toInt_timeOfDay]
      unfold msPerDay msPerHour msPerMinute msPerSecond at *
      omega
  · rw [ClockTime.format, ClockTime.render, ClockTime.parse_zero, String.toList_ofList]
    exact ClockTime.exists_read_renderClock_zero time.toInt

/-- The last moment whose day fits, on a date that has wrapped around to a negative year, and a time
    before its midnight. -/
theorem parse_format_of_fits_last :
    Fits32 ((ofInt 185542587187199999).toInt / msPerDay) ∧
      parse "-5877520-03-02 23:59:59.999" = .ok (ofInt 185542587187199999) ∧
      (∃ second, parse "-5877520-03-02 23:59:59" = .ok second ∧
        second.toInt = 185542587187199000) ∧
      ∃ second, ClockTime.parse "23:59:59" 0 = .ok second ∧ second.toInt = 86399000 := by
  have hday : Fits32 ((ofInt 185542587187199999).toInt / msPerDay) := by decide
  have htext : (ofInt 185542587187199999).format 3 = "-5877520-03-02 23:59:59.999" := by
    decide +kernel
  have hsecond : (ofInt 185542587187199999).format 0 = "-5877520-03-02 23:59:59" := by
    decide +kernel
  have htime : (ClockTime.ofInt (-1)).format = "23:59:59" := by decide +kernel
  obtain ⟨hfull, hwhole⟩ := parse_format_of_fits.1 (ofInt 185542587187199999) hday
  have hclock := parse_format_of_fits.2 (ClockTime.ofInt (-1))
  rw [htext] at hfull
  rw [hsecond] at hwhole
  rw [htime] at hclock
  exact ⟨hday, hfull, hwhole, hclock⟩

end Timestamp

end CivilTime
