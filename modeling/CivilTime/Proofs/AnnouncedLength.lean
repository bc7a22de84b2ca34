import CivilTime.Offset
import CivilTime.Proofs.Pattern.Fraction
import CivilTime.Proofs.Text.Bytes
import CivilTime.Timestamp

/-!
# Announced lengths

The length of a text is announced before the text is written. It is counted from the fields alone
and should be the number of bytes that the text takes.

* `Text.byteLength_padded`: a padded number takes a byte for each digit.
* `CivilDate.announcedLength_exact_iff`: a date is announced too short exactly if its month or its
  day has a third digit.
* `CivilDate.announcedLength_monthHundred`: a date that is.
* `announcedLengths_exact`: times, moments and offsets are announced with the length of their texts.
-/

namespace CivilTime

/-! ## Bytes of numbers -/

namespace Text

theorem utf8ByteSize_ofList (text : List Char) :
    (String.ofList text).utf8ByteSize = byteLength text := by
  rw [← byteLength_toList, String.toList_ofList]

theorem byteLength_padded (width n : Nat) :
    byteLength (padded width n) = max width (digitCount n) := by
  rw [byteLength_of_isDigit fun c hc => isDigit_of_mem_padded hc, length_padded]

/-- A number below a hundred is written with two digits. -/
theorem byteLength_padded_two {n : Nat} (h : n ≤ 99) : byteLength (padded 2 n) = 2 := by
  rw [byteLength_padded, max_eq_left (digitCount_le (by decide) (by omega))]

end Text

/-! ## Dates -/

theorem byteLength_renderYear (year : Int) :
    Text.byteLength (renderYear year) =
      max (Text.digitCount year.natAbs) 4 + if year < 0 then 1 else 0 := by
  have hminus : '-'.utf8Size = 1 := rfl
  unfold renderYear
  split_ifs
  all_goals
    rw [Text.byteLength_append, Text.byteLength_padded]
    simp only [Text.byteLength_cons, Text.byteLength_nil]
    omega

namespace CivilDate

variable (date : CivilDate)

/-- Two digits are announced for a month and for a day, whatever they are written with. -/
theorem byteLength_render :
    Text.byteLength date.render + 4 =
      date.announcedLength + max 2 (Text.digitCount date.month) +
        max 2 (Text.digitCount date.day) := by
  have hminus : '-'.utf8Size = 1 := rfl
  simp only [render, Text.byteLength_append, Text.byteLength_cons, byteLength_renderYear,
    Text.byteLength_padded, hminus, announcedLength]
  omega

theorem announcedLength_eq (hmonth : date.month ≤ 99) (hday : date.day ≤ 99) :
    date.announcedLength = Text.byteLength date.render := by
  have hlength := date.byteLength_render
  rw [← Text.byteLength_padded, ← Text.byteLength_padded, Text.byteLength_padded_two hmonth,
    Text.byteLength_padded_two hday] at hlength
  omega

/-- A date is never announced too long, and too short exactly if its month or its day has a third
    digit. -/
theorem announcedLength_exact_iff :
    date.announcedLength ≤ date.format.utf8ByteSize ∧
      (date.announcedLength = date.format.utf8ByteSize ↔ date.month ≤ 99 ∧ date.day ≤ 99) := by
  have hlength := date.byteLength_render
  have hmonth : Text.digitCount date.month ≤ 2 ↔ date.month < 10 ^ 2 :=
    Text.digitCount_le_iff (by decide)
  have hday : Text.digitCount date.day ≤ 2 ↔ date.day < 10 ^ 2 := Text.digitCount_le_iff (by decide)
  rw [format, Text.utf8ByteSize_ofList]
  omega

/-- A month of three digits takes one byte more than was announced. -/
theorem announcedLength_monthHundred :
    ((⟨2024, 100, 1⟩ : CivilDate).format = "2024-100-01" ∧
      (⟨2024, 100, 1⟩ : CivilDate).announcedLength = 10 ∧
      "2024-100-01".utf8ByteSize = 11) ∧
    ¬ ∀ date : CivilDate, Fits32 date.year → date.month ≤ 255 → date.day ≤ 255 →
      date.announcedLength = date.format.utf8ByteSize := by
  have htext : (⟨2024, 100, 1⟩ : CivilDate).format = "2024-100-01" := by decide +kernel
  have hannounced : (⟨2024, 100, 1⟩ : CivilDate).announcedLength = 10 := by decide +kernel
  refine ⟨⟨htext, hannounced, by decide⟩, fun hexact => ?_⟩
  have hlength := hexact ⟨2024, 100, 1⟩ (by decide) (by decide) (by decide)
  rw [htext, hannounced] at hlength
  exact absurd hlength (by decide)

end CivilDate

theorem EpochDay.announcedLength_date (day : EpochDay) :
    day.date.announcedLength = Text.byteLength day.render := by
  have hbounds : 1 ≤ day.date.month ∧ day.date.month ≤ 12 ∧ 1 ≤ day.date.day ∧
      day.date.day ≤ 31 := civilDate_bounds day.toJulianDay.toInt
  exact day.date.announcedLength_eq (by omega) (by omega)

/-! ## Times -/

theorem byteLength_renderFraction (millisecond digits : Nat) :
    Text.byteLength (renderFraction millisecond digits) = if digits = 0 then 0 else 1 + digits := by
  have hpoint : '.'.utf8Size = 1 := rfl
  unfold renderFraction
  split_ifs with hdigits
  · rfl
  · rw [Text.byteLength_cons,
      Text.byteLength_of_isDigit fun c hc => isDigit_of_mem_fractionDigits hc,
      length_fractionDigits, hpoint]

theorem announcedClockLength_eq (millis : Int) (digits : Nat) :
    announcedClockLength digits = Text.byteLength (renderClock millis digits) := by
  have hcolon : ':'.utf8Size = 1 := rfl
  obtain ⟨hhour, hminute, hsecond, -⟩ := clockFields_bounds millis
  simp only [renderClock, ClockFields.render, Text.byteLength_append, Text.byteLength_cons, hcolon,
    Text.byteLength_padded_two (show (clockFields millis).hour ≤ 99 by omega),
    Text.byteLength_padded_two (show (clockFields millis).minute ≤ 99 by omega),
    Text.byteLength_padded_two (show (clockFields millis).second ≤ 99 by omega),
    byteLength_renderFraction, announcedClockLength]
  split_ifs <;> omega

/-! ## Moments and offsets -/

theorem Timestamp.announcedLength_eq (moment : Timestamp) (digits : Nat) :
    moment.announcedLength digits = Text.byteLength (moment.render digits) := by
  have hspace : ' '.utf8Size = 1 := rfl
  rw [announcedLength, EpochDay.announcedLength_date,
    announcedClockLength_eq moment.timeOfDay.toInt digits, render, Text.byteLength_append,
    Text.byteLength_cons, hspace]
  omega

theorem Offset.announcedLength_eq (offset : Offset) :
    offset.announcedLength = Text.byteLength offset.render := by
  have hcolon : ':'.utf8Size = 1 := rfl
  have hlower := offset.lower
  have hupper := offset.upper
  have hsign : (Text.signChar offset.seconds).utf8Size = 1 := by
    unfold Text.signChar
    split_ifs <;> rfl
  generalize hn : offset.seconds.natAbs = n
  have hhour : Text.byteLength (Text.padded 2 (n / 3600)) = 2 :=
    Text.byteLength_padded_two (by omega)
  have hminute : Text.byteLength (Text.padded 2 (n / 60 % 60)) = 2 :=
    Text.byteLength_padded_two (by omega)
  have hsecond : Text.byteLength (Text.padded 2 (n % 60)) = 2 :=
    Text.byteLength_padded_two (by omega)
  simp only [announcedLength, render, hn]
  split_ifs
  all_goals
    simp only [Text.byteLength_append, Text.byteLength_cons, Text.byteLength_nil, hsign, hcolon,
      hhour, hminute, hsecond]

/-- Times of day, moments and offsets are announced with the number of bytes of their texts. -/
theorem announcedLengths_exact :
    (∀ (millis : Int) (digits : Nat),
      announcedClockLength digits = (String.ofList (renderClock millis digits)).utf8ByteSize) ∧
    (∀ (moment : Timestamp) (digits : Nat),
      moment.announcedLength digits = (moment.format digits).utf8ByteSize) ∧
    ∀ offset : Offset, offset.announcedLength = offset.format.utf8ByteSize := by
  refine ⟨fun millis digits => ?_, fun moment digits => ?_, fun offset => ?_⟩
  · rw [Text.utf8ByteSize_ofList, announcedClockLength_eq]
  · rw [Timestamp.format, Text.utf8ByteSize_ofList, moment.announcedLength_eq]
  · rw [Offset.format, Text.utf8ByteSize_ofList, offset.announcedLength_eq]

end CivilTime
