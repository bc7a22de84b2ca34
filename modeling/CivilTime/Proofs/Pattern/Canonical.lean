import CivilTime.Proofs.Pattern.Fraction
import CivilTime.Proofs.Pattern.Render
import CivilTime.Proofs.Rounding
import CivilTime.Proofs.WallClock

/-!
# The text of a timestamp as a pattern

A moment is written as its wall clock by one pattern, with a fraction behind it, and is read back
from that text up to the digits that were cut off.

* `Pattern.timestamp`: the pattern that moments are written with.
* `Timestamp.render_eq`: how a moment is written with it.
* `Pattern.readPrecise?_renderFraction`: reading the fraction.
* `WallClock.addMillis_fraction`: the second and the digits of a clock at an offset.
* `PreciseTimestamp.parseAs?_format_shown`: reading the text of a clock at an offset.
* `PreciseTimestamp.parseAs?_format`: reading the whole text at any offset.
-/

namespace CivilTime

/-! ## Writing -/

namespace Pattern

/-- The pattern of a timestamp. -/
def timestamp : Pattern :=
  ⟨[.field .year 4, .literal '-', .field .month 2, .literal '-', .field .day 2, .literal ' ',
    .field .hour 2, .literal ':', .field .minute 2, .literal ':', .field .second 2]⟩

theorem compile_timestampText : compile timestampText = .ok timestamp := by decide

theorem names_timestamp {field : PatternField} (h : ¬ Names timestamp.items field) :
    field = .millisecond := by
  revert h
  cases field <;> decide

end Pattern

theorem renderYear_of_nonneg {year : Int} (h : 0 ≤ year) :
    renderYear year = Text.padded 4 year.toNat := by
  have habs : year.natAbs = year.toNat := by omega
  rw [renderYear, if_neg (by omega), List.nil_append, habs]

/-- A moment is written as its wall clock and a fraction. -/
theorem Timestamp.render_eq {moment : Timestamp} (hyear : 0 ≤ moment.date.date.year)
    (digits : Nat) : moment.render digits =
      Pattern.timestamp.render (WallClock.ofTimestamp moment).wholeSecond ++
        renderFraction moment.timeOfDay.fields.millisecond digits := by
  simp only [Timestamp.render, EpochDay.render, CivilDate.render, renderYear_of_nonneg hyear,
    renderClock, ClockFields.render, Pattern.timestamp, Pattern.render, PatternItem.render,
    WallClock.get, WallClock.wholeSecond, WallClock.ofTimestamp, ClockTime.fields,
    List.flatMap_cons, List.flatMap_nil, Int.toNat_natCast, List.append_assoc, List.cons_append,
    List.nil_append, List.append_nil]

/-! ## Reading -/

namespace Pattern

theorem noDigitFirst_renderFraction (millisecond count : Nat) :
    NoDigitFirst (renderFraction millisecond count) := by
  unfold renderFraction
  split_ifs with h
  · exact noDigitFirst_nil
  · exact noDigitFirst_cons.2 rfl

/-- A fraction that is written behind what a pattern reads is read back. -/
theorem readPrecise?_renderFraction {pattern : Pattern} {text : List Char} {zone : Offset}
    {moment : Timestamp} {millisecond : Nat} (hms : millisecond ≤ 999) (count : Nat)
    (h : pattern.readStart? text zone = some (moment, renderFraction millisecond count)) :
    pattern.readPrecise? text zone =
      some ⟨moment.addMillis (millisecond / fractionUnit count * fractionUnit count : Nat),
        min count 3⟩ := by
  have hmillis := fractionMillis_fractionDigits hms count
  rw [readPrecise?, h]
  unfold renderFraction
  split_ifs with hcount
  · have hnone : millisecond / fractionUnit count = 0 := by
      rw [hcount]
      exact Nat.div_eq_of_lt (Nat.lt_succ_of_le hms)
    rw [hnone, Nat.zero_mul, Int.natCast_zero, moment.addMillis_zero, hcount, Nat.zero_min]
  · have hall : (fractionDigits millisecond count).all Char.isDigit = true :=
      List.all_eq_true.2 fun c hc => isDigit_of_mem_fractionDigits hc
    simp only [hall, if_true, hmillis, length_fractionDigits]

end Pattern

/-- The second that a clock at an offset shows, with some digits of the fraction, is the moment
    rounded down. -/
theorem WallClock.addMillis_fraction {moment shown : Timestamp} {zone : Offset}
    (hshown : shown = moment.addMillis zone.millis) (hday : Fits32 (shown.toInt / msPerDay))
    (digits : Nat) :
    ((ofTimestamp shown).wholeSecond.toTimestamp.addMillis (-zone.millis)).addMillis
        (shown.timeOfDay.fields.millisecond / fractionUnit digits * fractionUnit digits : Nat) =
      moment.round digits .floor := by
  have hshift : shown.toInt = moment.toInt + zone.seconds * msPerSecond := by
    rw [hshown] at hday ⊢
    exact moment.toInt_addMillis_offset zone hday
  have hsecond := toInt_wholeSecond_ofTimestamp hday
  rw [hshift, Int.add_mul_emod_self_right] at hsecond
  have hrest : (shown.timeOfDay.fields.millisecond : Int) = moment.toInt % msPerSecond := by
    have hms : (shown.timeOfDay.fields.millisecond : Int) = shown.toInt % msPerSecond :=
      millisecond_ofTimestamp shown
    rw [hms, hshift, Int.add_mul_emod_self_right]
  -- the offset is a number of whole seconds, so that the digits are those of the moment
  have htotal : (ofTimestamp shown).wholeSecond.toTimestamp.toInt + (-zone.millis +
      (shown.timeOfDay.fields.millisecond / fractionUnit digits * fractionUnit digits : Nat)) =
      moment.toInt / fractionUnit digits * fractionUnit digits := by
    have hzone : zone.millis = zone.seconds * msPerSecond := rfl
    rw [ediv_mul_of_dvd moment.toInt (fractionUnit_dvd digits), hsecond, hzone, Int.natCast_mul,
      Int.natCast_ediv, hrest]
    omega
  have hfits : Fits64 (moment.toInt / fractionUnit digits * fractionUnit digits) := by
    have hbounds := cutOff_bounds moment.toInt digits
    have hlower := zone.lower
    have hupper := zone.upper
    unfold Fits32 Fits64 msPerDay msPerHour msPerMinute msPerSecond at *
    omega
  apply Timestamp.ext
  rw [Timestamp.addMillis_addMillis, Timestamp.toInt_addMillis (by rwa [htotal]), htotal,
    moment.toInt_round_floor]
  exact (Int.max_eq_right hfits.1).symm

/-- The text of a moment is read up to its fraction. -/
theorem Timestamp.readStart?_render {moment : Timestamp} (hyear : 0 ≤ moment.date.date.year)
    (digits : Nat) (zone : Offset) :
    Pattern.timestamp.readStart? (moment.render digits) zone =
      some ((WallClock.ofTimestamp moment).wholeSecond.toTimestamp.addMillis (-zone.millis),
        renderFraction moment.timeOfDay.fields.millisecond digits) := by
  have hbounds := moment.date.year_bounds
  have hlegal := (WallClock.ofTimestamp_isLegal moment).wholeSecond
  have hfits : Fits32 moment.date.date.year := by
    unfold Fits32
    omega
  have hread : Pattern.IsReadable (WallClock.ofTimestamp moment).wholeSecond
      Pattern.timestamp.items := by
    refine Pattern.isReadable_of_isSeparated (by decide) (hlegal.get_lt ?_)
    exact Int.lt_trans hbounds.2 (by decide)
  have hdefault : ∀ field, ¬ Pattern.Names Pattern.timestamp.items field →
      (WallClock.ofTimestamp moment).wholeSecond.get field = ({} : WallClock).get field := by
    intro field h
    rw [Pattern.names_timestamp h]
    rfl
  rw [render_eq hyear]
  exact Pattern.readStart?_render hlegal hyear hfits hdefault hread
    (Pattern.noDigitFirst_renderFraction _ _) zone

namespace PreciseTimestamp

/-- A clock at an offset is written and read there as the moment it shows, rounded down to the
    digits that are written. -/
theorem parseAs?_format_shown {moment shown : Timestamp} {zone : Offset}
    (hshown : shown = moment.addMillis zone.millis) (hday : Fits32 (shown.toInt / msPerDay))
    (hyear : 0 ≤ shown.date.date.year) (digits : Nat) :
    parseAs? Pattern.timestampText (shown.format digits) zone =
      some ⟨moment.round digits .floor, min digits 3⟩ := by
  have hms : shown.timeOfDay.fields.millisecond ≤ 999 :=
    (clockFields_bounds shown.timeOfDay.toInt).2.2.2
  have hread := Pattern.readPrecise?_renderFraction hms digits
    (Timestamp.readStart?_render hyear digits zone)
  rw [WallClock.addMillis_fraction hshown hday] at hread
  rw [parseAs?, Pattern.compile_timestampText, Timestamp.format]
  simp only [Except.toOption, Option.bind_eq_bind, Option.bind_some, Pattern.parsePrecise?,
    String.toList_ofList]
  exact hread

/-- A moment that is written at an offset is read back at that offset, rounded down to the digits
    that are written, if its day fits in 32 bits and its year is not negative. -/
theorem parseAs?_format (moment : Timestamp) (zone : Offset) (digits : Nat)
    (hday : Fits32 ((moment.addMillis zone.millis).toInt / msPerDay))
    (hyear : 0 ≤ (moment.addMillis zone.millis).date.date.year) :
    parseAs? Pattern.timestampText ((moment.addMillis zone.millis).format digits) zone =
        some ⟨moment.round digits .floor, min digits 3⟩ ∧
      (3 ≤ digits → moment.round digits .floor = moment) :=
  ⟨parseAs?_format_shown rfl hday hyear digits, fun h => moment.round_of_three_le h .floor⟩

/-- The last millisecond before the change of calendar, written a second to the west. -/
theorem parseAs?_format_change :
    Fits32 (((Timestamp.ofInt (-12219292800001)).addMillis (-1000)).toInt / msPerDay) ∧
    0 ≤ ((Timestamp.ofInt (-12219292800001)).addMillis (-1000)).date.date.year ∧
    parseAs? Pattern.timestampText "1582-10-04 23:59:58.99" ⟨-1, by decide, by decide⟩ =
      some ⟨Timestamp.ofInt (-12219292800010), 2⟩ := by
  have hmillis : (⟨-1, by decide, by decide⟩ : Offset).millis = -1000 := rfl
  have hday : Fits32 (((Timestamp.ofInt (-12219292800001)).addMillis (-1000)).toInt / msPerDay) :=
    by decide
  have hyear : 0 ≤ ((Timestamp.ofInt (-12219292800001)).addMillis (-1000)).date.date.year := by
    decide
  have htext : ((Timestamp.ofInt (-12219292800001)).addMillis (-1000)).format 2 =
      "1582-10-04 23:59:58.99" := by decide +kernel
  have hround : (Timestamp.ofInt (-12219292800001)).round 2 .floor =
      Timestamp.ofInt (-12219292800010) := by decide
  have hparse := (parseAs?_format (Timestamp.ofInt (-12219292800001)) ⟨-1, by decide, by decide⟩ 2
    (by rwa [hmillis]) (by rwa [hmillis])).1
  rw [hmillis, htext, hround] at hparse
  exact ⟨hday, hyear, hparse⟩

end PreciseTimestamp

end CivilTime
