import CivilTime.Proofs.Literal.Written
import CivilTime.Proofs.Pattern.Canonical
import CivilTime.Proofs.Pattern.Grammar

/-!
# Patterns and literals

A text in which the pattern of a date, a time or a timestamp finds a moment is also a literal, and
its value is that moment on a wall clock. Its fields may have other widths than those of the
pattern, and its year may be one whose days have numbers that do not fit in 32 bits.

* `Pattern.date`, `Pattern.clock`: the patterns of dates and times.
* `Pattern.Splits.exists_numerals`: the pieces of three fields with a separator between them.
* `EpochDay.read_of_splits`, `ClockTime.read_of_splits`, `Timestamp.read_of_splits`: the pieces of a
  pattern as a literal.
* `Pattern.literals_agree`: the literal of a text and what a pattern finds in it.
-/

namespace CivilTime

open Text (IsDigits IsNumeral value)

/-! ## Pieces -/

namespace Pattern

/-- The pattern of a date. -/
def date : Pattern :=
  ⟨[.field .year 4, .literal '-', .field .month 2, .literal '-', .field .day 2]⟩

/-- The pattern of a time. -/
def clock : Pattern :=
  ⟨[.field .hour 2, .literal ':', .field .minute 2, .literal ':', .field .second 2]⟩

theorem compile_dateText : compile dateText = .ok date := by decide

theorem compile_timeText : compile timeText = .ok clock := by decide

section
variable {items : List PatternItem} {text rest : List Char} {pieces : List (List Char)}

theorem get_assign {field : PatternField} (wall : WallClock) (h : ¬ Names items field)
    (pieces : List (List Char)) : (assign wall items pieces).get field = wall.get field := by
  induction items generalizing wall pieces with
  | nil => rfl
  | cons item items ih =>
    cases pieces with
    | nil => rfl
    | cons piece pieces =>
      cases item with
      | literal c =>
        rw [names_literal] at h
        rw [assign_literal, ih wall h]
      | field next width =>
        rw [names_field, not_or] at h
        rw [assign_field, ih _ h.2, WallClock.get_set, if_neg h.1]

/-- A field that no item names is that of the start of 1970. -/
theorem get_fieldsOf {pattern : Pattern} (field : PatternField)
    (h : ¬ Names pattern.items field) (pieces : List (List Char)) :
    (pattern.fieldsOf pieces).get field = ({} : WallClock).get field :=
  get_assign {} h pieces

theorem IsFieldText.isNumeral {width : Nat} {piece : List Char}
    (h : IsFieldText width items piece rest) (hwidth : 0 < width) : IsNumeral piece :=
  ⟨⟨h.ne_nil hwidth, h.1⟩, h.2.1⟩

/-- A character that is no digit stands in a piece only if it is a literal. -/
theorem Splits.not_mem_flatten (h : Splits items text pieces rest) {c : Char}
    (hdigit : c.isDigit = false) (hitems : .literal c ∉ items) : c ∉ pieces.flatten := by
  induction h with
  | nil rest => exact List.not_mem_nil
  | literal d _ ih =>
    rw [List.mem_cons, not_or] at hitems
    rw [List.flatten_cons, List.singleton_append, List.mem_cons, not_or]
    refine ⟨?_, ih hitems.2⟩
    rintro rfl
    exact hitems.1 rfl
  | field field head _ ih =>
    rw [List.mem_cons, not_or] at hitems
    rw [List.flatten_cons, List.mem_append, not_or]
    refine ⟨fun hmem => ?_, ih hitems.2⟩
    rw [head.1 c hmem] at hdigit
    cases hdigit

/-- The pieces of three fields with a separator between them are numerals. -/
theorem Splits.exists_numerals {a b c : PatternField} {k l m : Nat} {separator : Char}
    (h : Splits (.field a k :: .literal separator :: .field b l :: .literal separator ::
      .field c m :: items) text pieces rest) (hk : 0 < k) (hl : 0 < l) (hm : 0 < m) :
    ∃ first second third tail tailPieces,
      IsNumeral first ∧ IsNumeral second ∧ IsNumeral third ∧
      text = first ++ separator :: (second ++ separator :: (third ++ tail)) ∧
      pieces = first :: [separator] :: second :: [separator] :: third :: tailPieces ∧
      Splits items tail tailPieces rest := by
  -- at each item only one constructor is possible
  obtain _ | _ | ⟨_, hfirst, h⟩ := h
  obtain _ | ⟨_, h⟩ := h
  obtain _ | _ | ⟨_, hsecond, h⟩ := h
  obtain _ | ⟨_, h⟩ := h
  obtain _ | _ | ⟨_, hthird, h⟩ := h
  exact ⟨_, _, _, _, _, hfirst.isNumeral hk, hsecond.isNumeral hl, hthird.isNumeral hm, rfl, rfl, h⟩

end

end Pattern

open Pattern

/-! ## Pieces as a literal -/

namespace Literal

/-- What may stand behind the second of a literal, and its number of milliseconds. -/
inductive IsFraction : List Char → Nat → Prop
  /-- No fraction. -/
  | none : IsFraction [] 0
  /-- A point and a number of milliseconds. -/
  | digits {fraction : List Char} (h : IsNumeral fraction) :
      IsFraction ('.' :: fraction) (value fraction)

end Literal

open Literal

section
variable {text rest : List Char} {pieces : List (List Char)}

theorem EpochDay.read_of_splits (h : Splits Pattern.date.items text pieces []) :
    EpochDay.read text = .ok (EpochDay.ofFields (Pattern.date.fieldsOf pieces).year
      (Pattern.date.fieldsOf pieces).month (Pattern.date.fieldsOf pieces).day) := by
  obtain ⟨year, month, day, tail, _, hyear, hmonth, hday, rfl, rfl, hend⟩ :=
    h.exists_numerals (by decide) (by decide) (by decide)
  cases hend
  rw [List.append_nil]
  exact EpochDay.read_digits hyear hmonth hday

theorem ClockTime.read_of_splits {millisecond : Nat}
    (h : Splits Pattern.clock.items text pieces rest) (hfraction : IsFraction rest millisecond) :
    ClockTime.read text = .ok (ClockTime.ofFields (Pattern.clock.fieldsOf pieces).hour
      (Pattern.clock.fieldsOf pieces).minute (Pattern.clock.fieldsOf pieces).second
      millisecond) := by
  obtain ⟨hour, minute, second, tail, _, hhour, hminute, hsecond, rfl, rfl, hend⟩ :=
    h.exists_numerals (by decide) (by decide) (by decide)
  cases hend
  cases hfraction with
  | none =>
    rw [List.append_nil]
    exact ClockTime.read_digits hhour hminute hsecond
  | digits hfraction => exact ClockTime.read_fraction hhour hminute hsecond hfraction

theorem Timestamp.read_of_splits {millisecond : Nat}
    (h : Splits timestamp.items text pieces rest) (hfraction : IsFraction rest millisecond) :
    Timestamp.read text = .ok
      ({ timestamp.fieldsOf pieces with millisecond := millisecond } : WallClock).toTimestamp := by
  obtain ⟨year, month, day, _, _, hyear, hmonth, hday, rfl, rfl, hspace⟩ :=
    h.exists_numerals (by decide) (by decide) (by decide)
  obtain _ | ⟨_, htime⟩ := hspace
  have hclock := ClockTime.read_of_splits htime hfraction
  obtain ⟨_, _, _, _, _, -, -, -, rfl, rfl, hend⟩ :=
    htime.exists_numerals (by decide) (by decide) (by decide)
  cases hend
  exact Timestamp.read_digits hyear hmonth hday hclock

end

/-! ## What a pattern finds -/

theorem Pattern.parseAs?_sound {source text : String} {pattern : Pattern} {zone : Offset}
    {moment : Timestamp} (hcompile : compile source = .ok pattern)
    (h : Timestamp.parseAs? source text zone = some moment) :
    ∃ pieces, Splits pattern.items text.toList pieces [] ∧
      moment.toInt + zone.millis = (pattern.fieldsOf pieces).toTimestamp.toInt := by
  rw [Timestamp.parseAs?, hcompile] at h
  simp only [Except.toOption, Option.bind_eq_bind, Option.bind_some, parse?, read?] at h
  split at h
  · rename_i found hread
    obtain rfl := Option.some.inj h
    obtain ⟨pieces, hsplit, -, rfl⟩ := readStart?_sound hread
    exact ⟨pieces, hsplit, WallClock.toInt_addMillis_neg _ zone⟩
  · cases h

/-- A moment that is found with its fraction is found before nothing or before a point and
    digits. -/
theorem Pattern.readPrecise?_cases {pattern : Pattern} {text : List Char} {zone : Offset}
    {precise : PreciseTimestamp} (h : pattern.readPrecise? text zone = some precise) :
    ∃ moment, (pattern.readStart? text zone = some (moment, []) ∧ precise = ⟨moment, 0⟩) ∨
      ∃ digits, pattern.readStart? text zone = some (moment, '.' :: digits) ∧
        (∀ c ∈ digits, c.isDigit = true) ∧
        precise = ⟨moment.addMillis (fractionMillis digits), min digits.length 3⟩ := by
  unfold readPrecise? at h
  split at h
  · rename_i moment hread
    exact ⟨moment, .inl ⟨hread, (Option.some.inj h).symm⟩⟩
  · rename_i moment digits hread
    split_ifs at h with hdigits
    exact ⟨moment, .inr ⟨digits, hread, List.all_eq_true.1 hdigits, (Option.some.inj h).symm⟩⟩
  · cases h

/-! ## Agreement -/

theorem EpochDay.parse_of_parseAs? {text : String} {zone : Offset} {moment : Timestamp}
    (h : Timestamp.parseAs? dateText text zone = some moment) :
    ∃ day, EpochDay.parse text = .ok day ∧
      day.midnight.toInt = moment.toInt + zone.millis := by
  obtain ⟨pieces, hsplit, hmoment⟩ := parseAs?_sound compile_dateText h
  have hhour : (Pattern.date.fieldsOf pieces).hour = 0 := get_fieldsOf .hour (by decide) pieces
  have hminute : (Pattern.date.fieldsOf pieces).minute = 0 :=
    get_fieldsOf .minute (by decide) pieces
  have hsecond : (Pattern.date.fieldsOf pieces).second = 0 :=
    get_fieldsOf .second (by decide) pieces
  have hmillisecond : (Pattern.date.fieldsOf pieces).millisecond = 0 :=
    get_fieldsOf .millisecond (by decide) pieces
  refine ⟨_, EpochDay.read_of_splits hsplit, ?_⟩
  rw [hmoment, WallClock.toTimestamp, hhour, hminute, hsecond, hmillisecond]
  rfl

theorem ClockTime.parse_of_parseAs? {text : String} {zone : Offset} {moment : Timestamp}
    (h : Timestamp.parseAs? timeText text zone = some moment) :
    ∃ time, ClockTime.parse text 0 = .ok time ∧ time.toInt = moment.toInt + zone.millis := by
  obtain ⟨pieces, hsplit, hmoment⟩ := parseAs?_sound compile_timeText h
  have hyear : (Pattern.clock.fieldsOf pieces).year = 1970 := get_fieldsOf .year (by decide) pieces
  have hmonth : (Pattern.clock.fieldsOf pieces).month = 1 := get_fieldsOf .month (by decide) pieces
  have hday : (Pattern.clock.fieldsOf pieces).day = 1 := get_fieldsOf .day (by decide) pieces
  have hmillisecond : (Pattern.clock.fieldsOf pieces).millisecond = 0 :=
    get_fieldsOf .millisecond (by decide) pieces
  have hepoch : (EpochDay.ofFields 1970 1 1).toInt = 0 := by decide
  refine ⟨_, (ClockTime.parse_zero text).trans (ClockTime.read_of_splits hsplit .none), ?_⟩
  rw [hmoment, WallClock.toTimestamp, Timestamp.toInt_ofDateAndTime, hyear, hmonth, hday, hepoch,
    hmillisecond, Int.zero_mul, Int.zero_add]
  rfl

/-- A fraction stands behind the only point of a text. -/
theorem Pattern.Splits.length_fraction {items : List PatternItem} {text digits : List Char}
    {pieces : List (List Char)} (h : Splits items text pieces ('.' :: digits))
    (hitems : .literal '.' ∉ items) (hdigits : ∀ c ∈ digits, c.isDigit = true)
    (hpoint : '.' ∉ text ∨
      ∃ before fraction, text = before ++ '.' :: fraction ∧ fraction.length = 3) :
    digits.length = 3 := by
  have hbefore : '.' ∉ pieces.flatten := h.not_mem_flatten rfl hitems
  have hbehind : '.' ∉ digits := by
    intro hmem
    cases hdigits '.' hmem
  rw [h.eq_append] at hpoint
  obtain hnone | ⟨before, fraction, htext, hlength⟩ := hpoint
  · exact absurd (List.mem_append_right _ List.mem_cons_self) hnone
  · obtain ⟨-, -, rfl⟩ := (List.append_cons_inj_of_notMem hbefore hbehind).1 htext
    exact hlength

theorem Timestamp.parse_of_parseAs? {text : String} {zone : Offset} {precise : PreciseTimestamp}
    (h : PreciseTimestamp.parseAs? timestampText text zone = some precise)
    (hpoint : '.' ∉ text.toList ∨
      ∃ before fraction, text.toList = before ++ '.' :: fraction ∧ fraction.length = 3) :
    ∃ moment, Timestamp.parse text = .ok moment ∧
      moment.toInt = precise.moment.toInt + zone.millis := by
  rw [PreciseTimestamp.parseAs?, compile_timestampText] at h
  simp only [Except.toOption, Option.bind_eq_bind, Option.bind_some, parsePrecise?] at h
  have hwhole (pieces : List (List Char)) : (timestamp.fieldsOf pieces).millisecond = 0 :=
    get_fieldsOf .millisecond (by decide) pieces
  obtain ⟨moment, ⟨hread, rfl⟩ | ⟨digits, hread, hdigits, rfl⟩⟩ := readPrecise?_cases h
  · obtain ⟨pieces, hsplit, hlegal, rfl⟩ := readStart?_sound hread
    refine ⟨_, Timestamp.read_of_splits hsplit .none, ?_⟩
    rw [WallClock.toInt_addMillis_neg, hlegal.toInt_fraction (hwhole pieces) (by decide)]
    exact Int.add_zero _
  · obtain ⟨pieces, hsplit, hlegal, rfl⟩ := readStart?_sound hread
    have hlength := hsplit.length_fraction (by decide) hdigits hpoint
    have hvalue : value digits < 10 ^ 3 := by
      rw [← hlength]
      exact Text.value_lt_pow hdigits
    have hnumeral : IsNumeral digits :=
      ⟨⟨List.ne_nil_of_length_eq_add_one hlength, hdigits⟩, by unfold Fits32; omega⟩
    refine ⟨_, Timestamp.read_of_splits hsplit (.digits hnumeral), ?_⟩
    rw [Timestamp.addMillis_addMillis, fractionMillis_of_length_eq hlength,
      WallClock.toInt_addMillis_neg_add _ _ (by omega),
      hlegal.toInt_fraction (hwhole pieces) (by omega)]

/-- What a pattern finds in a date, a time or a timestamp is the value of the literal, shifted by the
    offset. A fraction must have three digits, since a literal takes it for a number of
    milliseconds. -/
theorem Pattern.literals_agree (text : String) (zone : Offset) :
    (∀ moment, Timestamp.parseAs? dateText text zone = some moment →
      ∃ day, EpochDay.parse text = .ok day ∧
        day.midnight.toInt = moment.toInt + zone.millis) ∧
    (∀ moment, Timestamp.parseAs? timeText text zone = some moment →
      ∃ time, ClockTime.parse text 0 = .ok time ∧ time.toInt = moment.toInt + zone.millis) ∧
    (∀ precise, PreciseTimestamp.parseAs? timestampText text zone = some precise →
      ('.' ∉ text.toList ∨
        ∃ before fraction, text.toList = before ++ '.' :: fraction ∧ fraction.length = 3) →
      ∃ moment, Timestamp.parse text = .ok moment ∧
        moment.toInt = precise.moment.toInt + zone.millis) :=
  ⟨fun _ => EpochDay.parse_of_parseAs?, fun _ => ClockTime.parse_of_parseAs?,
    fun _ => Timestamp.parse_of_parseAs?⟩

/-- A year whose days have numbers that do not fit, fields without their zeros, and a fraction, all
    five and a half hours to the east. -/
theorem Pattern.literals_agree_east :
    (Timestamp.parseAs? dateText "9999999-1-01" ⟨19800, by decide, by decide⟩ =
        some (Timestamp.ofInt (-55577853149400000)) ∧
      ∃ day, EpochDay.parse "9999999-1-01" = .ok day ∧
        day.midnight.toInt = -55577853129600000) ∧
    (Timestamp.parseAs? timeText "7:05:9" ⟨19800, by decide, by decide⟩ =
        some (Timestamp.ofInt 5709000) ∧
      ∃ time, ClockTime.parse "7:05:9" 0 = .ok time ∧ time.toInt = 25509000) ∧
    (PreciseTimestamp.parseAs? timestampText "2024-2-29 23:59:59.007"
          ⟨19800, by decide, by decide⟩ = some ⟨Timestamp.ofInt 1709231399007, 3⟩ ∧
      ∃ moment, Timestamp.parse "2024-2-29 23:59:59.007" = .ok moment ∧
        moment.toInt = 1709251199007) := by
  have hdate : Timestamp.parseAs? dateText "9999999-1-01" ⟨19800, by decide, by decide⟩ =
      some (Timestamp.ofInt (-55577853149400000)) := by decide +kernel
  have htime : Timestamp.parseAs? timeText "7:05:9" ⟨19800, by decide, by decide⟩ =
      some (Timestamp.ofInt 5709000) := by decide +kernel
  have hprecise : PreciseTimestamp.parseAs? timestampText "2024-2-29 23:59:59.007"
      ⟨19800, by decide, by decide⟩ = some ⟨Timestamp.ofInt 1709231399007, 3⟩ := by decide +kernel
  exact ⟨⟨hdate, (literals_agree _ _).1 _ hdate⟩, ⟨htime, (literals_agree _ _).2.1 _ htime⟩,
    hprecise, (literals_agree _ _).2.2 _ hprecise (.inr ⟨"2024-2-29 23:59:59".toList,
      ['0', '0', '7'], rfl, rfl⟩)⟩

end CivilTime
