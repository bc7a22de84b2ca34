import CivilTime.Proofs.Literal.Field
import CivilTime.Proofs.WallClock

/-!
# Written fields

A date, a time or a timestamp is read back from the fields it is written with, whether or not they
are in their ranges, with blanks around each of them. The hyphen between two fields of a date is also
the sign of a year or a day, which may therefore be negative, and a month may not.

* `SpellsDate`, `SpellsTime`: the texts of fields, and what absent fields are taken for.
* `EpochDay.read_of_spells`, `ClockTime.read_of_spells`: such texts are read.
* `EpochDay.read_append_left`, `ClockTime.read_append_left` and others: blanks around a text.
* `Timestamp.read_append`: a date, a space and a time.
* `EpochDay.read_digits`, `ClockTime.read_digits` and others: literals whose pieces are digits.
* `parse_of_spells`: the fields of strings.
-/

namespace CivilTime

open Text (IsBlanks)

namespace Literal

/-! ## Texts of fields -/

/-- The text of a date, and its year, month and day, which may be out of their ranges. An absent
    month or day is one. A month has no minus. -/
inductive SpellsDate : List Char → Int → Int → Int → Prop
  | year {year : List Char} {y : Int} (hyear : Spells year y) : SpellsDate year y 1 1
  | month {year month : List Char} {y m : Int} (hyear : Spells year y) (hmonth : Spells month m)
      (hminus : '-' ∉ month) : SpellsDate (year ++ '-' :: month) y m 1
  | day {year month day : List Char} {y m d : Int} (hyear : Spells year y)
      (hmonth : Spells month m) (hminus : '-' ∉ month) (hday : Spells day d) :
      SpellsDate (year ++ '-' :: (month ++ '-' :: day)) y m d

/-- The text of a time, and its hour, minute, second and millisecond, which may be out of their
    ranges. An absent minute or second is one, and an absent millisecond is zero. -/
inductive SpellsTime : List Char → Int → Int → Int → Int → Prop
  | hour {hour : List Char} {h : Int} (hhour : Spells hour h) : SpellsTime hour h 1 1 0
  | minute {hour minute : List Char} {h m : Int} (hhour : Spells hour h)
      (hminute : Spells minute m) : SpellsTime (hour ++ ':' :: minute) h m 1 0
  | second {hour minute second : List Char} {h m s : Int} (hhour : Spells hour h)
      (hminute : Spells minute m) (hsecond : Spells second s) :
      SpellsTime (hour ++ ':' :: (minute ++ ':' :: second)) h m s 0
  | fraction {hour minute second fraction : List Char} {h m s f : Int} (hhour : Spells hour h)
      (hminute : Spells minute m) (hsecond : Spells second s) (hfraction : Spells fraction f) :
      SpellsTime (hour ++ ':' :: (minute ++ ':' :: (second ++ '.' :: fraction))) h m s f

section
variable {piece : List Char} {n : Int}

theorem Spells.colon_not_mem (h : Spells piece n) : ':' ∉ piece :=
  h.not_mem rfl rfl (by decide) (by decide)

theorem Spells.point_not_mem (h : Spells piece n) : '.' ∉ piece :=
  h.not_mem rfl rfl (by decide) (by decide)

end

/-! ## Cutting -/

section
variable {c : Char} {tail : List Char}

/-- Only the first character of a year can be a minus. -/
theorem cutYear_cons (h : '-' ∉ tail) : cutYear (c :: tail) = (c :: tail, none) := by
  unfold cutYear
  split
  · rename_i heq
    obtain ⟨rfl, rfl⟩ := List.cons.inj heq
    rw [Text.cutAt_of_not_mem h]
  · rename_i hsign
    apply Text.cutAt_of_not_mem
    rw [List.mem_cons, not_or]
    refine ⟨?_, h⟩
    rintro rfl
    exact hsign tail rfl

theorem cutYear_append (h : '-' ∉ tail) (rest : List Char) :
    cutYear (c :: (tail ++ '-' :: rest)) = (c :: tail, some rest) := by
  unfold cutYear
  split
  · rename_i heq
    obtain ⟨rfl, rfl⟩ := List.cons.inj heq
    rw [Text.cutAt_append h]
  · rename_i hsign
    have hfirst : '-' ∉ c :: tail := by
      rw [List.mem_cons, not_or]
      refine ⟨?_, h⟩
      rintro rfl
      exact hsign _ rfl
    exact Text.cutAt_append hfirst rest

/-- Blanks behind a date that is not empty belong to its last piece. -/
theorem cutYear_append_right {blanks : List Char} (h : IsBlanks blanks) (c : Char)
    (tail : List Char) :
    cutYear (c :: tail ++ blanks) =
      match cutYear (c :: tail) with
      | (year, none) => (year ++ blanks, none)
      | (year, some rest) => (year, some (rest ++ blanks)) := by
  have hminus : '-' ∉ blanks := h.not_mem rfl
  by_cases hc : c = '-'
  · subst hc
    rw [List.cons_append, cutYear, cutYear, Text.cutAt_append_right hminus]
    rcases Text.cutAt '-' tail with ⟨year, _ | rest⟩
    · rfl
    · rfl
  · have hplain (text : List Char) : cutYear (c :: text) = Text.cutAt '-' (c :: text) := by
      unfold cutYear
      split
      · rename_i heq
        exact absurd (List.cons.inj heq).1 hc
      · rfl
    rw [List.cons_append, hplain, hplain]
    exact Text.cutAt_append_right hminus (c :: tail)

end

end Literal

open Literal

/-! ## Reading -/

namespace EpochDay

variable {text blanks : List Char} {pieces : DatePieces} {y m d : Int}

theorem read_eq_ok (hpieces : DatePieces.ofText text = pieces)
    (hyear : readField .year pieces.year = .ok y)
    (hmonth : readFieldOr 1 .month pieces.month = .ok m)
    (hday : readFieldOr 1 .day pieces.day = .ok d) : read text = .ok (ofFields y m d) := by
  simp only [read, hpieces, hyear, hmonth, hday]
  rfl

/-- A date is read from the text of its fields. -/
theorem read_of_spells (h : SpellsDate text y m d) : read text = .ok (ofFields y m d) := by
  cases h with
  | year hyear =>
    obtain ⟨c, tail, hspells, hminus, htrim⟩ := hyear.exists_trimStart
    have hpieces : DatePieces.ofText text = ⟨c :: tail, none, none⟩ := by
      have htext := htrim []
      rw [List.append_nil, List.append_nil] at htext
      simp only [DatePieces.ofText, htext, cutYear_cons hminus]
    exact read_eq_ok hpieces (readField_eq_ok_iff.2 hspells) rfl rfl
  | @month year month _ _ hyear hmonth hmonthMinus =>
    obtain ⟨c, tail, hspells, hminus, htrim⟩ := hyear.exists_trimStart
    have hpieces : DatePieces.ofText (year ++ '-' :: month) = ⟨c :: tail, some month, none⟩ := by
      simp only [DatePieces.ofText, htrim, cutYear_append hminus,
        Text.cutAt_of_not_mem hmonthMinus]
    exact read_eq_ok hpieces (readField_eq_ok_iff.2 hspells) (readField_eq_ok_iff.2 hmonth) rfl
  | @day year month day _ _ _ hyear hmonth hmonthMinus hday =>
    obtain ⟨c, tail, hspells, hminus, htrim⟩ := hyear.exists_trimStart
    have hpieces : DatePieces.ofText (year ++ '-' :: (month ++ '-' :: day)) =
        ⟨c :: tail, some month, some day⟩ := by
      simp only [DatePieces.ofText, htrim, cutYear_append hminus, Text.cutAt_append hmonthMinus]
    exact read_eq_ok hpieces (readField_eq_ok_iff.2 hspells) (readField_eq_ok_iff.2 hmonth)
      (readField_eq_ok_iff.2 hday)

/-- Blanks in front of a date make no difference. -/
theorem read_append_left (h : IsBlanks blanks) (text : List Char) :
    read (blanks ++ text) = read text := by
  simp only [read, DatePieces.ofText, Text.trimStart_append h]

/-- Blanks behind a date make no difference. -/
theorem read_append_right (h : IsBlanks blanks) (text : List Char) :
    read (text ++ blanks) = read text := by
  rcases Text.trimStart_append_right h text with ⟨hnil, hblank⟩ | ⟨hne, hblank⟩
  · simp only [read, DatePieces.ofText, hnil, hblank]
  · obtain ⟨c, tail, htext⟩ := List.exists_cons_of_ne_nil hne
    simp only [read, DatePieces.ofText, hblank, htext, cutYear_append_right h]
    rcases cutYear (c :: tail) with ⟨year, _ | rest⟩
    · simp only [readField_append_right h]
    · simp only [Text.cutAt_append_right (h.not_mem (c := '-') rfl)]
      rcases Text.cutAt '-' rest with ⟨month, _ | day⟩
      · simp only [readFieldOr, readField_append_right h]
      · simp only [readFieldOr, readField_append_right h]

theorem read_trim (text : List Char) : read (Text.trim text) = read text := by
  obtain ⟨before, after, htext, hbefore, hafter⟩ := Text.exists_trim text
  have hread := read_append_left hbefore (Text.trim text ++ after)
  rw [← htext, read_append_right hafter] at hread
  exact hread.symm

end EpochDay

namespace ClockTime

variable {text blanks : List Char} {pieces : TimePieces} {h m s f : Int}

theorem read_eq_ok (hpieces : TimePieces.ofText text = pieces)
    (hhour : readField .hour pieces.hour = .ok h)
    (hminute : readFieldOr 1 .minute pieces.minute = .ok m)
    (hsecond : readFieldOr 1 .second pieces.second = .ok s)
    (hfraction : readFieldOr 0 .fraction pieces.fraction = .ok f) :
    read text = .ok (ofFields h m s f) := by
  simp only [read, hpieces, hhour, hminute, hsecond, hfraction]
  rfl

/-- A time is read from the text of its fields. -/
theorem read_of_spells (hspells : SpellsTime text h m s f) : read text = .ok (ofFields h m s f) := by
  cases hspells with
  | hour hhour =>
    have hpieces : TimePieces.ofText text = ⟨text, none, none, none⟩ := by
      simp only [TimePieces.ofText, Text.cutAt_of_not_mem hhour.colon_not_mem]
    exact read_eq_ok hpieces (readField_eq_ok_iff.2 hhour) rfl rfl rfl
  | @minute hour minute _ _ hhour hminute =>
    have hpieces : TimePieces.ofText (hour ++ ':' :: minute) = ⟨hour, some minute, none, none⟩ := by
      simp only [TimePieces.ofText, Text.cutAt_append hhour.colon_not_mem,
        Text.cutAt_of_not_mem hminute.colon_not_mem]
    exact read_eq_ok hpieces (readField_eq_ok_iff.2 hhour) (readField_eq_ok_iff.2 hminute) rfl rfl
  | @second hour minute second _ _ _ hhour hminute hsecond =>
    have hpieces : TimePieces.ofText (hour ++ ':' :: (minute ++ ':' :: second)) =
        ⟨hour, some minute, some second, none⟩ := by
      simp only [TimePieces.ofText, Text.cutAt_append hhour.colon_not_mem,
        Text.cutAt_append hminute.colon_not_mem, Text.cutAt_of_not_mem hsecond.point_not_mem]
    exact read_eq_ok hpieces (readField_eq_ok_iff.2 hhour) (readField_eq_ok_iff.2 hminute)
      (readField_eq_ok_iff.2 hsecond) rfl
  | @fraction hour minute second fraction _ _ _ _ hhour hminute hsecond hfraction =>
    have hpieces : TimePieces.ofText (hour ++ ':' :: (minute ++ ':' :: (second ++ '.' :: fraction))) =
        ⟨hour, some minute, some second, some fraction⟩ := by
      simp only [TimePieces.ofText, Text.cutAt_append hhour.colon_not_mem,
        Text.cutAt_append hminute.colon_not_mem, Text.cutAt_append hsecond.point_not_mem]
    exact read_eq_ok hpieces (readField_eq_ok_iff.2 hhour) (readField_eq_ok_iff.2 hminute)
      (readField_eq_ok_iff.2 hsecond) (readField_eq_ok_iff.2 hfraction)

/-- Blanks in front of a time make no difference. -/
theorem read_append_left (h : IsBlanks blanks) (text : List Char) :
    read (blanks ++ text) = read text := by
  simp only [read, TimePieces.ofText, Text.cutAt_append_left (h.not_mem (c := ':') rfl)]
  rcases Text.cutAt ':' text with ⟨hour, _ | rest⟩
  · simp only [readField_append_left h]
  · rcases hminute : Text.cutAt ':' rest with ⟨minute, _ | rest⟩
    · simp only [hminute, readField_append_left h]
    · simp only [hminute, readField_append_left h]

/-- Blanks behind a time make no difference. -/
theorem read_append_right (h : IsBlanks blanks) (text : List Char) :
    read (text ++ blanks) = read text := by
  simp only [read, TimePieces.ofText, Text.cutAt_append_right (h.not_mem (c := ':') rfl)]
  rcases Text.cutAt ':' text with ⟨hour, _ | rest⟩
  · simp only [readField_append_right h]
  · simp only [Text.cutAt_append_right (h.not_mem (c := ':') rfl)]
    rcases Text.cutAt ':' rest with ⟨minute, _ | rest⟩
    · simp only [readFieldOr, readField_append_right h]
    · simp only [Text.cutAt_append_right (h.not_mem (c := '.') rfl)]
      rcases Text.cutAt '.' rest with ⟨second, _ | fraction⟩
      · simp only [readFieldOr, readField_append_right h]
      · simp only [readFieldOr, readField_append_right h]

theorem read_trim (text : List Char) : read (Text.trim text) = read text := by
  obtain ⟨before, after, htext, hbefore, hafter⟩ := Text.exists_trim text
  have hread := read_append_left hbefore (Text.trim text ++ after)
  rw [← htext, read_append_right hafter] at hread
  exact hread.symm

/-- Every text begins at position zero. -/
theorem parse_zero (text : String) : parse text 0 = read text.toList := by
  rw [parse, readFrom, Text.dropBytes]

end ClockTime

namespace Timestamp

/-- A date and a time that are read are read together if a space stands between them. The date may
    have spaces at its ends only. -/
theorem read_append {date time : List Char} {day : EpochDay} {clock : ClockTime}
    (hspace : ' ' ∉ Text.trim date) (hday : EpochDay.read date = .ok day)
    (hclock : ClockTime.read time = .ok clock) :
    read (date ++ ' ' :: time) = .ok (ofDateAndTime day clock) := by
  rw [← EpochDay.read_trim] at hday
  rw [← ClockTime.read_trim] at hclock
  have hdate0 : Text.trim date ≠ [] := by
    intro hnil
    rw [hnil] at hday
    cases hday
  have htime0 : Text.trim time ≠ [] := by
    intro hnil
    rw [hnil] at hclock
    cases hclock
  obtain ⟨left, right, htrim, hleft, hleftBlanks, hrightBlanks⟩ :=
    Text.exists_trim_append_space hdate0 htime0
  have hnot : ' ' ∉ Text.trim date ++ left := by
    rw [List.mem_append, not_or]
    exact ⟨hspace, hleft⟩
  rw [read, htrim, Text.cutAt_append hnot]
  simp only [EpochDay.read_append_right hleftBlanks, ClockTime.read_append_left hrightBlanks, hday,
    hclock]
  rfl

end Timestamp

/-! ## Digits -/

section
variable {year month day hour minute second fraction : List Char}

open Literal
open Text (IsDigits IsNumeral value)

theorem Literal.spells_of_isNumeral {piece : List Char} (h : IsNumeral piece) :
    Spells piece (value piece) :=
  spells_of_isInt32 (.plain h.toIsDigits h.fits)

theorem Literal.spells_neg {piece : List Char} (h : IsDigits piece)
    (hfits : Fits32 (-(value piece : Int))) : Spells ('-' :: piece) (-(value piece : Int)) :=
  spells_of_isInt32 (.minus h hfits)

theorem EpochDay.read_digits (hyear : IsNumeral year) (hmonth : IsNumeral month)
    (hday : IsNumeral day) :
    EpochDay.read (year ++ '-' :: (month ++ '-' :: day)) =
      .ok (EpochDay.ofFields (value year) (value month) (value day)) :=
  read_of_spells (.day (spells_of_isNumeral hyear) (spells_of_isNumeral hmonth)
    (hmonth.not_mem rfl) (spells_of_isNumeral hday))

theorem EpochDay.read_neg (hyear : IsDigits year) (hfits : Fits32 (-(value year : Int)))
    (hmonth : IsNumeral month) (hday : IsNumeral day) :
    EpochDay.read ('-' :: (year ++ '-' :: (month ++ '-' :: day))) =
      .ok (EpochDay.ofFields (-(value year : Int)) (value month) (value day)) :=
  read_of_spells (.day (spells_neg hyear hfits) (spells_of_isNumeral hmonth) (hmonth.not_mem rfl)
    (spells_of_isNumeral hday))

theorem ClockTime.read_digits (hhour : IsNumeral hour) (hminute : IsNumeral minute)
    (hsecond : IsNumeral second) :
    ClockTime.read (hour ++ ':' :: (minute ++ ':' :: second)) =
      .ok (ClockTime.ofFields (value hour) (value minute) (value second) 0) :=
  read_of_spells (.second (spells_of_isNumeral hhour) (spells_of_isNumeral hminute)
    (spells_of_isNumeral hsecond))

theorem ClockTime.read_fraction (hhour : IsNumeral hour) (hminute : IsNumeral minute)
    (hsecond : IsNumeral second) (hfraction : IsNumeral fraction) :
    ClockTime.read (hour ++ ':' :: (minute ++ ':' :: (second ++ '.' :: fraction))) =
      .ok (ClockTime.ofFields (value hour) (value minute) (value second) (value fraction)) :=
  read_of_spells (.fraction (spells_of_isNumeral hhour) (spells_of_isNumeral hminute)
    (spells_of_isNumeral hsecond) (spells_of_isNumeral hfraction))

theorem Timestamp.read_digits {time : List Char} {clock : ClockTime}
    (hyear : IsNumeral year) (hmonth : IsNumeral month) (hday : IsNumeral day)
    (hclock : ClockTime.read time = .ok clock) :
    Timestamp.read (year ++ '-' :: (month ++ '-' :: (day ++ ' ' :: time))) =
      .ok (Timestamp.ofDateAndTime (EpochDay.ofFields (value year) (value month) (value day))
        clock) := by
  have hspace : ' ' ∉ year ++ '-' :: (month ++ '-' :: day) := by
    have hy := hyear.not_mem (c := ' ') rfl
    have hm := hmonth.not_mem (c := ' ') rfl
    have hd := hday.not_mem (c := ' ') rfl
    simp [hy, hm, hd]
  have hread := Timestamp.read_append (Text.not_mem_trim _ hspace)
    (EpochDay.read_digits hyear hmonth hday) hclock
  simpa only [List.append_assoc, List.cons_append] using hread

end

/-! ## Strings -/

namespace Literal

/-- Dates and times are read from the texts of their fields. A date that has no spaces but at its
    ends, a space and a time are read as the moment of the two, which is the moment of their fields
    if the time does not wrap around. -/
theorem parse_of_spells :
    (∀ (text : String) (y m d : Int), SpellsDate text.toList y m d →
      EpochDay.parse text = .ok (EpochDay.ofFields y m d)) ∧
    (∀ (text : String) (h m s f : Int), SpellsTime text.toList h m s f →
      ClockTime.parse text 0 = .ok (ClockTime.ofFields h m s f)) ∧
    ∀ date time : String, ' ' ∉ Text.trim date.toList →
      (∀ day clock, EpochDay.parse date = .ok day → ClockTime.parse time 0 = .ok clock →
        Timestamp.parse (date ++ " " ++ time) = .ok (Timestamp.ofDateAndTime day clock)) ∧
      ∀ year month day hour minute second millisecond : Int,
        SpellsDate date.toList year month day →
        SpellsTime time.toList hour minute second millisecond →
        Fits32 (clockMillis hour minute second millisecond) →
        Timestamp.parse (date ++ " " ++ time) =
          .ok ((Timestamp.ofFields year month day hour minute second).addMillis millisecond) := by
  have htext (date time : String) :
      (date ++ " " ++ time).toList = date.toList ++ ' ' :: time.toList := by
    rw [String.toList_append, String.toList_append, List.append_assoc]
    rfl
  refine ⟨fun text y m d h => EpochDay.read_of_spells h, ?_, ?_⟩
  · intro text h m s f hspells
    rw [ClockTime.parse_zero]
    exact ClockTime.read_of_spells hspells
  · intro date time hspace
    constructor
    · intro day clock hday hclock
      rw [ClockTime.parse_zero] at hclock
      rw [Timestamp.parse, htext]
      exact Timestamp.read_append hspace hday hclock
    · intro year month day hour minute second millisecond hdate htime hfits
      rw [Timestamp.parse, htext, ← Timestamp.ofDateAndTime_ofFields year month day hfits]
      exact Timestamp.read_append hspace (EpochDay.read_of_spells hdate)
        (ClockTime.read_of_spells htime)

/-- The fields of a date in the thirteenth month of a year before year zero, and of a time with a
    minute before its hour. The time is longer than a day, and the moment lies in the next one. -/
theorem parse_of_spells_outOfRange :
    SpellsDate " -0044-13--15".toList (-44) 13 (-15) ∧
      EpochDay.ofFields (-44) 13 (-15) = EpochDay.ofInt (-735251) ∧
      EpochDay.parse " -0044-13--15" = .ok (EpochDay.ofInt (-735251)) ∧
      SpellsTime "25: -1:+5.0600".toList 25 (-1) 5 600 ∧
      ClockTime.ofFields 25 (-1) 5 600 = ClockTime.ofInt 89945600 ∧
      ClockTime.parse "25: -1:+5.0600" 0 = .ok (ClockTime.ofInt 89945600) ∧
      ' ' ∉ Text.trim " -0044-13--15".toList ∧ Fits32 (clockMillis 25 (-1) 5 600) ∧
      Timestamp.ofDateAndTime (EpochDay.ofInt (-735251)) (ClockTime.ofInt 89945600) =
        Timestamp.ofInt (-63525596454400) ∧
      (Timestamp.ofFields (-44) 13 (-15) 25 (-1) 5).addMillis 600 =
        Timestamp.ofInt (-63525596454400) ∧
      Timestamp.parse " -0044-13--15 25: -1:+5.0600" =
        .ok (Timestamp.ofInt (-63525596454400)) := by
  have hpiece (field : LiteralField) (piece : List Char) {n : Int}
      (h : readField field piece = .ok n) : Spells piece n := readField_eq_ok_iff.1 h
  have hdate : SpellsDate " -0044-13--15".toList (-44) 13 (-15) :=
    .day (hpiece .year " -0044".toList rfl) (hpiece .month "13".toList rfl) (by decide)
      (hpiece .day "-15".toList rfl)
  have htime : SpellsTime "25: -1:+5.0600".toList 25 (-1) 5 600 :=
    .fraction (hpiece .hour "25".toList rfl) (hpiece .minute " -1".toList rfl)
      (hpiece .second "+5".toList rfl) (hpiece .fraction "0600".toList rfl)
  have hspace : ' ' ∉ Text.trim " -0044-13--15".toList := by decide
  have hfits : Fits32 (clockMillis 25 (-1) 5 600) := by decide
  have hdayValue : EpochDay.ofFields (-44) 13 (-15) = EpochDay.ofInt (-735251) := by decide
  have hclockValue : ClockTime.ofFields 25 (-1) 5 600 = ClockTime.ofInt 89945600 := by decide
  have hvalue : Timestamp.ofDateAndTime (EpochDay.ofInt (-735251)) (ClockTime.ofInt 89945600) =
      Timestamp.ofInt (-63525596454400) := by decide
  have hday := parse_of_spells.1 _ _ _ _ hdate
  have hclock := parse_of_spells.2.1 _ _ _ _ _ htime
  obtain ⟨hboth, hfields⟩ := parse_of_spells.2.2 " -0044-13--15" "25: -1:+5.0600" hspace
  rw [hdayValue] at hday
  rw [hclockValue] at hclock
  have hparse := hboth _ _ hday hclock
  rw [hvalue] at hparse
  -- both readings of the text give the same moment
  have hsame := Except.ok.inj ((hfields _ _ _ _ _ _ _ hdate htime hfits).symm.trans hparse)
  exact ⟨hdate, hdayValue, hday, htime, hclockValue, hclock, hspace, hfits, hvalue, hsame, hparse⟩

end Literal

end CivilTime
