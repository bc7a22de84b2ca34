import CivilTime.Proofs.Calendar.MarchYear
import CivilTime.Proofs.Pattern.Number
import CivilTime.Proofs.WallClock

/-!
# Writing with a pattern

A pattern writes the fields of a wall clock and reads them back, as long as each field can be told
from what is written behind it.

* `Pattern.render`: the text that a pattern writes.
* `Pattern.IsReadable`: which fields a pattern separates.
* `Pattern.exists_readItems?_render`: reading the items, with other text behind them.
* `Pattern.readStart?_render`: reading the fields, with other text behind them.
* `Pattern.parse?_render`: reading the whole text, as the moment of the day and the time.
-/

namespace CivilTime

namespace PatternItem

/-- The field that an item names. -/
def field? : PatternItem → Option PatternField
  | .field named _ => some named
  | .literal _ => none

/-- What an item writes: a field with zeros up to its width, and a literal as it is. -/
def render (wall : WallClock) : PatternItem → List Char
  | .field named width => Text.padded width (wall.get named).toNat
  | .literal c => [c]

end PatternItem

theorem WallClock.ext_get {a b : WallClock} (h : ∀ field, a.get field = b.get field) : a = b := by
  cases a
  cases b
  rw [WallClock.mk.injEq]
  exact ⟨h .year, h .month, h .day, h .hour, h .minute, h .second, h .millisecond⟩

theorem WallClock.IsLegal.get_bounds {wall : WallClock} (h : wall.IsLegal)
    (hyear : 0 ≤ wall.year) (hfits : Fits32 wall.year) (field : PatternField) :
    0 ≤ wall.get field ∧ Fits32 (wall.get field) := by
  obtain ⟨hdate, hhour, hminute, hsecond, hmillisecond⟩ := h
  have hmonth := hdate.month_bounds
  have hday := hdate.day_le
  have hday1 : 1 ≤ wall.day := hdate.1
  unfold Fits32 at *
  cases field <;> simp only [WallClock.get] <;> omega

theorem WallClock.IsLegal.get_lt {wall : WallClock} (h : wall.IsLegal)
    (hyear : wall.year < 10 ^ 9) (field : PatternField) : wall.get field < 10 ^ 9 := by
  obtain ⟨hdate, hhour, hminute, hsecond, hmillisecond⟩ := h
  have hmonth := hdate.month_bounds
  have hday := hdate.day_le
  cases field <;> simp only [WallClock.get] <;> omega

namespace Pattern

/-- The text that a pattern writes. -/
def render (pattern : Pattern) (wall : WallClock) : List Char :=
  pattern.items.flatMap (PatternItem.render wall)

/-- One of the items names a field. -/
def Names (items : List PatternItem) (field : PatternField) : Prop :=
  ∃ item ∈ items, item.field? = some field

instance (items : List PatternItem) (field : PatternField) : Decidable (Names items field) :=
  inferInstanceAs (Decidable (∃ item ∈ items, _))

theorem not_names_nil (field : PatternField) : ¬ Names [] field := by
  rintro ⟨item, hitem, -⟩
  cases hitem

theorem names_literal {c : Char} {items : List PatternItem} {field : PatternField} :
    Names (.literal c :: items) field ↔ Names items field := by
  constructor
  · rintro ⟨item, hitem, hfield⟩
    rcases List.mem_cons.1 hitem with rfl | hitem
    · cases hfield
    · exact ⟨item, hitem, hfield⟩
  · rintro ⟨item, hitem, hfield⟩
    exact ⟨item, List.mem_cons_of_mem _ hitem, hfield⟩

theorem names_field {next field : PatternField} {width : Nat} {items : List PatternItem} :
    Names (.field next width :: items) field ↔ next = field ∨ Names items field := by
  constructor
  · rintro ⟨item, hitem, hfield⟩
    rcases List.mem_cons.1 hitem with rfl | hitem
    · exact .inl (Option.some.inj hfield)
    · exact .inr ⟨item, hitem, hfield⟩
  · rintro (rfl | ⟨item, hitem, hfield⟩)
    · exact ⟨_, List.mem_cons_self, rfl⟩
    · exact ⟨item, List.mem_cons_of_mem _ hitem, hfield⟩

/-- The number `n` in a field can be told from what the items after the field write. In front of
    another field it has as many digits as the width; elsewhere it has at most nine, and a literal
    digit may only follow the ninth. -/
def IsDelimited (width n : Nat) : List PatternItem → Prop
  | .field _ _ :: _ => Text.digitCount n ≤ width
  | .literal c :: _ => (Text.padded width n).length ≤ maxFieldDigits ∧
      ((Text.padded width n).length < maxFieldDigits → c.isDigit = false)
  | [] => (Text.padded width n).length ≤ maxFieldDigits

/-- The items separate the fields of a wall clock. -/
def IsReadable (wall : WallClock) : List PatternItem → Prop
  | [] => True
  | .literal _ :: items => IsReadable wall items
  | .field field width :: items =>
    IsDelimited width (wall.get field).toNat items ∧ IsReadable wall items

variable {wall : WallClock}

/-- No field follows, and no digit. -/
def endsField : List PatternItem → Bool
  | .field _ _ :: _ => false
  | .literal c :: _ => !c.isDigit
  | [] => true

/-- Each field has a width of at most nine and is followed by no other field and no digit. -/
def isSeparated : List PatternItem → Bool
  | [] => true
  | .literal _ :: items => isSeparated items
  | .field _ width :: items => width ≤ maxFieldDigits && endsField items && isSeparated items

theorem isDelimited_of_endsField {width n : Nat} {items : List PatternItem}
    (hends : endsField items = true) (hwidth : width ≤ maxFieldDigits) (hn : n < 10 ^ 9) :
    IsDelimited width n items := by
  have hlength : (Text.padded width n).length ≤ maxFieldDigits := by
    have hcount : Text.digitCount n ≤ 9 := Text.digitCount_le (by decide) hn
    rw [Text.length_padded]
    unfold maxFieldDigits at *
    omega
  cases items with
  | nil => exact hlength
  | cons item items =>
    cases item with
    | field next nextWidth => cases hends
    | literal c =>
      simp only [endsField, Bool.not_eq_true'] at hends
      exact ⟨hlength, fun _ => hends⟩

/-- Separated fields are readable whatever small numbers they have. -/
theorem isReadable_of_isSeparated {items : List PatternItem} (h : isSeparated items = true)
    (hget : ∀ field, wall.get field < 10 ^ 9) : IsReadable wall items := by
  induction items with
  | nil => trivial
  | cons item items ih =>
    cases item with
    | literal c => exact ih h
    | field field width =>
      simp only [isSeparated, Bool.and_eq_true, decide_eq_true_eq] at h
      obtain ⟨⟨hwidth, hends⟩, hitems⟩ := h
      have hn : (wall.get field).toNat < 10 ^ 9 := by
        have hlt := hget field
        omega
      exact ⟨isDelimited_of_endsField hends hwidth hn, ih hitems⟩

/-! ## Reading back -/

/-- A field in front of readable items is read back with its own value. -/
theorem readNumber?_render {width n : Nat} {items : List PatternItem}
    (h : IsDelimited width n items) (hfits : Fits32 n) {rest : List Char}
    (hrest : NoDigitFirst rest) :
    readNumber? (exactWidth? width items) (Text.padded width n ++
      (items.flatMap (PatternItem.render wall) ++ rest)) =
      some ((n : Int), items.flatMap (PatternItem.render wall) ++ rest) := by
  cases items with
  | nil => exact readNumber?_padded_greedy h fun _ => hrest
  | cons item items =>
    cases item with
    | field next nextWidth => exact readNumber?_padded_exact h hfits _
    | literal c =>
      refine readNumber?_padded_greedy h.1 fun h9 => ?_
      exact noDigitFirst_cons.2 (h.2 h9)

theorem exists_readItems?_render {items : List PatternItem} (hread : IsReadable wall items)
    (h0 : ∀ field, 0 ≤ wall.get field) (hfits : ∀ field, Fits32 (wall.get field))
    (start : WallClock) {rest : List Char} (hrest : NoDigitFirst rest) :
    ∃ wall', readItems? items start (items.flatMap (PatternItem.render wall) ++ rest) =
        some (wall', rest) ∧
      ∀ field, wall'.get field =
        if Names items field then wall.get field else start.get field := by
  induction items generalizing start with
  | nil =>
    refine ⟨start, rfl, fun field => ?_⟩
    rw [if_neg (not_names_nil field)]
  | cons item items ih =>
    rw [List.flatMap_cons, List.append_assoc]
    cases item with
    | literal c =>
      obtain ⟨wall', hitems, hget⟩ := ih hread start
      refine ⟨wall', ?_, fun field => ?_⟩
      · simp only [PatternItem.render, List.singleton_append, readItems?, if_true, hitems]
      · simp only [hget field, names_literal]
    | field next width =>
      have hvalue : ((wall.get next).toNat : Int) = wall.get next := Int.toNat_of_nonneg (h0 next)
      obtain ⟨wall', hitems, hget⟩ := ih hread.2 (start.set next (wall.get next))
      refine ⟨wall', ?_, fun field => ?_⟩
      · simp only [PatternItem.render, readItems?]
        rw [readNumber?_render hread.1 (by rw [hvalue]; exact hfits next) hrest, hvalue]
        exact hitems
      · rw [hget field, WallClock.get_set]
        simp only [names_field]
        by_cases hnext : next = field
        · subst hnext
          simp only [true_or, if_true, ite_self]
        · simp only [hnext, false_or, if_false]

/-- A pattern reads back the fields that it writes in front of other text, if it separates them and
    those it does not write are those of the start of 1970. -/
theorem readStart?_render {pattern : Pattern} (hlegal : wall.IsLegal) (hyear : 0 ≤ wall.year)
    (hfits : Fits32 wall.year)
    (hdefault : ∀ field, ¬ Names pattern.items field →
      wall.get field = ({} : WallClock).get field)
    (hread : IsReadable wall pattern.items) {rest : List Char} (hrest : NoDigitFirst rest)
    (zone : Offset) :
    pattern.readStart? (pattern.render wall ++ rest) zone =
      some (wall.toTimestamp.addMillis (-zone.millis), rest) := by
  have hget := hlegal.get_bounds hyear hfits
  obtain ⟨wall', hitems, hfields⟩ := exists_readItems?_render hread (fun field => (hget field).1)
    (fun field => (hget field).2) {} hrest
  have hwall : wall' = wall := by
    apply WallClock.ext_get
    intro field
    rw [hfields field]
    split_ifs with hnames
    · rfl
    · exact (hdefault field hnames).symm
  rw [hwall] at hitems
  exact readStart?_eq_some_iff.2 ⟨wall, hitems, hlegal, rfl⟩

/-- A pattern reads back the fields that it writes as a whole text, if it separates them and those
    it does not write are those of the start of 1970. The moment is that of their day and time, less
    the offset. -/
theorem parse?_render (pattern : Pattern) (wall : WallClock) (zone : Offset) (hlegal : wall.IsLegal)
    (hyear : 0 ≤ wall.year) (hfits : Fits32 wall.year)
    (hdefault : ∀ field, ¬ Names pattern.items field →
      wall.get field = ({} : WallClock).get field)
    (hread : IsReadable wall pattern.items) :
    ∃ moment, pattern.parse? (String.ofList (pattern.render wall)) zone = some moment ∧
      moment.toInt = (Timestamp.ofDateAndTime (EpochDay.ofFields wall.year wall.month wall.day)
        (ClockTime.ofFields wall.hour wall.minute wall.second wall.millisecond)).toInt -
          zone.millis := by
  have hstart := readStart?_render hlegal hyear hfits hdefault hread noDigitFirst_nil zone
  rw [List.append_nil] at hstart
  refine ⟨wall.toTimestamp.addMillis (-zone.millis), ?_, (wall.eq_addMillis_neg_iff zone).1 rfl⟩
  rw [parse?, String.toList_ofList, read?, hstart]

/-- A pattern with fields that abut, a day written twice and literals of several bytes. The last
    hour of 29 February 2024 is read five and a half hours to the east. -/
theorem parse?_render_abutting :
    WallClock.IsLegal { year := 2024, month := 2, day := 29, hour := 23 } ∧
    IsReadable { year := 2024, month := 2, day := 29, hour := 23 }
      [.field .day 2, .field .month 2, .literal '日', .field .year 1, .literal 'é', .field .hour 2,
        .field .day 3] ∧
    parse? ⟨[.field .day 2, .field .month 2, .literal '日', .field .year 1, .literal 'é',
        .field .hour 2, .field .day 3]⟩ "2902日2024é23029" ⟨19800, by decide, by decide⟩ =
      some (Timestamp.ofInt 1709227800000) := by
  have hread : IsReadable { year := 2024, month := 2, day := 29, hour := 23 } [.field .day 2,
      .field .month 2, .literal '日', .field .year 1, .literal 'é', .field .hour 2,
      .field .day 3] := by
    simp [IsReadable, IsDelimited, WallClock.get, Text.length_padded, Text.digitCount,
      maxFieldDigits]
  obtain ⟨moment, hparse, hmoment⟩ := parse?_render ⟨_⟩ _ ⟨19800, by decide, by decide⟩ (by decide)
    (by decide) (by decide) (by rintro (_ | _) <;> decide) hread
  have htext : render ⟨[.field .day 2, .field .month 2, .literal '日', .field .year 1,
      .literal 'é', .field .hour 2, .field .day 3]⟩
      { year := 2024, month := 2, day := 29, hour := 23 } = "2902日2024é23029".toList := by cbv
  have hvalue : moment = Timestamp.ofInt 1709227800000 := Timestamp.ext (hmoment.trans (by decide))
  rw [htext, String.ofList_toList, hvalue] at hparse
  exact ⟨by decide, hread, hparse⟩

end Pattern

end CivilTime
