import CivilTime.Interval
import CivilTime.Proofs.Pattern.Fraction
import CivilTime.Proofs.Rounding
import CivilTime.Proofs.Text.Numeral

/-!
# The texts of intervals of days and times

The texts of intervals, said without writing them, and the number of milliseconds that each denotes:
a leading number in full, the smaller fields with two digits each, and fraction digits behind the
seconds. An interval is written as a text that denotes its milliseconds, rounded to the last field
or the last digit.

* `IsNext`: which fields follow one another.
* `IsLater`, `IsFraction`, `Denotes`: the texts behind the leading field, behind the seconds, and
  without a sign.
* `Denotes.unique`: a text denotes one number.
* `IsResolution`: what an interval is rounded to.
* `denotes_renderMillis`: the text of a number of milliseconds denotes it, rounded.
* `eq_of_renderMillis_eq`: the number is read off its text if no digit is rounded away.
* `formatDayTime_denotes`: the same for signed intervals.
-/

namespace CivilTime.Interval

open Rounding (roundMagnitude IsNearestUp)

/-! ## Texts -/

/-- A unit and the next smaller one, how many of the smaller make one of the larger, and what stands
    between their fields. -/
inductive IsNext : TimeUnit → TimeUnit → Nat → Char → Prop
  | hour : IsNext .day .hour 24 ' '
  | minute : IsNext .hour .minute 60 ':'
  | second : IsNext .minute .second 60 ':'

/-- The text of a field behind the leading one: two digits of a number below `count`. -/
structure IsLaterField (count : Nat) (text : List Char) : Prop where
  length_eq : text.length = 2
  isDigit : ∀ c ∈ text, c.isDigit = true
  value_lt : Text.value text < count

/-- The text of the fields behind that of a unit, down to that of `last`, and the number of
    milliseconds that they denote. -/
inductive IsLater (last : TimeUnit) : TimeUnit → List Char → Nat → Prop
  /-- Nothing stands behind the last field. -/
  | nil : IsLater last last [] 0
  /-- The next field stands in front of the others. -/
  | cons {unit next : TimeUnit} {count length n : Nat} {separator : Char} {field rest : List Char}
      (hnext : IsNext unit next count separator) (hlength : next.millis? = some length)
      (hfield : IsLaterField count field) (tail : IsLater last next rest n) :
      IsLater last unit (separator :: (field ++ rest)) (Text.value field * length + n)

/-- What stands behind the last field, and the number of milliseconds that it denotes. -/
inductive IsFraction (last : TimeUnit) (scale : Nat) : List Char → Nat → Prop
  /-- Only seconds have a fraction, and only if it has digits. -/
  | none (h : last ≠ .second ∨ scale = 0) : IsFraction last scale [] 0
  /-- A point and as many digits as asked for, which denote a part of a second. -/
  | digits {digits : List Char} {millis : Nat} (hlast : last = .second) (hscale : 0 < scale)
      (hlength : digits.length = scale) (hdigits : ∀ c ∈ digits, c.isDigit = true)
      (hvalue : Text.value digits * msPerSecond = millis * 10 ^ scale) :
      IsFraction last scale ('.' :: digits) millis

/-- The text of an interval without a sign, under a qualifier and with `scale` fraction digits, and
    the number of milliseconds that it denotes. -/
inductive Denotes (qualifier : Qualifier) (scale : Nat) : List Char → Nat → Prop
  | intro {leading later fraction : List Char} {length n k m : Nat}
      (hlength : qualifier.leading.millis? = some length) (hleading : Text.IsDecimal leading n)
      (hlater : IsLater qualifier.smallest qualifier.leading later k)
      (hfraction : IsFraction qualifier.smallest scale fraction m) :
      Denotes qualifier scale (leading ++ (later ++ fraction)) (n * length + k + m)

/-- What an interval is rounded to: the unit of its last field, or a unit of the last fraction digit
    if that is the second. -/
inductive IsResolution (qualifier : Qualifier) (scale : Nat) : Nat → Prop
  | field {length : Nat} (hlast : qualifier.smallest ≠ .second)
      (hlength : qualifier.smallest.millis? = some length) : IsResolution qualifier scale length
  | fraction (hlast : qualifier.smallest = .second) :
      IsResolution qualifier scale (10 ^ (3 - min scale 3))

/-! ## What a text denotes -/

section
variable {last unit next : TimeUnit} {count count' scale : Nat} {separator separator' : Char}

theorem IsNext.rank_lt (h : IsNext unit next count separator) : next.rank < unit.rank := by
  cases h <;> decide

theorem IsNext.unique {next' : TimeUnit} (h : IsNext unit next count separator)
    (h' : IsNext unit next' count' separator') :
    next = next' ∧ count = count' ∧ separator = separator' := by
  cases h <;> cases h' <;> exact ⟨rfl, rfl, rfl⟩

theorem IsNext.length_eq {length : Nat} (h : IsNext unit next count separator)
    (hlength : next.millis? = some length) :
    unit.millis? = some (length * count) ∧ 0 < length ∧ 0 < count ∧ count ≤ 100 := by
  cases h <;> cases hlength <;> decide

theorem IsLater.rank_le {text : List Char} {n : Nat} (h : IsLater last unit text n) :
    last.rank ≤ unit.rank := by
  induction h with
  | nil => exact Nat.le_refl _
  | cons hnext _ _ _ ih => exact Nat.le_of_lt (Nat.lt_of_le_of_lt ih hnext.rank_lt)

/-- The fields behind a unit always take the same number of characters, and denote one number. -/
theorem IsLater.unique {text text' : List Char} {n n' : Nat} (h : IsLater last unit text n)
    (h' : IsLater last unit text' n') : text.length = text'.length ∧ (text = text' → n = n') := by
  induction h generalizing text' n' with
  | nil =>
    cases h' with
    | nil => exact ⟨rfl, fun _ => rfl⟩
    | cons hnext _ _ tail => exact absurd hnext.rank_lt (Nat.not_lt.2 tail.rank_le)
  | cons hnext hlength hfield tail ih =>
    cases h' with
    | nil => exact absurd hnext.rank_lt (Nat.not_lt.2 tail.rank_le)
    | cons hnext' hlength' hfield' tail' =>
      obtain ⟨rfl, rfl, rfl⟩ := hnext.unique hnext'
      obtain rfl := Option.some.inj (hlength.symm.trans hlength')
      obtain ⟨hrest, hvalue⟩ := ih tail'
      have hfields := hfield.length_eq.trans hfield'.length_eq.symm
      constructor
      · simp [hrest, hfields]
      · intro htext
        obtain ⟨rfl, rfl⟩ := List.append_inj (List.cons.inj htext).2 hfields
        rw [hvalue rfl]

theorem IsFraction.unique {text text' : List Char} {n n' : Nat} (h : IsFraction last scale text n)
    (h' : IsFraction last scale text' n') :
    text.length = text'.length ∧ (text = text' → n = n') := by
  cases h with
  | none hnone =>
    cases h' with
    | none => exact ⟨rfl, fun _ => rfl⟩
    | digits hlast hscale => exact absurd hnone (by simp [hlast]; omega)
  | digits hlast hscale hlength _ hvalue =>
    cases h' with
    | none hnone => exact absurd hnone (by simp [hlast]; omega)
    | digits _ _ hlength' _ hvalue' =>
      constructor
      · simp [hlength, hlength']
      · intro htext
        obtain rfl := (List.cons.inj htext).2
        exact Nat.eq_of_mul_eq_mul_right (Nat.pow_pos (by decide)) (hvalue.symm.trans hvalue')

end

/-- A text denotes one number of milliseconds. -/
theorem Denotes.unique {qualifier : Qualifier} {scale n n' : Nat} {text : List Char}
    (h : Denotes qualifier scale text n) (h' : Denotes qualifier scale text n') : n = n' := by
  cases h with
  | @intro leading later fraction _ _ _ _ hlength hleading hlater hfraction =>
    generalize htext : leading ++ (later ++ fraction) = whole at h'
    cases h' with
    | intro hlength' hleading' hlater' hfraction' =>
      obtain ⟨hlaterLength, hlaterValue⟩ := hlater.unique hlater'
      obtain ⟨hfractionLength, hfractionValue⟩ := hfraction.unique hfraction'
      -- all that stands behind the leading number has a fixed length
      obtain ⟨rfl, hbehind⟩ := List.append_inj' htext (by simp [hlaterLength, hfractionLength])
      obtain ⟨rfl, rfl⟩ := List.append_inj hbehind hlaterLength
      obtain rfl := Option.some.inj (hlength.symm.trans hlength')
      rw [← hleading.value_eq, ← hleading'.value_eq, hlaterValue rfl, hfractionValue rfl]

/-! ## Fields -/

/-- Cutting off the part of a number below a multiple of `l` cuts it off from the rest of the number
    by `m`. -/
theorem div_mul_add_mod {m l : Nat} (h : l ∣ m) (r : Nat) :
    r / m * m + r % m / l * l = r / l * l := by
  have hcut := ediv_mul_of_dvd r h
  have hdiv := Int.ediv_mul_add_emod r m
  have hsum : ((r / m * m + r % m / l * l : Nat) : Int) = (r / l * l : Nat) := by
    push_cast
    omega
  exact Int.natCast_inj.1 hsum

/-- The fields behind that of a unit, down to that of `last`. -/
inductive IsChain (last : TimeUnit) : TimeUnit → List DayTimeField → Prop
  | nil : IsChain last last []
  | cons {unit : TimeUnit} {field : DayTimeField} {fields : List DayTimeField}
      (hnext : IsNext unit field.unit field.count field.separator)
      (hlength : field.unit.millis? = some field.millis) (tail : IsChain last field.unit fields) :
      IsChain last unit (field :: fields)

section
variable {last unit : TimeUnit} {fields : List DayTimeField} {length lastLength : Nat}

theorem millis_pos (h : unit.millis? = some length) : 0 < length := by
  cases unit <;> cases h <;> decide

theorem IsChain.length_dvd (h : IsChain last unit fields) (hlength : unit.millis? = some length)
    (hlast : last.millis? = some lastLength) : lastLength ∣ length := by
  induction h generalizing length with
  | nil =>
    obtain rfl := Option.some.inj (hlength.symm.trans hlast)
    exact Nat.dvd_refl _
  | cons hnext hfield _ ih =>
    obtain rfl := Option.some.inj (hlength.symm.trans (hnext.length_eq hfield).1)
    exact Nat.dvd_trans (ih hfield) (Nat.dvd_mul_right _ _)

theorem isLaterField_padded {n count : Nat} (hn : n < count) (hcount : count ≤ 100) :
    IsLaterField count (Text.padded 2 n) where
  length_eq := Text.length_padded_of_lt (by decide) (by omega)
  isDigit _ hc := Text.isDigit_of_mem_padded hc
  value_lt := by rwa [Text.value_padded]

/-- The fields behind a unit denote the part of a number below that unit, down to the last field. -/
theorem IsChain.isLater (h : IsChain last unit fields) (hlength : unit.millis? = some length)
    (hlast : last.millis? = some lastLength) (r : Nat) :
    IsLater last unit
      (fields.flatMap fun field =>
        field.separator :: Text.padded 2 (r / field.millis % field.count))
      (r % length / lastLength * lastLength) := by
  induction h generalizing length with
  | nil =>
    obtain rfl := Option.some.inj (hlength.symm.trans hlast)
    have hrest : r % length < length := Nat.mod_lt r (millis_pos hlength)
    rw [Nat.div_eq_of_lt hrest, Nat.zero_mul]
    exact .nil
  | cons hnext hfield tail ih =>
    rename_i field fields
    obtain ⟨hunit, -, hcount, hcount100⟩ := hnext.length_eq hfield
    obtain rfl := Option.some.inj (hlength.symm.trans hunit)
    have hdvd := tail.length_dvd hfield hlast
    have hvalue : r % (field.millis * field.count) / lastLength * lastLength =
        r / field.millis % field.count * field.millis +
          r % field.millis / lastLength * lastLength := by
      rw [← div_mul_add_mod hdvd, Nat.mod_mul_right_div_self, Nat.mod_mul_right_mod]
    have hlater := IsLater.cons hnext hfield
      (isLaterField_padded (Nat.mod_lt (r / field.millis) hcount) hcount100) (ih hfield)
    rw [Text.value_padded] at hlater
    rw [hvalue]
    exact hlater

/-- The fields that a qualifier of days and times shows are those from its leading unit down to its
    smallest one. -/
theorem exists_isChain {qualifier : Qualifier} (h : ¬ qualifier.IsYearMonth) :
    ∃ leading fields length, qualifier.dayTimeFields = leading :: fields ∧
      qualifier.leading.millis? = some leading.millis ∧
      qualifier.smallest.millis? = some length ∧
      IsChain qualifier.smallest qualifier.leading fields := by
  cases qualifier with
  | year => exact absurd (by decide) h
  | yearToMonth => exact absurd (by decide) h
  | month => exact absurd (by decide) h
  | day => exact ⟨_, _, _, rfl, rfl, rfl, .nil⟩
  | dayToHour => exact ⟨_, _, _, rfl, rfl, rfl, .cons .hour rfl .nil⟩
  | dayToMinute => exact ⟨_, _, _, rfl, rfl, rfl, .cons .hour rfl (.cons .minute rfl .nil)⟩
  | dayToSecond =>
    exact ⟨_, _, _, rfl, rfl, rfl, .cons .hour rfl (.cons .minute rfl (.cons .second rfl .nil))⟩
  | hour => exact ⟨_, _, _, rfl, rfl, rfl, .nil⟩
  | hourToMinute => exact ⟨_, _, _, rfl, rfl, rfl, .cons .minute rfl .nil⟩
  | hourToSecond =>
    exact ⟨_, _, _, rfl, rfl, rfl, .cons .minute rfl (.cons .second rfl .nil)⟩
  | minute => exact ⟨_, _, _, rfl, rfl, rfl, .nil⟩
  | minuteToSecond => exact ⟨_, _, _, rfl, rfl, rfl, .cons .second rfl .nil⟩
  | second => exact ⟨_, _, _, rfl, rfl, rfl, .nil⟩

end

/-! ## Writing -/

theorem isResolution_dayTimeIncrement (qualifier : Qualifier) (scale : Nat) {length : Nat}
    (hlength : qualifier.smallest.millis? = some length) :
    IsResolution qualifier scale (dayTimeIncrement qualifier scale) := by
  by_cases hlast : qualifier.smallest = .second
  · have hdigits : 3 - scale = 3 - min scale 3 := by omega
    have hincrement : dayTimeIncrement qualifier scale = 10 ^ (3 - min scale 3) := by
      simp only [dayTimeIncrement, hlast, fractionUnit, hdigits]
      rfl
    rw [hincrement]
    exact .fraction hlast
  · have hincrement : dayTimeIncrement qualifier scale = length := by
      simp [dayTimeIncrement, hlength]
    rw [hincrement]
    exact .field hlast hlength

theorem IsResolution.pos {qualifier : Qualifier} {scale resolution : Nat}
    (h : IsResolution qualifier scale resolution) : 0 < resolution := by
  cases h with
  | field hlast hlength => exact millis_pos hlength
  | fraction hlast => exact Nat.pow_pos (by decide)

/-- Digits that denote a number of milliseconds without a rest denote it exactly. -/
theorem isFraction_digits {scale millis : Nat} (hscale : 0 < scale) (hmillis : millis ≤ 999)
    (hdvd : fractionUnit scale ∣ millis) :
    IsFraction .second scale ('.' :: fractionDigits millis scale) millis := by
  refine .digits rfl hscale (length_fractionDigits millis scale)
    (fun c hc => isDigit_of_mem_fractionDigits hc) ?_
  have hsecond : msPerSecond ∣ millis * 10 ^ scale := by
    have hpow : msPerSecond ∣ fractionUnit scale * 10 ^ scale := by
      show 10 ^ 3 ∣ 10 ^ (3 - scale) * 10 ^ scale
      rw [← Nat.pow_add]
      exact Nat.pow_dvd_pow 10 (by omega)
    exact Nat.dvd_trans hpow (Nat.mul_dvd_mul_right hdvd _)
  rw [value_fractionDigits hmillis, Nat.div_mul_cancel hsecond]

/-- The fraction of a number of milliseconds that is rounded to its digits. -/
theorem isFraction_renderFraction {qualifier : Qualifier} {scale resolution r : Nat}
    (h : IsResolution qualifier scale resolution) (hdvd : resolution ∣ r) :
    IsFraction qualifier.smallest scale
      (if qualifier.smallest = .second then renderFraction (r % msPerSecond) scale else [])
      (if qualifier.smallest = .second then r % msPerSecond else 0) := by
  cases h with
  | field hlast _ =>
    rw [if_neg hlast, if_neg hlast]
    exact .none (.inl hlast)
  | fraction hlast =>
    have hunit : 10 ^ (3 - min scale 3) = fractionUnit scale := by
      show _ = 10 ^ (3 - scale)
      congr 1
      omega
    rw [hunit] at hdvd
    have hrest : fractionUnit scale ∣ r % msPerSecond :=
      (Nat.dvd_mod_iff (fractionUnit_dvd scale)).2 hdvd
    have hmillis : r % msPerSecond ≤ 999 := Nat.le_of_lt_succ (Nat.mod_lt r (by decide))
    rw [if_pos hlast, if_pos hlast, renderFraction, hlast]
    split_ifs with hscale
    · subst hscale
      rw [Nat.eq_zero_of_dvd_of_lt hrest (Nat.lt_succ_of_le hmillis)]
      exact .none (.inr rfl)
    · exact isFraction_digits (Nat.pos_of_ne_zero hscale) hmillis hrest

/-- The text of a number of milliseconds denotes the number, rounded. -/
theorem denotes_renderMillis {qualifier : Qualifier} (h : ¬ qualifier.IsYearMonth)
    (millis scale : Nat) :
    IsResolution qualifier scale (dayTimeIncrement qualifier scale) ∧
      Denotes qualifier scale (renderMillis millis qualifier scale)
        (roundMagnitude .halfUp millis (dayTimeIncrement qualifier scale)) := by
  obtain ⟨leading, fields, length, hfields, hleading, hlength, hchain⟩ := exists_isChain h
  have hresolution := isResolution_dayTimeIncrement qualifier scale hlength
  refine ⟨hresolution, ?_⟩
  obtain ⟨r, hr⟩ : ∃ r, r = roundMagnitude .halfUp millis (dayTimeIncrement qualifier scale) :=
    ⟨_, rfl⟩
  have hdvd : dayTimeIncrement qualifier scale ∣ r := by
    rw [hr]
    exact (Rounding.roundMagnitude_halfUp millis hresolution.pos).dvd
  have hdenotes := Denotes.intro hleading (Text.isDecimal_digits (r / leading.millis))
    (hchain.isLater hleading hlength r) (isFraction_renderFraction hresolution hdvd)
  have htext : renderMillis millis qualifier scale = Text.digits (r / leading.millis) ++
      ((fields.flatMap fun field =>
        field.separator :: Text.padded 2 (r / field.millis % field.count)) ++
      if qualifier.smallest = .second then renderFraction (r % msPerSecond) scale else []) := by
    simp only [renderMillis, hfields, renderFields, ← hr, List.append_assoc]
  have hvalue : r / leading.millis * leading.millis + r % leading.millis / length * length +
      (if qualifier.smallest = .second then r % msPerSecond else 0) = r := by
    rw [div_mul_add_mod (hchain.length_dvd hleading hlength)]
    split_ifs with hlast
    · rw [hlast] at hlength
      obtain rfl : msPerSecond = length := Option.some.inj hlength
      exact Nat.div_add_mod' r msPerSecond
    · have hincrement : dayTimeIncrement qualifier scale = length := by
        simp [dayTimeIncrement, hlength]
      rw [← hincrement, Nat.div_mul_cancel hdvd, Nat.add_zero]
  rw [← hr, htext]
  rwa [hvalue] at hdenotes

/-- A number of milliseconds is read off its text if no digit is rounded away. -/
theorem eq_of_renderMillis_eq {qualifier : Qualifier} (h : ¬ qualifier.IsYearMonth)
    (hlast : qualifier.smallest = .second) {scale : Nat} (hscale : 3 ≤ scale) {a b : Nat}
    (htext : renderMillis a qualifier scale = renderMillis b qualifier scale) : a = b := by
  have hincrement : dayTimeIncrement qualifier scale = 1 := by
    simp only [dayTimeIncrement, hlast, fractionUnit_of_three_le hscale]
  have ha := (denotes_renderMillis h a scale).2
  have hb := (denotes_renderMillis h b scale).2
  rw [hincrement, Rounding.roundMagnitude_of_dvd (Nat.one_dvd a), htext] at ha
  rw [hincrement, Rounding.roundMagnitude_of_dvd (Nat.one_dvd b)] at hb
  exact ha.unique hb

/-- A number is known from its sign and its magnitude. -/
theorem eq_of_signChar_eq {a b : Int} (hsign : Text.signChar a = Text.signChar b)
    (habs : a.natAbs = b.natAbs) : a = b := by
  unfold Text.signChar at hsign
  split_ifs at hsign with ha hb hb
  · omega
  · exact absurd hsign (by decide)
  · exact absurd hsign (by decide)
  · omega

/-- An interval is written with its sign, as a text that denotes its milliseconds, rounded to the
    nearest multiple of the last field or digit, away from zero in the middle. No two intervals have
    the same text if all their digits are written. -/
theorem formatDayTime_denotes {qualifier : Qualifier} (h : ¬ qualifier.IsYearMonth) (scale : Nat) :
    (∀ millis : Int, ∃ text magnitude resolution,
      formatDayTime millis qualifier scale =
        .ok (String.ofList ((if millis < 0 then '-' else '+') :: text)) ∧
      Denotes qualifier scale text magnitude ∧ IsResolution qualifier scale resolution ∧
      IsNearestUp resolution millis.natAbs magnitude) ∧
    (qualifier.smallest = .second → 3 ≤ scale → ∀ a b : Int,
      formatDayTime a qualifier scale = formatDayTime b qualifier scale → a = b) := by
  have hformat (millis : Int) : formatDayTime millis qualifier scale =
      .ok (String.ofList (Text.signChar millis :: renderMillis millis.natAbs qualifier scale)) := by
    simp only [formatDayTime, renderDayTime, if_neg h, Except.map]
  constructor
  · intro millis
    obtain ⟨hresolution, hdenotes⟩ := denotes_renderMillis h millis.natAbs scale
    exact ⟨_, _, _, hformat millis, hdenotes, hresolution,
      Rounding.roundMagnitude_halfUp millis.natAbs hresolution.pos⟩
  · intro hlast hscale a b htext
    rw [hformat, hformat, Except.ok.injEq, String.ofList_inj, List.cons.injEq] at htext
    obtain ⟨hsign, hunsigned⟩ := htext
    exact eq_of_signChar_eq hsign (eq_of_renderMillis_eq h hlast hscale hunsigned)

/-- A fraction of a second that is rounded up to the next day, and two intervals that differ in
    their sign alone. -/
theorem formatDayTime_denotes_carry :
    ¬ Qualifier.IsYearMonth .dayToSecond ∧
      formatDayTime (-86399950) .dayToSecond 1 = .ok "-1 00:00:00.0" ∧
      Denotes .dayToSecond 1 "1 00:00:00.0".toList 86400000 ∧
      IsNearestUp 100 86399950 86400000 ∧
      formatDayTime (-86399950) .dayToSecond 3 ≠ formatDayTime 86399950 .dayToSecond 3 := by
  have hqualifier : ¬ Qualifier.IsYearMonth .dayToSecond := by decide
  have hformat : formatDayTime (-86399950) .dayToSecond 1 = .ok "-1 00:00:00.0" := by
    decide +kernel
  obtain ⟨text, magnitude, resolution, htext, hdenotes, hresolution, hnear⟩ :=
    (formatDayTime_denotes hqualifier 1).1 (-86399950)
  obtain rfl : text = "1 00:00:00.0".toList := by
    rw [hformat] at htext
    have hchars := congrArg String.toList (Except.ok.inj htext)
    rw [if_pos (by decide), @String.toList_ofList ('-' :: text)] at hchars
    exact (List.cons.inj hchars).2.symm
  cases hresolution with
  | field hlast => exact absurd rfl hlast
  | fraction =>
    obtain rfl : magnitude = 86400000 := by
      have hdvd : 100 ∣ magnitude := hnear.dvd
      have hle : 2 * magnitude ≤ 2 * 86399950 + 100 := hnear.le
      have hlt : 2 * 86399950 < 2 * magnitude + 100 := hnear.lt
      omega
    refine ⟨hqualifier, hformat, hdenotes, hnear, fun hsame => ?_⟩
    have hequal := (formatDayTime_denotes hqualifier 3).2 rfl (by decide) _ _ hsame
    exact absurd hequal (by decide)

end CivilTime.Interval
