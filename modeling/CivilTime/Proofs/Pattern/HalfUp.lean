import CivilTime.Proofs.Pattern.Precise
import Mathlib.Tactic.Ring

/-!
# Rounding a fraction half up

The fourth digit of a fraction decides how its milliseconds are rounded, since the digits behind it
are less than one of it. So the milliseconds are those of the whole fraction, rounded half up,
however many digits it has.

* `Pattern.fractionMillis_eq`: the milliseconds of any number of digits.
* `Pattern.IsTail`: what may follow the moment of a literal.
* `Pattern.readPrecise?_eq_some_iff`: the texts that are read with a fraction.
* `Pattern.parsePrecise?_halfUp`: the same, with the position up to which the pattern reads.
-/

namespace CivilTime

/-! ## The fourth digit -/

namespace Text

theorem five_le_iff {c : Char} (h : c.isDigit = true) : '5' ≤ c ↔ 5 ≤ value [c] := by
  have h5 : '5'.val.toNat = 53 := rfl
  have hval : c.val.toNat = value [c] + 48 := toNat_of_isDigit h
  rw [Char.le_def, UInt32.le_iff_toNat_le, h5, hval]
  omega

end Text

namespace Pattern

/-- A number of thousandths rounded half up, of which `rest` out of `unit` parts are left over. -/
theorem halfUp_eq (whole : Nat) {rest unit : Nat} (h : rest < unit) :
    (2000 * (whole * unit + rest) + 1000 * unit) / (2 * (1000 * unit)) =
      whole + if unit ≤ 2 * rest then 1 else 0 := by
  have hsplit : 2000 * (whole * unit + rest) + 1000 * unit =
      2 * (1000 * unit) * whole + (2000 * rest + 1000 * unit) := by ring
  have hrest : (2000 * rest + 1000 * unit) / (2 * (1000 * unit)) =
      if unit ≤ 2 * rest then 1 else 0 := by
    split_ifs with hup
    · exact Nat.div_eq_of_lt_le (by omega) (by omega)
    · exact Nat.div_eq_of_lt (by omega)
  rw [hsplit, Nat.mul_add_div (by omega), hrest]

/-- Half a millisecond of digits behind the third, which the first of them tells, is rounded up. -/
theorem fractionMillis_append {first behind : List Char} (hfirst : first.length = 3)
    (hbehind : ∀ c ∈ behind, c.isDigit = true) :
    fractionMillis (first ++ behind) =
      Text.value first + if 10 ^ behind.length ≤ 2 * Text.value behind then 1 else 0 := by
  cases behind with
  | nil =>
    rw [List.append_nil]
    exact fractionMillis_of_length_eq hfirst
  | cons c rest =>
    have hc := hbehind c List.mem_cons_self
    have htake : ((first ++ c :: rest) ++ ['0', '0', '0']).take 3 = first := by
      rw [List.append_assoc]
      exact List.take_left' hfirst
    have hfourth : (first ++ c :: rest)[3]? = some c := by
      rw [List.getElem?_append_right (by omega), hfirst]
      rfl
    have hlt := Text.value_lt_pow fun d hd => hbehind d (List.mem_cons_of_mem c hd)
    have hup : '5' ≤ c ↔ 10 ^ (c :: rest).length ≤ 2 * Text.value (c :: rest) := by
      rw [Text.five_le_iff hc, Text.value_cons c rest, List.length_cons, Nat.pow_succ]
      generalize 10 ^ rest.length = unit at *
      constructor
      · intro h
        have hmul := Nat.mul_le_mul_right unit h
        omega
      · intro h
        by_contra hsmall
        have hmul := Nat.mul_le_mul_right unit (Nat.le_of_lt_succ (Nat.lt_of_not_le hsmall))
        omega
    rw [fractionMillis, htake, hfourth]
    simp only [hup]

/-- The milliseconds of a fraction are those it denotes, rounded half up. -/
theorem fractionMillis_eq {digits : List Char} (h : ∀ c ∈ digits, c.isDigit = true) :
    fractionMillis digits =
      (2000 * Text.value digits + 10 ^ digits.length) / (2 * 10 ^ digits.length) := by
  rcases Nat.le_total digits.length 3 with hshort | hlong
  · -- up to three digits are a whole number of milliseconds
    have hpow : fractionUnit digits.length * 10 ^ digits.length = 1000 :=
      fractionUnit_mul_pow hshort
    have hpos : 0 < 10 ^ digits.length := Nat.pow_pos (by decide)
    have hwhole : 2000 * Text.value digits =
        2 * 10 ^ digits.length * (Text.value digits * fractionUnit digits.length) := by
      calc 2000 * Text.value digits
          = 2 * (fractionUnit digits.length * 10 ^ digits.length) * Text.value digits := by
            rw [hpow]
        _ = _ := by ring
    rw [fractionMillis_of_length_le hshort, hwhole, Nat.mul_add_div (by omega),
      Nat.div_eq_of_lt (by omega), Nat.add_zero]
  · have hfirst : (digits.take 3).length = 3 := List.length_take_of_le hlong
    have hbehind : ∀ c ∈ digits.drop 3, c.isDigit = true :=
      fun c hc => h c (List.mem_of_mem_drop hc)
    have hpow : 10 ^ digits.length = 1000 * 10 ^ (digits.drop 3).length := by
      rw [List.length_drop, show 1000 = 10 ^ 3 by rfl, ← Nat.pow_add, Nat.add_sub_cancel' hlong]
    have hmillis := fractionMillis_append hfirst hbehind
    have hvalue := Text.value_append (digits.take 3) (digits.drop 3)
    rw [List.take_append_drop] at hmillis hvalue
    rw [hmillis, hvalue, hpow, halfUp_eq _ (Text.value_lt_pow hbehind)]

/-! ## What follows a moment -/

/-- What may follow the moment of a literal, and its fraction digits. -/
inductive IsTail : List Char → List Char → Prop
  /-- Nothing follows. -/
  | nil : IsTail [] []
  /-- A point follows, and any number of digits. -/
  | point {digits : List Char} (h : ∀ c ∈ digits, c.isDigit = true) : IsTail ('.' :: digits) digits

theorem IsTail.isDigit {rest digits : List Char} (h : IsTail rest digits) :
    ∀ c ∈ digits, c.isDigit = true := by
  cases h with
  | nil =>
    intro c hc
    cases hc
  | point h => exact h

variable {pattern : Pattern} {zone : Offset}

/-- A timestamp is read where a moment is found in front of a fraction. -/
theorem readPrecise?_eq_some_iff {text : List Char} {precise : PreciseTimestamp} :
    pattern.readPrecise? text zone = some precise ↔
      ∃ moment rest digits, pattern.readStart? text zone = some (moment, rest) ∧
        IsTail rest digits ∧
        precise = ⟨moment.addMillis (fractionMillis digits), min digits.length 3⟩ := by
  constructor
  · intro h
    obtain ⟨moment, ⟨hread, rfl⟩ | ⟨digits, hread, hdigits, rfl⟩⟩ := readPrecise?_cases h
    · refine ⟨moment, [], [], hread, .nil, ?_⟩
      rw [show fractionMillis [] = 0 by rfl, Int.natCast_zero, moment.addMillis_zero]
      rfl
    · exact ⟨moment, _, digits, hread, .point hdigits, rfl⟩
  · rintro ⟨moment, rest, digits, hread, htail, rfl⟩
    rw [readPrecise?, hread]
    cases htail with
    | nil =>
      rw [show fractionMillis [] = 0 by rfl, Int.natCast_zero, moment.addMillis_zero]
      rfl
    | point hdigits => simp only [List.all_eq_true.2 hdigits, if_true]

/-- The position up to which a moment is found is that of what follows it. -/
theorem parseStart?_dropBytes_iff {text : String} {moment : Timestamp} {stop : Nat}
    {rest : List Char} :
    (pattern.parseStart? text zone = some (moment, stop) ∧
      Text.dropBytes stop text.toList = some rest) ↔
    pattern.readStart? text.toList zone = some (moment, rest) ∧
      stop = Text.byteLength text.toList - Text.byteLength rest := by
  have hdrop {moment : Timestamp} {rest : List Char}
      (hread : pattern.readStart? text.toList zone = some (moment, rest)) :
      Text.dropBytes (Text.byteLength text.toList - Text.byteLength rest) text.toList =
        some rest := by
    obtain ⟨pieces, hsplit, -⟩ := readStart?_sound hread
    exact Text.dropBytes_eq_some_iff.2 ⟨_, hsplit.eq_append, hsplit.byteLength_flatten⟩
  constructor
  · rintro ⟨hparse, hrest⟩
    obtain ⟨⟨found, behind⟩, hread, heq⟩ := Option.map_eq_some_iff.1 hparse
    obtain ⟨rfl, rfl⟩ := Prod.mk.inj heq
    rw [hdrop hread] at hrest
    obtain rfl := Option.some.inj hrest
    exact ⟨hread, rfl⟩
  · rintro ⟨hread, rfl⟩
    refine ⟨?_, hdrop hread⟩
    rw [parseStart?, hread, Option.map_some]

/-- The fraction of a moment that is found never takes it past the last one. -/
theorem toInt_addMillis_fraction {text rest digits : List Char} {moment : Timestamp}
    (hread : pattern.readStart? text zone = some (moment, rest))
    (hdigits : ∀ c ∈ digits, c.isDigit = true) :
    (moment.addMillis (fractionMillis digits)).toInt = moment.toInt + fractionMillis digits := by
  obtain ⟨pieces, -, -, rfl⟩ := readStart?_sound hread
  have hle := fractionMillis_le hdigits
  have hbase := (pattern.fieldsOf pieces).toInt_addMillis_neg zone
  have hsum := (pattern.fieldsOf pieces).toInt_addMillis_neg_add zone
    (n := fractionMillis digits) (by omega)
  rw [Timestamp.addMillis_addMillis]
  omega

/-- A text is read with a fraction exactly if the pattern finds a moment at its start, and nothing
    follows, or a point and any number of digits. As many digits are kept as there are, three at
    most, and the moment is later by the fraction they denote, rounded half up to milliseconds. -/
theorem parsePrecise?_halfUp (pattern : Pattern) (text : String) (zone : Offset) :
    ((∃ precise, pattern.parsePrecise? text zone = some precise) ↔
      ∃ moment stop rest digits, pattern.parseStart? text zone = some (moment, stop) ∧
        Text.dropBytes stop text.toList = some rest ∧ IsTail rest digits) ∧
    ∀ moment stop rest digits, pattern.parseStart? text zone = some (moment, stop) →
      Text.dropBytes stop text.toList = some rest → IsTail rest digits →
      ∃ precise, pattern.parsePrecise? text zone = some precise ∧
        precise.digits = min 3 digits.length ∧
        precise.moment.toInt = moment.toInt +
          ((2000 * Text.value digits + 10 ^ digits.length) / (2 * 10 ^ digits.length) : Nat) := by
  refine ⟨⟨?_, ?_⟩, ?_⟩
  · rintro ⟨precise, h⟩
    obtain ⟨moment, rest, digits, hread, htail, -⟩ := readPrecise?_eq_some_iff.1 h
    obtain ⟨hparse, hdrop⟩ := parseStart?_dropBytes_iff.2 ⟨hread, rfl⟩
    exact ⟨moment, _, rest, digits, hparse, hdrop, htail⟩
  · rintro ⟨moment, stop, rest, digits, hparse, hdrop, htail⟩
    have hread := (parseStart?_dropBytes_iff.1 ⟨hparse, hdrop⟩).1
    exact ⟨_, readPrecise?_eq_some_iff.2 ⟨moment, rest, digits, hread, htail, rfl⟩⟩
  · intro moment stop rest digits hparse hdrop htail
    have hread := (parseStart?_dropBytes_iff.1 ⟨hparse, hdrop⟩).1
    refine ⟨_, readPrecise?_eq_some_iff.2 ⟨moment, rest, digits, hread, htail, rfl⟩,
      Nat.min_comm _ _, ?_⟩
    rw [toInt_addMillis_fraction hread htail.isDigit, fractionMillis_eq htail.isDigit]

/-- A fraction of many digits that is rounded up to the next year, five and a half hours to the
    east. -/
theorem parsePrecise?_halfUp_carry :
    let pattern : Pattern := ⟨[.field .year 4, .field .month 2, .field .day 2, .literal '日',
      .field .hour 2, .field .minute 2, .field .second 2]⟩
    let zone : Offset := ⟨19800, by decide, by decide⟩
    pattern.parseStart? "20231231日235959.99950" zone = some (Timestamp.ofInt 1704047399000, 17) ∧
      Text.dropBytes 17 "20231231日235959.99950".toList = some ['.', '9', '9', '9', '5', '0'] ∧
      IsTail ['.', '9', '9', '9', '5', '0'] ['9', '9', '9', '5', '0'] ∧
      ∃ precise, pattern.parsePrecise? "20231231日235959.99950" zone = some precise ∧
        precise.digits = 3 ∧ precise.moment.toInt = 1704047400000 := by
  intro pattern zone
  have hparse : pattern.parseStart? "20231231日235959.99950" zone =
      some (Timestamp.ofInt 1704047399000, 17) := by decide +kernel
  have hdrop : Text.dropBytes 17 "20231231日235959.99950".toList =
      some ['.', '9', '9', '9', '5', '0'] := by decide +kernel
  have htail : IsTail ['.', '9', '9', '9', '5', '0'] ['9', '9', '9', '5', '0'] :=
    .point (List.all_eq_true.1 rfl)
  obtain ⟨precise, hread, hdigits, hmoment⟩ :=
    (parsePrecise?_halfUp pattern "20231231日235959.99950" zone).2 _ _ _ _ hparse hdrop htail
  exact ⟨hparse, hdrop, htail, precise, hread, hdigits, hmoment.trans (by decide)⟩

end Pattern

end CivilTime
