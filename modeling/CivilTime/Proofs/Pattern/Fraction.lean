import CivilTime.Clock
import CivilTime.Pattern.Reader
import CivilTime.Proofs.Text.Decimal
import Mathlib.Tactic.SplitIfs

/-!
# Fractions of a second

Fraction digits are cut off when they are written, and the milliseconds that they leave are read
back.

* `value_fractionDigits`: the number that the digits denote, however many there are.
* `fractionMillis_of_length_le`: up to three digits are read as they are.
* `fractionMillis_fractionDigits`: what is read back from the digits that are written.
-/

namespace CivilTime

section
variable {millisecond : Nat}

theorem length_padded_three (h : millisecond ≤ 999) : (Text.padded 3 millisecond).length = 3 :=
  Text.length_padded_of_lt (by decide) (by omega)

theorem isDigit_of_mem_fractionDigits {count : Nat} {c : Char}
    (hc : c ∈ fractionDigits millisecond count) : c.isDigit = true := by
  rcases List.mem_append.1 (List.mem_of_mem_take hc) with hc | hc
  · exact Text.isDigit_of_mem_padded hc
  · obtain ⟨-, rfl⟩ := List.mem_replicate.1 hc
    rfl

theorem fractionDigits_of_le (h : millisecond ≤ 999) {count : Nat} (hcount : count ≤ 3) :
    fractionDigits millisecond count = (Text.padded 3 millisecond).take count := by
  have hlength := length_padded_three h
  rw [fractionDigits, List.take_append_of_le_length (by omega)]

theorem fractionDigits_of_ge (h : millisecond ≤ 999) {count : Nat} (hcount : 3 ≤ count) :
    fractionDigits millisecond count =
      Text.padded 3 millisecond ++ List.replicate (count - 3) '0' := by
  have hlength := length_padded_three h
  rw [fractionDigits, List.take_of_length_le]
  rw [List.length_append, List.length_replicate]
  omega

theorem fractionUnit_mul_pow {count : Nat} (h : count ≤ 3) :
    fractionUnit count * 10 ^ count = msPerSecond := by
  show 10 ^ (3 - count) * 10 ^ count = 10 ^ 3
  rw [← Nat.pow_add, Nat.sub_add_cancel h]

/-- As a fraction of a second with some digits, milliseconds are a number of units of the last
    digit. -/
theorem mul_pow_div_msPerSecond (millisecond count : Nat) :
    millisecond * 10 ^ count / msPerSecond =
      millisecond / fractionUnit count * 10 ^ (count - 3) := by
  rcases Nat.le_total count 3 with hcount | hcount
  · rw [← fractionUnit_mul_pow hcount, Nat.mul_div_mul_right _ _ (Nat.pow_pos (by decide)),
      Nat.sub_eq_zero_of_le hcount, Nat.pow_zero, Nat.mul_one]
  · have hpow : 10 ^ count = 10 ^ (count - 3) * msPerSecond := by
      rw [show msPerSecond = 10 ^ 3 by rfl, ← Nat.pow_add, Nat.sub_add_cancel hcount]
    rw [hpow, fractionUnit_of_three_le hcount, Nat.div_one, ← Nat.mul_assoc,
      Nat.mul_div_cancel _ (by decide)]

/-- Fraction digits denote the milliseconds as a part of a second, with those digits that are not
    written cut off. -/
theorem value_fractionDigits (h : millisecond ≤ 999) (count : Nat) :
    Text.value (fractionDigits millisecond count) = millisecond * 10 ^ count / msPerSecond := by
  have hlength := length_padded_three h
  rw [mul_pow_div_msPerSecond]
  rcases Nat.le_total count 3 with hcount | hcount
  · rw [fractionDigits_of_le h hcount, Text.value_take fun c hc => Text.isDigit_of_mem_padded hc,
      Text.value_padded, hlength, Nat.sub_eq_zero_of_le hcount, Nat.pow_zero, Nat.mul_one]
    rfl
  · rw [fractionDigits_of_ge h hcount, Text.value_append, Text.value_padded,
      Text.value_replicate_zero, List.length_replicate, fractionUnit_of_three_le hcount,
      Nat.div_one, Nat.add_zero]

end

namespace Pattern

/-- Up to three digits of a fraction are read as they are. -/
theorem fractionMillis_of_length_le {digits : List Char} (h : digits.length ≤ 3) :
    fractionMillis digits = Text.value digits * fractionUnit digits.length := by
  have hzeros : ((['0', '0', '0'] : List Char)).take (3 - digits.length) =
      List.replicate (3 - digits.length) '0' := by
    rw [show (['0', '0', '0'] : List Char) = List.replicate 3 '0' by rfl, List.take_replicate,
      Nat.min_eq_left (Nat.sub_le 3 _)]
  have hnone : digits[3]? = none := List.getElem?_eq_none h
  rw [fractionMillis, hnone, List.take_append, List.take_of_length_le h, hzeros, Text.value_append,
    Text.value_replicate_zero, List.length_replicate]
  rfl

/-- Three digits of a fraction are a number of milliseconds. -/
theorem fractionMillis_of_length_eq {digits : List Char} (h : digits.length = 3) :
    fractionMillis digits = Text.value digits := by
  rw [fractionMillis_of_length_le (Nat.le_of_eq h), h, fractionUnit_of_three_le (Nat.le_refl 3),
    Nat.mul_one]

/-- The digits of a fraction that are written are read back as the milliseconds they are cut off
    from. -/
theorem fractionMillis_fractionDigits {millisecond : Nat} (h : millisecond ≤ 999) (count : Nat) :
    fractionMillis (fractionDigits millisecond count) =
      millisecond / fractionUnit count * fractionUnit count := by
  have hlength := length_padded_three h
  rcases Nat.le_total count 3 with hcount | hcount
  · have hvalue : Text.value (fractionDigits millisecond count) =
        millisecond / fractionUnit count := by
      rw [fractionDigits_of_le h hcount, Text.value_take fun c hc => Text.isDigit_of_mem_padded hc,
        Text.value_padded, hlength]
      rfl
    have hdigits := length_fractionDigits millisecond count
    rw [fractionMillis_of_length_le (by omega), hvalue, hdigits]
  · have htake : (Text.padded 3 millisecond ++ (List.replicate (count - 3) '0' ++
        ['0', '0', '0'])).take 3 = Text.padded 3 millisecond := List.take_left' hlength
    have hfourth : (Text.padded 3 millisecond ++ List.replicate (count - 3) '0')[3]? =
        if 0 < count - 3 then some '0' else none := by
      rw [List.getElem?_append_right (by omega), hlength, List.getElem?_replicate]
    rw [fractionDigits_of_ge h hcount, fractionUnit_of_three_le hcount, Nat.div_one, Nat.mul_one,
      fractionMillis, List.append_assoc, htake, Text.value_padded, hfourth]
    split_ifs
    · rfl
    · rfl

end Pattern

end CivilTime
