import CivilTime.Proofs.Pattern.Fraction
import CivilTime.Proofs.Text.Order
import Mathlib.Data.Nat.Log
import Mathlib.Order.Bounds.Defs

/-!
# Numbers of a fixed width

Digits are determined by how many they are and by the number they denote. So there is one way to pad
a number to a width, and the digits of a fraction are the same whether they are cut off after they
are written or divided away before.

* `Text.digitCount_eq_log`, `Text.isLeast_digitCount`: the number of digits as a logarithm, and as
  the least one that is enough.
* `Text.IsFixedWidth`, `Text.IsFixedWidth.unique`: the digits of a number with a width.
* `Text.eq_padded_iff`: they are the padded number.
* `fractionDigits_eq_padded`, `fractionDigits_eq_ite`: fraction digits are padded numbers.
* `padding_faithful`: padded numbers and fraction digits, each as the one text that it can be.
-/

namespace CivilTime

namespace Text

/-! ## The number of digits -/

theorem digitCount_eq_log (n : Nat) : digitCount n = Nat.log 10 n + 1 := by
  induction n using digitCount.induct with
  | case1 n h => rw [digitCount, if_pos h, Nat.log_of_lt h]
  | case2 n h ih =>
    rw [digitCount, if_neg h, ih, Nat.log_of_one_lt_of_le (by decide) (Nat.le_of_not_lt h)]

theorem isLeast_digitCount (n : Nat) :
    IsLeast {count | 1 ≤ count ∧ n < 10 ^ count} (digitCount n) := by
  refine ⟨⟨digitCount_pos n, lt_pow_digitCount n⟩, ?_⟩
  rintro count ⟨hcount, hn⟩
  exact digitCount_le hcount hn

/-! ## Digits of a fixed width -/

/-- As many digits as the width, which denote the number. -/
structure IsFixedWidth (s : List Char) (width n : Nat) : Prop where
  isDigit : ∀ c ∈ s, c.isDigit = true
  length_eq : s.length = width
  value_eq : value s = n

section
variable {s t : List Char} {width n : Nat}

theorem isFixedWidth_padded (width n : Nat) :
    IsFixedWidth (padded width n) (max width (digitCount n)) n where
  isDigit _ hc := isDigit_of_mem_padded hc
  length_eq := length_padded width n
  value_eq := value_padded width n

theorem IsFixedWidth.lt_pow (h : IsFixedWidth s width n) : n < 10 ^ width := by
  rw [← h.value_eq, ← h.length_eq]
  exact value_lt_pow h.isDigit

/-- The width and the number determine the digits. -/
theorem IsFixedWidth.unique (hs : IsFixedWidth s width n) (ht : IsFixedWidth t width n) :
    s = t := by
  have hlength : s.length = t.length := hs.length_eq.trans ht.length_eq.symm
  have hvalue : value s = value t := hs.value_eq.trans ht.value_eq.symm
  -- of two different texts of digits, the one that comes first denotes the smaller number
  apply eq_of_not_before
  · rw [before_iff_value_lt hs.isDigit ht.isDigit hlength]
    omega
  · rw [before_iff_value_lt ht.isDigit hs.isDigit hlength.symm]
    omega

theorem eq_padded_iff : s = padded width n ↔ IsFixedWidth s (max width (digitCount n)) n := by
  constructor
  · rintro rfl
    exact isFixedWidth_padded width n
  · intro h
    exact h.unique (isFixedWidth_padded width n)

theorem IsFixedWidth.eq_padded (h : IsFixedWidth s width n) (hwidth : 1 ≤ width) :
    s = padded width n := by
  have hcount : digitCount n ≤ width := digitCount_le hwidth h.lt_pow
  apply eq_padded_iff.2
  rwa [max_eq_left hcount]

end

end Text

/-! ## Fractions -/

section
variable {millisecond : Nat}

theorem isFixedWidth_fractionDigits (h : millisecond ≤ 999) (count : Nat) :
    Text.IsFixedWidth (fractionDigits millisecond count) count
      (millisecond * 10 ^ count / msPerSecond) where
  isDigit _ hc := isDigit_of_mem_fractionDigits hc
  length_eq := length_fractionDigits millisecond count
  value_eq := value_fractionDigits h count

theorem fractionDigits_eq_padded (h : millisecond ≤ 999) {count : Nat} (hcount : 1 ≤ count) :
    fractionDigits millisecond count =
      Text.padded count (millisecond * 10 ^ count / msPerSecond) :=
  (isFixedWidth_fractionDigits h count).eq_padded hcount

/-- Up to three digits can be written as the number of units of the last one, and more of them as
    the milliseconds with zeros behind. -/
theorem fractionDigits_eq_ite (h : millisecond ≤ 999) {count : Nat} (hcount : 1 ≤ count) :
    fractionDigits millisecond count =
      if count ≤ 3 then Text.padded count (millisecond / fractionUnit count)
      else Text.padded 3 millisecond ++ List.replicate (count - 3) '0' := by
  split_ifs with hthree
  · rw [fractionDigits_eq_padded h hcount, mul_pow_div_msPerSecond, Nat.sub_eq_zero_of_le hthree,
      Nat.pow_zero, Nat.mul_one]
  · exact fractionDigits_of_ge h (by omega)

end

/-! ## Faithful texts -/

/-- A number has as many digits as are needed, which is one more than its logarithm. Padding it
    gives the digits that denote it, as many as the width asks for or as the number has. Fraction
    digits are as many as asked for and denote the part of a second in units of the last digit,
    rounded down. No other texts do so. -/
theorem padding_faithful :
    (∀ n : Nat, Text.digitCount n = Nat.log 10 n + 1 ∧
      IsLeast {count | 1 ≤ count ∧ n < 10 ^ count} (Text.digitCount n)) ∧
    (∀ (width n : Nat) (s : List Char),
      s = Text.padded width n ↔ Text.IsFixedWidth s (max width (Text.digitCount n)) n) ∧
    ∀ millisecond count : Nat, millisecond ≤ 999 → 1 ≤ count →
      (∀ s : List Char, s = fractionDigits millisecond count ↔
        Text.IsFixedWidth s count (millisecond * 10 ^ count / msPerSecond)) ∧
      fractionDigits millisecond count =
        if count ≤ 3 then Text.padded count (millisecond / fractionUnit count)
        else Text.padded 3 millisecond ++ List.replicate (count - 3) '0' := by
  refine ⟨fun n => ⟨Text.digitCount_eq_log n, Text.isLeast_digitCount n⟩,
    fun width n s => Text.eq_padded_iff, ?_⟩
  intro millisecond count h hcount
  have hfraction := isFixedWidth_fractionDigits h count
  refine ⟨fun s => ⟨?_, fun hs => hs.unique hfraction⟩, fractionDigits_eq_ite h hcount⟩
  rintro rfl
  exact hfraction

/-- The greatest number of 64 bits has twenty digits. Two digits of 45 milliseconds keep the zero in
    front and lose the last digit, and five end in zeros. -/
theorem padding_faithful_cutOff :
    IsLeast {count | 1 ≤ count ∧ 18446744073709551615 < 10 ^ count} 20 ∧
      Text.IsFixedWidth "00000000000000000007".toList 20 7 ∧
      45 ≤ 999 ∧ 1 ≤ 2 ∧ fractionDigits 45 2 = ['0', '4'] ∧
      Text.IsFixedWidth ['0', '4'] 2 (45 * 10 ^ 2 / msPerSecond) ∧
      1 ≤ 5 ∧ fractionDigits 45 5 = "04500".toList ∧
      Text.IsFixedWidth "04500".toList 5 (45 * 10 ^ 5 / msPerSecond) := by
  have hcount : Text.digitCount 18446744073709551615 = 20 := by decide +kernel
  have hseven : "00000000000000000007".toList = Text.padded 20 7 := by decide +kernel
  have hwidth : max 20 (Text.digitCount 7) = 20 := by decide +kernel
  have hmillis : 45 ≤ 999 := by decide
  have hcut : fractionDigits 45 2 = ['0', '4'] := by decide +kernel
  have hzeros : fractionDigits 45 5 = "04500".toList := by decide +kernel
  obtain ⟨hdigits, hpadded, hfraction⟩ := padding_faithful
  refine ⟨?_, ?_, hmillis, by decide, hcut, ?_, by decide, hzeros, ?_⟩
  · rw [← hcount]
    exact (hdigits 18446744073709551615).2
  · have hfixed := (hpadded 20 7 _).1 hseven
    rwa [hwidth] at hfixed
  · exact ((hfraction 45 2 hmillis (by decide)).1 _).1 hcut.symm
  · exact ((hfraction 45 5 hmillis (by decide)).1 _).1 hzeros.symm

end CivilTime
