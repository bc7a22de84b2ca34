import CivilTime.Text.Decimal
import Mathlib.Algebra.Order.Ring.Nat
import Mathlib.Data.Nat.Init

/-!
# Digits and their number

* `lt_pow_digitCount`, `digitCount_le`: the number of digits is the least one that is enough.
* `length_padded_of_lt`: a number with no more digits than its width is padded to that width.
* `value_append`: the value of one number written after another.
* `value_padded`: a padded number is read back.
* `value_lt_pow`, `value_take`: the first digits denote a number divided by a power of ten.
-/

namespace CivilTime.Text

theorem digitCount_pos (n : Nat) : 1 ≤ digitCount n := by
  rw [digitCount]
  split
  · exact le_rfl
  · omega

theorem lt_pow_digitCount (n : Nat) : n < 10 ^ digitCount n := by
  induction n using digitCount.induct with
  | case1 n h =>
    rw [digitCount, if_pos h]
    omega
  | case2 n h ih =>
    rw [digitCount, if_neg h, Nat.pow_succ]
    omega

/-- A number below a power of ten has no more digits than its exponent. -/
theorem digitCount_le {n k : Nat} (hk : 1 ≤ k) (h : n < 10 ^ k) : digitCount n ≤ k := by
  induction n using digitCount.induct generalizing k with
  | case1 n h10 =>
    rw [digitCount, if_pos h10]
    exact hk
  | case2 n h10 ih =>
    rw [digitCount, if_neg h10]
    obtain ⟨k, rfl⟩ : ∃ j, k = j + 1 := ⟨k - 1, by omega⟩
    rw [Nat.pow_succ] at h
    have hk : 1 ≤ k := by
      by_contra h0
      have : k = 0 := by omega
      subst this
      omega
    have := ih hk (by omega)
    omega

theorem digitCount_le_iff {n k : Nat} (hk : 1 ≤ k) : digitCount n ≤ k ↔ n < 10 ^ k :=
  ⟨fun h => (lt_pow_digitCount n).trans_le (Nat.pow_le_pow_right (by decide) h), digitCount_le hk⟩

theorem padded_ne_nil (width n : Nat) : padded width n ≠ [] := by
  apply List.ne_nil_of_length_pos
  have := digitCount_pos n
  rw [length_padded]
  omega

theorem length_padded_of_lt {width n : Nat} (hwidth : 1 ≤ width) (hn : n < 10 ^ width) :
    (padded width n).length = width := by
  rw [length_padded, Nat.max_eq_left (digitCount_le hwidth hn)]

/-! ## Digits written after one another -/

theorem value_append (s t : List Char) : value (s ++ t) = value s * 10 ^ t.length + value t := by
  have shift (init : Nat) :
      Nat.ofDigitChars 10 t init = init * 10 ^ t.length + Nat.ofDigitChars 10 t 0 := by
    induction t generalizing init with
    | nil => simp [Nat.ofDigitChars]
    | cons c t ih =>
      rw [Nat.ofDigitChars_cons, ih, Nat.ofDigitChars_cons, ih (10 * 0 + _), List.length_cons,
        Nat.pow_succ, Nat.add_mul]
      simp [Nat.mul_assoc, Nat.mul_comm, Nat.add_assoc]
  rw [value, Nat.ofDigitChars_append, shift]
  rfl

theorem value_replicate_zero (n : Nat) : value (List.replicate n '0') = 0 := by
  induction n with
  | zero => rfl
  | succ n ih => rw [List.replicate_succ, value, Nat.ofDigitChars_cons]; exact ih

@[simp]
theorem value_padded (width n : Nat) : value (padded width n) = n := by
  rw [padded, value_append, value_replicate_zero, value_digits, Nat.zero_mul, Nat.zero_add]

theorem value_cons (c : Char) (s : List Char) :
    value (c :: s) = value [c] * 10 ^ s.length + value s := value_append [c] s

theorem toNat_of_isDigit {c : Char} (h : c.isDigit = true) : c.toNat = value [c] + 48 := by
  have hc := Char.isDigit_iff_toNat.1 h
  have h0 : '0'.toNat = 48 := rfl
  have hvalue : value [c] = 10 * 0 + (c.toNat - '0'.toNat) := rfl
  omega

theorem value_singleton_lt {c : Char} (h : c.isDigit = true) : value [c] < 10 := by
  have hc := Char.isDigit_iff_toNat.1 h
  have h9 : '9'.toNat = 57 := rfl
  have hvalue := toNat_of_isDigit h
  omega

theorem value_lt_pow {s : List Char} (h : ∀ c ∈ s, c.isDigit = true) :
    value s < 10 ^ s.length := by
  induction s with
  | nil => decide
  | cons c s ih =>
    have hc := value_singleton_lt (h c List.mem_cons_self)
    have hs := ih fun d hd => h d (List.mem_cons_of_mem c hd)
    calc value (c :: s) = value [c] * 10 ^ s.length + value s := value_cons c s
      _ < value [c] * 10 ^ s.length + 10 ^ s.length := by omega
      _ = (value [c] + 1) * 10 ^ s.length := by rw [Nat.succ_mul]
      _ ≤ 10 * 10 ^ s.length := Nat.mul_le_mul_right _ hc
      _ = 10 ^ (c :: s).length := by rw [List.length_cons, Nat.pow_succ, Nat.mul_comm]

/-- The digits behind the first ones are cut off from a number by a division. -/
theorem value_take {s : List Char} (h : ∀ c ∈ s, c.isDigit = true) (k : Nat) :
    value (s.take k) = value s / 10 ^ (s.length - k) := by
  have hdrop : value (s.drop k) < 10 ^ (s.length - k) := by
    rw [← List.length_drop]
    exact value_lt_pow fun c hc => h c (List.mem_of_mem_drop hc)
  have hvalue : value s = 10 ^ (s.length - k) * value (s.take k) + value (s.drop k) := by
    rw [← List.length_drop, Nat.mul_comm, ← value_append, List.take_append_drop]
  rw [hvalue, Nat.mul_add_div (Nat.pow_pos (by decide)), Nat.div_eq_of_lt hdrop, Nat.add_zero]

end CivilTime.Text
