import CivilTime.Proofs.Text.Bytes
import Mathlib.Data.List.Lex

/-!
# The order of texts

Texts are compared character by character, and the first difference decides. Numbers that are
written with the same number of digits come in the order of their values.

* `Before`, `Precedes`: the order of texts by characters, and by the bytes of their UTF-8 form.
* `before_append`: texts of the same length in front decide first.
* `eq_of_not_before`: of two different texts one comes before the other.
* `before_iff_value_lt`, `before_padded`: digits come in the order of the numbers they denote.
* `precedes_ofList_iff`: for texts of ASCII characters both orders are the same.
-/

namespace CivilTime

/-- Of two numbers in mixed radix the greater first digit decides, and after equal ones the rest. -/
theorem mul_add_lt_mul_add_iff {radix p q r s : Int} (hr : 0 ≤ r ∧ r < radix)
    (hs : 0 ≤ s ∧ s < radix) : p * radix + r < q * radix + s ↔ p < q ∨ p = q ∧ r < s := by
  have hradix : 0 ≤ radix := by omega
  rcases Int.lt_trichotomy p q with hpq | rfl | hqp
  · have hmul := Int.mul_le_mul_of_nonneg_right (Int.add_one_le_of_lt hpq) hradix
    rw [Int.add_mul, Int.one_mul] at hmul
    omega
  · omega
  · have hmul := Int.mul_le_mul_of_nonneg_right (Int.add_one_le_of_lt hqp) hradix
    rw [Int.add_mul, Int.one_mul] at hmul
    omega

namespace Text

/-! ## Characters -/

/-- A text comes before another one if the first character in which they differ does, or if it is a
    proper beginning of the other. -/
def Before (s t : List Char) : Prop := List.Lex (fun c d => c.toNat < d.toNat) s t

section
variable {a b s t : List Char} {c d : Char}

theorem not_before_nil : ¬ Before s [] := by
  rintro ⟨⟩

theorem before_cons : Before (c :: s) (d :: t) ↔ c.toNat < d.toNat ∨ c = d ∧ Before s t :=
  List.cons_lex_cons_iff

theorem before_cons_self : Before (c :: s) (c :: t) ↔ Before s t := by
  rw [before_cons]
  simp

/-- Beginnings of the same length decide, unless they are the same. -/
theorem before_append (h : a.length = b.length) :
    Before (a ++ s) (b ++ t) ↔ Before a b ∨ a = b ∧ Before s t := by
  induction a generalizing b with
  | nil =>
    obtain rfl := List.eq_nil_of_length_eq_zero h.symm
    simp [not_before_nil]
  | cons c a ih =>
    cases b with
    | nil => cases h
    | cons d b =>
      rw [List.cons_append, List.cons_append, before_cons, before_cons, List.cons.injEq,
        ih (Nat.succ.inj h)]
      simp only [and_or_left, or_assoc, and_assoc]

/-- Of two different texts one comes before the other. -/
theorem eq_of_not_before (hst : ¬ Before s t) (hts : ¬ Before t s) : s = t := by
  have hchars : Std.Trichotomous fun c d : Char => c.toNat < d.toNat :=
    ⟨fun c d hcd hdc => Char.toNat_inj.1 (by omega)⟩
  exact (List.Lex.trichotomous _).trichotomous s t hst hts

end

/-! ## Digits -/

section
variable {s t : List Char} {c d : Char}

/-- As many digits come before others exactly if they denote a smaller number. -/
theorem before_iff_value_lt (hs : ∀ c ∈ s, c.isDigit = true) (ht : ∀ c ∈ t, c.isDigit = true)
    (h : s.length = t.length) : Before s t ↔ value s < value t := by
  induction s generalizing t with
  | nil =>
    obtain rfl := List.eq_nil_of_length_eq_zero h.symm
    simp [not_before_nil]
  | cons c s ih =>
    cases t with
    | nil => cases h
    | cons d t =>
      simp only [List.forall_mem_cons] at hs ht
      have hlength : s.length = t.length := Nat.succ.inj h
      have hc := toNat_of_isDigit hs.1
      have hd := toNat_of_isDigit ht.1
      have hs1 := value_lt_pow hs.2
      have ht1 := value_lt_pow ht.2
      rw [hlength] at hs1
      -- both values are in mixed radix, with the first digit as the upper part
      have hrests : (0 ≤ (value s : Int) ∧ (value s : Int) < (10 ^ t.length : Nat)) ∧
          0 ≤ (value t : Int) ∧ (value t : Int) < (10 ^ t.length : Nat) := by omega
      have hvalue := mul_add_lt_mul_add_iff (p := value [c]) (q := value [d]) hrests.1 hrests.2
      have heq : c = d ↔ value [c] = value [d] := by
        rw [← Char.toNat_inj]
        omega
      rw [before_cons, value_cons c, value_cons d, hlength, ih hs.2 ht.2 hlength, heq]
      norm_cast at hvalue
      omega

end

section
variable {width m n : Nat} {s t : List Char}

/-- Numbers padded to the same width decide in front of any text. -/
theorem before_padded (hwidth : 1 ≤ width) (hm : m < 10 ^ width) (hn : n < 10 ^ width) :
    Before (padded width m ++ s) (padded width n ++ t) ↔ m < n ∨ m = n ∧ Before s t := by
  have hlength : (padded width m).length = (padded width n).length := by
    rw [length_padded_of_lt hwidth hm, length_padded_of_lt hwidth hn]
  have hdigits := before_iff_value_lt (fun c hc => isDigit_of_mem_padded hc)
    (fun c hc => isDigit_of_mem_padded hc) hlength
  have hinj : padded width m = padded width n ↔ m = n := by
    refine ⟨fun h => ?_, congrArg _⟩
    rw [← value_padded width m, h, value_padded]
  rw [before_append hlength, hdigits, value_padded, value_padded, hinj]

end

/-! ## Bytes -/

/-- A text comes before another one in the lexicographic order of their bytes. -/
def Precedes (s t : String) : Prop :=
  List.Lex (fun a b => a.toNat < b.toNat) (utf8 s.toList) (utf8 t.toList)

theorem not_precedes_self (s : String) : ¬ Precedes s s :=
  irrefl_of (List.Lex fun a b : UInt8 => a.toNat < b.toNat) (utf8 s.toList)

section
variable {s t : List Char}

/-- The bytes of texts in ASCII are ordered as their characters. -/
theorem precedes_ofList_iff (hs : IsAscii s) (ht : IsAscii t) :
    Precedes (String.ofList s) (String.ofList t) ↔ Before s t := by
  have hcode {c : Char} (h : c.toNat < 128) : (UInt8.ofNat c.toNat).toNat = c.toNat :=
    UInt8.toNat_ofNat_of_lt' (h.trans (by decide))
  rw [Precedes, String.toList_ofList, String.toList_ofList, utf8_of_isAscii hs,
    utf8_of_isAscii ht]
  induction s generalizing t with
  | nil =>
    cases t with
    | nil => exact iff_of_false (by rintro ⟨⟩) not_before_nil
    | cons d t => exact iff_of_true .nil .nil
  | cons c s ih =>
    cases t with
    | nil => exact iff_of_false (by rintro ⟨⟩) not_before_nil
    | cons d t =>
      have hs := List.forall_mem_cons.1 hs
      have ht := List.forall_mem_cons.1 ht
      have heq : UInt8.ofNat c.toNat = UInt8.ofNat d.toNat ↔ c = d := by
        rw [← UInt8.toNat_inj, hcode hs.1, hcode ht.1, Char.toNat_inj]
      rw [List.map_cons, List.map_cons, List.cons_lex_cons_iff, before_cons, hcode hs.1,
        hcode ht.1, heq]
      exact or_congr_right (and_congr_right' (ih hs.2 ht.2))

end

end Text

end CivilTime
