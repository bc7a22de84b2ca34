import CivilTime.Pattern.Reader
import CivilTime.Proofs.Text.Decimal

/-!
# Numbers at the start of a text

A field reads back the digits it was written with, whatever follows them: with an exact width if
there are that many, and greedily if no digit follows or there are nine already.

* `takeWhile_take_maximal`, `takeWhile_take_eq_iff`: the digits at the start of a text.
* `fieldDigits_exact`, `fieldDigits_greedy`: which digits are taken.
* `readNumber?_padded_exact`, `readNumber?_padded_greedy`: a padded number is read back.
-/

namespace CivilTime.Pattern

/-- The text does not start with a digit. -/
def NoDigitFirst (text : List Char) : Prop := ∀ c ∈ text.head?, c.isDigit = false

theorem noDigitFirst_nil : NoDigitFirst [] := by
  intro c hc
  cases hc

theorem noDigitFirst_cons {c : Char} {rest : List Char} :
    NoDigitFirst (c :: rest) ↔ c.isDigit = false := by
  constructor
  · intro h
    exact h c rfl
  · rintro h d ⟨⟩
    exact h

theorem NoDigitFirst.takeWhile_take {rest : List Char} (h : NoDigitFirst rest) (k : Nat) :
    (rest.take k).takeWhile Char.isDigit = [] := by
  cases k with
  | zero => rfl
  | succ k =>
    cases rest with
    | nil => rfl
    | cons c rest => rw [List.take_succ_cons, List.takeWhile_cons, noDigitFirst_cons.1 h]; rfl

section
variable {digits rest : List Char}

/-- The digits at the start of a text are taken up to a number of them. -/
theorem takeWhile_take_append {k : Nat} (hdigits : ∀ c ∈ digits, c.isDigit = true)
    (hlength : digits.length ≤ k) (hrest : digits.length < k → NoDigitFirst rest) :
    ((digits ++ rest).take k).takeWhile Char.isDigit = digits := by
  rw [List.take_append, List.take_of_length_le hlength, List.takeWhile_append_of_pos hdigits]
  rcases Nat.eq_or_lt_of_le hlength with heq | hlt
  · rw [heq, Nat.sub_self, List.take_zero, List.takeWhile_nil, List.append_nil]
  · rw [(hrest hlt).takeWhile_take, List.append_nil]

/-- Digits are taken up to a number of them or to the first character that is none. -/
theorem takeWhile_take_maximal (k : Nat) (text : List Char) :
    ((text.take k).takeWhile Char.isDigit).length = k ∨
      NoDigitFirst (text.drop ((text.take k).takeWhile Char.isDigit).length) := by
  induction text generalizing k with
  | nil =>
    right
    rw [List.drop_nil]
    exact noDigitFirst_nil
  | cons c text ih =>
    cases k with
    | zero => exact .inl rfl
    | succ k =>
      rw [List.take_succ_cons, List.takeWhile_cons]
      split_ifs with hc
      · rw [List.length_cons, List.drop_succ_cons, Nat.add_right_cancel_iff]
        exact ih k
      · right
        rw [List.length_nil, List.drop_zero]
        exact noDigitFirst_cons.2 (Bool.eq_false_iff.2 hc)

theorem takeWhile_take_eq_iff {k : Nat} {text : List Char} :
    (text.take k).takeWhile Char.isDigit = digits ↔
      (∀ c ∈ digits, c.isDigit = true) ∧ digits.length ≤ k ∧
        ∃ rest, text = digits ++ rest ∧ (digits.length = k ∨ NoDigitFirst rest) := by
  constructor
  · rintro rfl
    have hprefix := (List.takeWhile_prefix Char.isDigit).trans (List.take_prefix k text)
    have htext := List.prefix_iff_eq_append.1 hprefix
    refine ⟨List.all_eq_true.1 List.all_takeWhile, ?_, _, htext.symm, takeWhile_take_maximal k text⟩
    exact (List.takeWhile_prefix Char.isDigit).length_le.trans (List.length_take_le k text)
  · rintro ⟨hdigits, hlength, rest, rfl, hrest⟩
    exact takeWhile_take_append hdigits hlength fun hlt => hrest.resolve_left hlt.ne

theorem fieldDigits_exact {width : Nat} (hlength : digits.length = width)
    (hdigits : ∀ c ∈ digits, c.isDigit = true) :
    fieldDigits (some width) (digits ++ rest) = digits := by
  subst hlength
  rw [← List.all_eq_true] at hdigits
  simp only [fieldDigits, List.take_left, hdigits, and_self, if_true]

theorem fieldDigits_greedy (hdigits : ∀ c ∈ digits, c.isDigit = true)
    (hlength : digits.length ≤ maxFieldDigits)
    (hrest : digits.length < maxFieldDigits → NoDigitFirst rest) :
    fieldDigits none (digits ++ rest) = digits :=
  takeWhile_take_append hdigits hlength hrest

theorem readNumber?_of_fieldDigits {exactWidth : Option Nat}
    (h : fieldDigits exactWidth (digits ++ rest) = digits) (hne : digits ≠ [])
    (hfits : Fits32 (Text.value digits)) :
    readNumber? exactWidth (digits ++ rest) = some ((Text.value digits : Int), rest) := by
  simp only [readNumber?, h]
  rw [if_neg (by simpa using hne), if_pos hfits, List.drop_left]

end

/-- A number with the digits of its field is read back, whatever follows. -/
theorem readNumber?_padded_exact {width n : Nat} (hwidth : Text.digitCount n ≤ width)
    (hfits : Fits32 n) (rest : List Char) :
    readNumber? (some width) (Text.padded width n ++ rest) = some ((n : Int), rest) := by
  have hlength : (Text.padded width n).length = width := by
    rw [Text.length_padded]
    omega
  have hdigits : fieldDigits (some width) (Text.padded width n ++ rest) = Text.padded width n :=
    fieldDigits_exact hlength fun c hc => Text.isDigit_of_mem_padded hc
  have hread := readNumber?_of_fieldDigits hdigits (Text.padded_ne_nil width n)
    (by rwa [Text.value_padded])
  rwa [Text.value_padded] at hread

/-- A number of at most nine digits is read back if nothing behind it extends it. -/
theorem readNumber?_padded_greedy {width n : Nat}
    (hlength : (Text.padded width n).length ≤ maxFieldDigits) {rest : List Char}
    (hrest : (Text.padded width n).length < maxFieldDigits → NoDigitFirst rest) :
    readNumber? none (Text.padded width n ++ rest) = some ((n : Int), rest) := by
  have hdigits : fieldDigits none (Text.padded width n ++ rest) = Text.padded width n :=
    fieldDigits_greedy (fun c hc => Text.isDigit_of_mem_padded hc) hlength hrest
  have hfits : Fits32 n := by
    have hcount : Text.digitCount n ≤ 9 := by
      rw [Text.length_padded] at hlength
      unfold maxFieldDigits at hlength
      omega
    have hn := Text.lt_pow_digitCount n
    have hpow : 10 ^ Text.digitCount n ≤ 10 ^ 9 := Nat.pow_le_pow_right (by decide) hcount
    unfold Fits32
    omega
  have hread := readNumber?_of_fieldDigits hdigits (Text.padded_ne_nil width n)
    (by rwa [Text.value_padded])
  rwa [Text.value_padded] at hread

end CivilTime.Pattern
