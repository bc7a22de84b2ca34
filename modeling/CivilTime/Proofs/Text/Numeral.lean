import CivilTime.Proofs.Text.Cut
import CivilTime.Proofs.Text.Decimal

/-!
# Numerals

One or more digits are read as the number they denote, with a minus in front as its negative. They
hold no blank and no separator.

* `IsDigits`, `IsNumeral`: one or more digits, and those whose number fits in 32 bits.
* `IsDecimal`, `isDecimal_digits`: the digits of a number without extra zeros.
* `IsNumeral.readInt32?_eq`, `IsDigits.readInt32?_neg`: reading digits.
* `IsInt32`, `readInt32?_eq_some_iff`: which texts are read as numbers of 32 bits.
-/

namespace CivilTime.Text

theorem isBlank_of_isDigit {c : Char} (h : c.isDigit = true) : isBlank c = false := by
  have hc := Char.isDigit_iff_toNat.1 h
  have h0 : '0'.toNat = 48 := rfl
  have h9 : '9'.toNat = 57 := rfl
  exact isBlank_of_bounds (by omega)

/-! ## Digits -/

/-- One or more digits. -/
structure IsDigits (s : List Char) : Prop where
  ne_nil : s ≠ []
  isDigit : ∀ c ∈ s, c.isDigit = true

/-- One or more digits that denote a number of 32 bits. -/
structure IsNumeral (s : List Char) : Prop extends IsDigits s where
  fits : Fits32 (value s)

/-- The digits of a number, without a zero in front of another digit. -/
structure IsDecimal (s : List Char) (n : Nat) : Prop extends IsDigits s where
  value_eq : value s = n
  eq_zero : s.head? = some '0' → s = ['0']

theorem isDigits_padded (width n : Nat) : IsDigits (padded width n) :=
  ⟨padded_ne_nil width n, fun _ hc => isDigit_of_mem_padded hc⟩

theorem isNumeral_padded (width : Nat) {n : Nat} (h : Fits32 n) : IsNumeral (padded width n) :=
  ⟨isDigits_padded width n, by rwa [value_padded]⟩

theorem digits_ne_nil (n : Nat) : digits n ≠ [] := by
  apply List.ne_nil_of_length_pos
  rw [length_digits]
  exact digitCount_pos n

/-- A number whose digits begin with a zero is zero. -/
theorem eq_zero_of_head_digits {n : Nat} (h : (digits n).head? = some '0') : n = 0 := by
  induction n using digitCount.induct with
  | case1 n hn =>
    have hdigit : ∀ k < 10, k.digitChar = '0' → k = 0 := by decide
    rw [digits_eq, if_pos hn] at h
    exact hdigit n hn (Option.some.inj h)
  | case2 n hn ih =>
    rw [digits_eq, if_neg hn, List.head?_append_of_ne_nil _ (digits_ne_nil _)] at h
    have hzero := ih h
    omega

theorem isDecimal_digits (n : Nat) : IsDecimal (digits n) n where
  ne_nil := digits_ne_nil n
  isDigit _ hc := isDigit_of_mem_digits hc
  value_eq := value_digits n
  eq_zero h := by
    rw [eq_zero_of_head_digits h]
    rfl

namespace IsDigits

variable {s : List Char}

theorem not_mem (h : IsDigits s) {c : Char} (hc : c.isDigit = false) : c ∉ s := by
  intro hmem
  rw [h.isDigit c hmem] at hc
  cases hc

theorem readNat?_eq (h : IsDigits s) : readNat? s = some (value s) := by
  have hall : s.all Char.isDigit = true := List.all_eq_true.2 h.isDigit
  have hne : ¬ s.isEmpty := by simpa using h.ne_nil
  rw [readNat?, if_neg hne, if_pos hall]

theorem readInt?_eq (h : IsDigits s) : readInt? s = some (value s : Int) := by
  have hread := h.readNat?_eq
  unfold readInt?
  split
  · exact absurd List.mem_cons_self (h.not_mem (by decide))
  · exact absurd List.mem_cons_self (h.not_mem (by decide))
  · rw [hread]
    rfl

theorem readInt?_plus (h : IsDigits s) : readInt? ('+' :: s) = some (value s : Int) := by
  rw [readInt?, h.readNat?_eq]
  rfl

theorem readInt?_neg (h : IsDigits s) : readInt? ('-' :: s) = some (-(value s : Int)) := by
  rw [readInt?, h.readNat?_eq]
  rfl

theorem readInt32?_neg (h : IsDigits s) (hfits : Fits32 (-(value s : Int))) :
    readInt32? ('-' :: s) = some (-(value s : Int)) := by
  rw [readInt32?, h.readInt?_neg, Option.filter_some, if_pos (decide_eq_true hfits)]

end IsDigits

theorem IsNumeral.readInt32?_eq {s : List Char} (h : IsNumeral s) :
    readInt32? s = some (value s : Int) := by
  rw [readInt32?, h.readInt?_eq, Option.filter_some, if_pos (decide_eq_true h.fits)]

/-! ## Signed numbers -/

/-- The text of a number of 32 bits, and the number: one or more digits after an optional sign. -/
inductive IsInt32 : List Char → Int → Prop
  | plain {s : List Char} (h : IsDigits s) (hfits : Fits32 (value s)) : IsInt32 s (value s)
  | plus {s : List Char} (h : IsDigits s) (hfits : Fits32 (value s)) : IsInt32 ('+' :: s) (value s)
  | minus {s : List Char} (h : IsDigits s) (hfits : Fits32 (-(value s : Int))) :
      IsInt32 ('-' :: s) (-(value s : Int))

section
variable {s : List Char}

theorem readNat?_eq_some_iff {n : Nat} : readNat? s = some n ↔ IsDigits s ∧ value s = n := by
  constructor
  · intro h
    unfold readNat? at h
    split_ifs at h with hempty hall
    refine ⟨⟨?_, List.all_eq_true.1 hall⟩, Option.some.inj h⟩
    rintro rfl
    exact hempty rfl
  · rintro ⟨h, rfl⟩
    exact h.readNat?_eq

theorem readNat?_map_eq_some {f : Int → Int} {n : Int}
    (h : Option.map f (do return ((← readNat? s : Nat) : Int)) = some n) :
    IsDigits s ∧ f (value s) = n := by
  cases hread : readNat? s with
  | none =>
    rw [hread] at h
    cases h
  | some m =>
    rw [hread] at h
    obtain ⟨hdigits, rfl⟩ := readNat?_eq_some_iff.1 hread
    exact ⟨hdigits, Option.some.inj h⟩

/-- What is read as a number of 32 bits is its text. -/
theorem readInt32?_eq_some_iff {n : Int} : readInt32? s = some n ↔ IsInt32 s n := by
  constructor
  · intro h
    obtain ⟨hread, hfits⟩ := Option.filter_eq_some_iff.1 h
    rw [decide_eq_true_eq] at hfits
    unfold readInt? at hread
    split at hread
    all_goals obtain ⟨hdigits, rfl⟩ := readNat?_map_eq_some hread
    · exact .plus hdigits hfits
    · exact .minus hdigits hfits
    · exact .plain hdigits hfits
  · intro h
    cases h with
    | plain h hfits => exact IsNumeral.readInt32?_eq ⟨h, hfits⟩
    | plus h hfits =>
      rw [readInt32?, h.readInt?_plus, Option.filter_some, if_pos (decide_eq_true hfits)]
    | minus h hfits => exact h.readInt32?_neg hfits

end

namespace IsInt32
variable {s : List Char} {n : Int}

/-- A number has a first character, behind which there are digits alone. -/
theorem exists_cons (h : IsInt32 s n) : ∃ c tail, s = c :: tail ∧ isBlank c = false ∧
    ∀ d ∈ tail, d.isDigit = true := by
  cases h with
  | plain h _ =>
    obtain ⟨c, tail, rfl⟩ := List.exists_cons_of_ne_nil h.ne_nil
    exact ⟨c, tail, rfl, isBlank_of_isDigit (h.isDigit c List.mem_cons_self),
      fun d hd => h.isDigit d (List.mem_cons_of_mem c hd)⟩
  | plus h _ => exact ⟨'+', _, rfl, rfl, h.isDigit⟩
  | minus h _ => exact ⟨'-', _, rfl, rfl, h.isDigit⟩

/-- A number is made of digits and signs. -/
theorem isDigit_of_mem (h : IsInt32 s n) {c : Char} (hc : c ∈ s) :
    c.isDigit = true ∨ c = '+' ∨ c = '-' := by
  cases h with
  | plain h _ => exact .inl (h.isDigit c hc)
  | plus h _ =>
    rcases List.mem_cons.1 hc with rfl | hc
    · exact .inr (.inl rfl)
    · exact .inl (h.isDigit c hc)
  | minus h _ =>
    rcases List.mem_cons.1 hc with rfl | hc
    · exact .inr (.inr rfl)
    · exact .inl (h.isDigit c hc)

theorem isBlank_of_mem (h : IsInt32 s n) {c : Char} (hc : c ∈ s) : isBlank c = false := by
  rcases h.isDigit_of_mem hc with hdigit | rfl | rfl
  · exact isBlank_of_isDigit hdigit
  · rfl
  · rfl

theorem trim_eq_self (h : IsInt32 s n) : trim s = s :=
  Text.trim_eq_self (fun _ hc => h.isBlank_of_mem (List.mem_of_mem_head? hc))
    fun _ hc => h.isBlank_of_mem (List.mem_of_getLast? hc)

end IsInt32

end CivilTime.Text
