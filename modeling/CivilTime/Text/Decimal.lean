import CivilTime.Width

/-!
# Decimal numbers

Numbers are written without extra zeros (`digits`) or with zeros up to a width (`padded`), and read
with any number of leading zeros.

* `value_digits`: what is written is read back.
* `length_padded`: a padded number is as wide as asked for, or as wide as the number.
-/

namespace CivilTime.Text

/-- The number that a list of decimal digits denotes. -/
def value (digits : List Char) : Nat := Nat.ofDigitChars 10 digits 0

/-- A number in decimal, without extra zeros. -/
def digits (n : Nat) : List Char := Nat.toDigits 10 n

/-- The number of decimal digits of a number; zero has one. -/
def digitCount (n : Nat) : Nat :=
  if n < 10 then 1 else digitCount (n / 10) + 1

/-- A number in decimal, with zeros in front up to a width. A wider number is written in full. -/
def padded (width n : Nat) : List Char :=
  List.replicate (width - digitCount n) '0' ++ digits n

/-- The sign that a number is written with. Zero has a plus. -/
def signChar (n : Int) : Char := if n < 0 then '-' else '+'

/-- The number denoted by one or more digits. -/
def readNat? (text : List Char) : Option Nat :=
  if text.isEmpty then none else if text.all Char.isDigit then some (value text) else none

/-- The number denoted by one or more digits after an optional sign. -/
def readInt? : List Char → Option Int
  | '+' :: rest => (readNat? rest).map fun n => (n : Int)
  | '-' :: rest => (readNat? rest).map fun n => -(n : Int)
  | text => (readNat? text).map fun n => (n : Int)

/-- The number denoted by one or more digits after an optional sign, if it fits in 32 bits. -/
def readInt32? (text : List Char) : Option Int :=
  (readInt? text).filter fun n => Fits32 n

/-! ## Writing and reading -/

theorem value_digits (n : Nat) : value (digits n) = n :=
  Nat.ofDigitChars_toDigits (by decide) (by decide)

theorem isDigit_of_mem_digits {n : Nat} {c : Char} (h : c ∈ digits n) : c.isDigit = true :=
  Nat.isDigit_of_mem_toDigits (by decide) (by decide) h

theorem digits_eq (n : Nat) :
    digits n = if n < 10 then [n.digitChar] else digits (n / 10) ++ [(n % 10).digitChar] :=
  Nat.toDigits_eq_if (by decide)

theorem length_digits (n : Nat) : (digits n).length = digitCount n := by
  induction n using digitCount.induct with
  | case1 n h => rw [digits_eq, digitCount, if_pos h, if_pos h]; rfl
  | case2 n h ih => rw [digits_eq, digitCount, if_neg h, if_neg h, List.length_append, ih]; rfl

theorem length_padded (width n : Nat) : (padded width n).length = max width (digitCount n) := by
  rw [padded, List.length_append, List.length_replicate, length_digits]
  omega

theorem isDigit_of_mem_padded {width n : Nat} {c : Char} (h : c ∈ padded width n) :
    c.isDigit = true := by
  rcases List.mem_append.1 h with h | h
  · obtain ⟨-, rfl⟩ := List.mem_replicate.1 h
    rfl
  · exact isDigit_of_mem_digits h

end CivilTime.Text
