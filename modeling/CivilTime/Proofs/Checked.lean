import CivilTime.Width

/-!
# Arithmetic in words

Computations in signed words of 64 bits, which come to nothing as soon as a step of them leaves the
range of a word, and otherwise to the number that exact arithmetic gives.

* `Checked.step_ofInt`, `Checked.quotient_ofInt`: a step from numbers that fit.
* `Checked.toInt32?_ofInt`, `Checked.toByte?_ofInt`: numbers that fit in narrower words.
-/

namespace CivilTime

/-- The number that is computed in words of 64 bits, if no step left their range. -/
def Checked := Option Int

namespace Checked

/-- A number, if it fits. -/
def ofInt (n : Int) : Checked := if Fits64 n then some n else none

/-- The number of a word of 32 bits. -/
def ofInt32 (word : Int32) : Checked := ofInt word.toInt

instance (n : Nat) : OfNat Checked n := ⟨ofInt n⟩

/-- A step of a computation. -/
def step (op : Int → Int → Int) (a b : Checked) : Checked :=
  Option.bind a fun m => Option.bind b fun n => ofInt (op m n)

/-- A division. No word is divided by zero, and all divisors here are positive. -/
def quotient (op : Int → Int → Int) (a b : Checked) : Checked :=
  Option.bind b fun n => if 0 < n then step op a b else none

instance : Add Checked := ⟨step (· + ·)⟩

instance : Sub Checked := ⟨step (· - ·)⟩

instance : Mul Checked := ⟨step (· * ·)⟩

/-- The quotient of words is rounded toward zero. -/
instance : Div Checked := ⟨quotient Int.tdiv⟩

/-- The remainder of words has the sign of the dividend. -/
instance : Mod Checked := ⟨quotient Int.tmod⟩

/-- The quotient that leaves no negative remainder. -/
def ediv (a b : Checked) : Checked := quotient (· / ·) a b

/-- The remainder that is not negative. -/
def emod (a b : Checked) : Checked := quotient (· % ·) a b

/-- The number as a signed word of 32 bits, if it fits. -/
def toInt32? (a : Checked) : Option Int := Option.filter (fun n => Fits32 n) a

/-- The number as a byte, if it fits. -/
def toByte? (a : Checked) : Option Nat :=
  Option.bind a fun n => if 0 ≤ n ∧ n ≤ 255 then some n.toNat else none

/-! ## Steps from numbers that fit -/

section
variable {m n : Int}

theorem ofInt_eq_some (h : Fits64 n) : ofInt n = some n := if_pos h

theorem ofNat_eq (n : Nat) : (OfNat.ofNat n : Checked) = ofInt (OfNat.ofNat n) := rfl

theorem step_ofInt (op : Int → Int → Int) (hm : Fits64 m) (hn : Fits64 n) :
    step op (ofInt m) (ofInt n) = ofInt (op m n) := by
  rw [step, ofInt_eq_some hm, ofInt_eq_some hn]
  rfl

example : ofInt 9223372036854775807 + 1 = none := rfl

theorem quotient_ofInt (op : Int → Int → Int) (hm : Fits64 m) (hn : 0 < n ∧ Fits64 n) :
    quotient op (ofInt m) (ofInt n) = ofInt (op m n) := by
  rw [quotient, step_ofInt op hm hn.2, ofInt_eq_some hn.2]
  exact if_pos hn.1

theorem add_ofInt (hm : Fits64 m) (hn : Fits64 n) : ofInt m + ofInt n = ofInt (m + n) :=
  step_ofInt (· + ·) hm hn

theorem sub_ofInt (hm : Fits64 m) (hn : Fits64 n) : ofInt m - ofInt n = ofInt (m - n) :=
  step_ofInt (· - ·) hm hn

theorem mul_ofInt (hm : Fits64 m) (hn : Fits64 n) : ofInt m * ofInt n = ofInt (m * n) :=
  step_ofInt (· * ·) hm hn

theorem tdiv_ofInt (hm : Fits64 m) (hn : 0 < n ∧ Fits64 n) :
    ofInt m / ofInt n = ofInt (m.tdiv n) :=
  quotient_ofInt Int.tdiv hm hn

/-- The two quotients differ for negative numbers only. -/
theorem div_ofInt (hm : 0 ≤ m ∧ Fits64 m) (hn : 0 < n ∧ Fits64 n) :
    ofInt m / ofInt n = ofInt (m / n) := by
  rw [tdiv_ofInt hm.2 hn, Int.tdiv_eq_ediv_of_nonneg hm.1]

theorem mod_ofInt (hm : 0 ≤ m ∧ Fits64 m) (hn : 0 < n ∧ Fits64 n) :
    ofInt m % ofInt n = ofInt (m % n) := by
  rw [← Int.tmod_eq_emod_of_nonneg hm.1]
  exact quotient_ofInt Int.tmod hm.2 hn

theorem ediv_ofInt (hm : Fits64 m) (hn : 0 < n ∧ Fits64 n) :
    (ofInt m).ediv (ofInt n) = ofInt (m / n) :=
  quotient_ofInt (· / ·) hm hn

theorem emod_ofInt (hm : Fits64 m) (hn : 0 < n ∧ Fits64 n) :
    (ofInt m).emod (ofInt n) = ofInt (m % n) :=
  quotient_ofInt (· % ·) hm hn

/-! ## Narrower words -/

theorem toInt32?_ofInt (h : Fits32 n) : (ofInt n).toInt32? = some n := by
  have hfits : Fits64 n := by
    unfold Fits32 at h
    unfold Fits64
    omega
  rw [toInt32?, ofInt_eq_some hfits]
  exact if_pos (decide_eq_true h)

theorem toByte?_ofInt {n : Nat} (h : n ≤ 255) : (ofInt n).toByte? = some n := by
  have hfits : Fits64 n := ⟨by omega, by omega⟩
  rw [toByte?, ofInt_eq_some hfits]
  exact if_pos ⟨by omega, by omega⟩

end

end Checked

end CivilTime
