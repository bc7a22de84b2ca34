/-!
# Numbers of 32 and 64 bits

Days and milliseconds are stored in signed words, while all arithmetic on them is exact. Storing a
number that does not fit keeps its residue.

* `toInt_ofInt_of_fits32`, `toInt_ofInt_of_fits64`: what fits is stored as it is.
-/

namespace CivilTime

/-- The number is in the range of a signed word of 32 bits. -/
def Fits32 (n : Int) : Prop := -2147483648 ≤ n ∧ n ≤ 2147483647

instance (n : Int) : Decidable (Fits32 n) := inferInstanceAs (Decidable (_ ∧ _))

/-- The number is in the range of a signed word of 64 bits. -/
def Fits64 (n : Int) : Prop := -9223372036854775808 ≤ n ∧ n ≤ 9223372036854775807

instance (n : Int) : Decidable (Fits64 n) := inferInstanceAs (Decidable (_ ∧ _))

theorem fits32_toInt (w : Int32) : Fits32 w.toInt := by
  have := w.le_toInt
  have := w.toInt_lt
  unfold Fits32
  omega

theorem fits64_toInt (w : Int64) : Fits64 w.toInt := by
  have := w.le_toInt
  have := w.toInt_lt
  unfold Fits64
  omega

theorem toInt_ofInt_of_fits32 {n : Int} (h : Fits32 n) : (Int32.ofInt n).toInt = n := by
  unfold Fits32 at h
  exact Int32.toInt_ofInt_of_le (by omega) (by omega)

theorem toInt_ofInt_of_fits64 {n : Int} (h : Fits64 n) : (Int64.ofInt n).toInt = n := by
  unfold Fits64 at h
  exact Int64.toInt_ofInt_of_le (by omega) (by omega)

end CivilTime
