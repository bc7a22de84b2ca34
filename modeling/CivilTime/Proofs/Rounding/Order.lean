import CivilTime.Proofs.Rounding.Modes

/-!
# The order of rounded numbers

Rounding keeps the order of numbers, whatever the mode. So a multiple that is not after a number is
not after the rounded number either.

* `roundToMultiple_mono`: a greater number is rounded to a greater or the same multiple.
* `Mode.IsDirected.le_or_le`: a directed mode rounds a number down, or up, to every increment.
* `roundToMultiple_comp`: rounding in one direction to a finer increment first makes no difference.
-/

namespace CivilTime.Rounding

section
variable {increment : Nat} {lower x y upper : Int}

theorem le_roundToMultiple (mode : Mode) (hpos : 0 < increment) {multiple : Int}
    (hdvd : (increment : Int) ∣ multiple) (h : multiple ≤ x) :
    multiple ≤ roundToMultiple mode x increment := by
  by_contra hlt
  have hnear := (abs_lt.1 (abs_roundToMultiple_sub_lt mode x hpos)).1
  have hgap := Int.le_of_dvd (by omega)
    (Int.dvd_sub hdvd (dvd_roundToMultiple mode x increment))
  omega

theorem roundToMultiple_le (mode : Mode) (hpos : 0 < increment) {multiple : Int}
    (hdvd : (increment : Int) ∣ multiple) (h : x ≤ multiple) :
    roundToMultiple mode x increment ≤ multiple := by
  by_contra hlt
  have hnear := (abs_lt.1 (abs_roundToMultiple_sub_lt mode x hpos)).2
  have hgap := Int.le_of_dvd (by omega)
    (Int.dvd_sub (dvd_roundToMultiple mode x increment) hdvd)
  omega

theorem Mode.neighbour_mono (mode : Mode) (increment : Nat) (hle : lower ≤ upper) (h : x ≤ y) :
    mode.neighbour increment lower x upper ≤ mode.neighbour increment lower y upper := by
  have hchoice := mode.choice_eq_or_eq increment lower upper
  unfold neighbour nearer
  split_ifs <;> omega

/-- A greater number is rounded to a greater or the same multiple. -/
theorem roundToMultiple_mono (mode : Mode) (hpos : 0 < increment) (h : x ≤ y) :
    roundToMultiple mode x increment ≤ roundToMultiple mode y increment := by
  -- a multiple from one number to the other keeps their roundings apart
  have hsplit : ∀ {multiple : Int}, (increment : Int) ∣ multiple → x ≤ multiple → multiple ≤ y →
      roundToMultiple mode x increment ≤ roundToMultiple mode y increment := by
    intro multiple hdvd hx hy
    exact (roundToMultiple_le mode hpos hdvd hx).trans (le_roundToMultiple mode hpos hdvd hy)
  by_cases hx : (increment : Int) ∣ x
  · exact hsplit hx le_rfl h
  · have hbetween := isBetween_ediv hpos hx
    rcases Int.lt_or_le y (x / increment * increment + increment) with hy | hy
    · have hsame : IsBetween increment (x / increment * increment) y
          (x / increment * increment + increment) :=
        ⟨hbetween.dvd, rfl, hbetween.lower_lt.trans_le h, hy⟩
      rw [roundToMultiple_of_isBetween mode hbetween, roundToMultiple_of_isBetween mode hsame]
      exact mode.neighbour_mono increment (by omega) h
    · exact hsplit hbetween.dvd_upper hbetween.lt_upper.le hy

theorem roundToMultiple_roundToMultiple (mode : Mode) (x : Int) (increment : Nat) :
    roundToMultiple mode (roundToMultiple mode x increment) increment =
      roundToMultiple mode x increment :=
  roundToMultiple_of_dvd mode (dvd_roundToMultiple mode x increment)

theorem roundToMultiple_le_self {mode : Mode} (hpos : 0 < increment)
    (h : ∀ lower upper, IsBetween increment lower x upper →
      mode.neighbour increment lower x upper = lower) : roundToMultiple mode x increment ≤ x := by
  by_cases hdvd : (increment : Int) ∣ x
  · exact (roundToMultiple_of_dvd mode hdvd).le
  · have hbetween := isBetween_ediv hpos hdvd
    rw [roundToMultiple_of_isBetween mode hbetween, h _ _ hbetween]
    exact hbetween.lower_lt.le

theorem self_le_roundToMultiple {mode : Mode} (hpos : 0 < increment)
    (h : ∀ lower upper, IsBetween increment lower x upper →
      mode.neighbour increment lower x upper = upper) : x ≤ roundToMultiple mode x increment := by
  by_cases hdvd : (increment : Int) ∣ x
  · exact (roundToMultiple_of_dvd mode hdvd).ge
  · have hbetween := isBetween_ediv hpos hdvd
    rw [roundToMultiple_of_isBetween mode hbetween, h _ _ hbetween]
    exact hbetween.lt_upper.le

/-- In which direction a directed mode rounds a number does not depend on the increment. -/
theorem Mode.IsDirected.le_or_le {mode : Mode} (hmode : mode.IsDirected) (x : Int) :
    (∀ increment : Nat, 0 < increment → roundToMultiple mode x increment ≤ x) ∨
      ∀ increment : Nat, 0 < increment → x ≤ roundToMultiple mode x increment := by
  rcases hmode with rfl | rfl | rfl | rfl
  · exact .inr fun _ hpos => self_le_roundToMultiple hpos fun _ _ _ => rfl
  · exact .inl fun _ hpos => roundToMultiple_le_self hpos fun _ _ _ => rfl
  · by_cases hx : 0 < x
    · exact .inr fun _ hpos => self_le_roundToMultiple hpos fun _ _ h =>
        h.fartherFromZero_eq.trans (if_pos hx)
    · exact .inl fun _ hpos => roundToMultiple_le_self hpos fun _ _ h =>
        h.fartherFromZero_eq.trans (if_neg hx)
  · by_cases hx : 0 < x
    · exact .inl fun _ hpos => roundToMultiple_le_self hpos fun _ _ h =>
        h.nearerToZero_eq.trans (if_pos hx)
    · exact .inr fun _ hpos => self_le_roundToMultiple hpos fun _ _ h =>
        h.nearerToZero_eq.trans (if_neg hx)

/-- Rounding in one direction to a finer increment first makes no difference. -/
theorem roundToMultiple_comp {mode : Mode} (hmode : mode.IsDirected) {fine coarse : Nat}
    (hfine : 0 < fine) (hcoarse : 0 < coarse) (hdvd : fine ∣ coarse) (x : Int) :
    roundToMultiple mode (roundToMultiple mode x fine) coarse = roundToMultiple mode x coarse := by
  have hmultiple : (fine : Int) ∣ roundToMultiple mode x coarse :=
    Int.dvd_trans (Int.natCast_dvd_natCast.2 hdvd) (dvd_roundToMultiple mode x coarse)
  rcases hmode.le_or_le x with hdown | hup
  · apply le_antisymm
    · exact roundToMultiple_mono mode hcoarse (hdown fine hfine)
    · apply le_roundToMultiple mode hcoarse (dvd_roundToMultiple mode x coarse)
      exact le_roundToMultiple mode hfine hmultiple (hdown coarse hcoarse)
  · apply le_antisymm
    · apply roundToMultiple_le mode hcoarse (dvd_roundToMultiple mode x coarse)
      exact roundToMultiple_le mode hfine hmultiple (hup coarse hcoarse)
    · exact roundToMultiple_mono mode hcoarse (hup fine hfine)

end

end CivilTime.Rounding
