import CivilTime.Rounding
import Mathlib.Algebra.Order.Group.Int
import Mathlib.Algebra.Order.Ring.Int
import Mathlib.Tactic.SplitIfs

/-!
# The nine modes of rounding

A number that is no multiple of an increment lies between two neighbouring multiples. A mode chooses
one of them, by their order, by their distance from zero or by their distance from the number.

* `Mode.neighbour`: the multiple that a mode chooses.
* `roundToMultiple_of_isBetween`: a number between two multiples is rounded to it.
* `roundToMultiple_isRounding`: numbers are rounded to multiples less than an increment away, and
  multiples stay as they are.
-/

namespace CivilTime.Rounding

/-! ## Neighbouring multiples -/

/-- A number lies between a multiple of an increment and the next multiple. -/
structure IsBetween (increment : Nat) (lower x upper : Int) : Prop where
  dvd : (increment : Int) ∣ lower
  upper_eq : upper = lower + increment
  lower_lt : lower < x
  lt_upper : x < upper

/-- Of two neighbouring multiples, the one nearer to zero. -/
def nearerToZero (lower upper : Int) : Int := if lower.natAbs < upper.natAbs then lower else upper

/-- Of two neighbouring multiples, the one farther from zero. -/
def fartherFromZero (lower upper : Int) : Int :=
  if lower.natAbs < upper.natAbs then upper else lower

/-- Of two neighbouring multiples of an increment, the one that is an even multiple. -/
def evenMultiple (increment : Nat) (lower upper : Int) : Int :=
  if 2 * (increment : Int) ∣ lower then lower else upper

/-- Of two numbers, the one that is nearer to a number between them, or `middle` if both are equally
    near. -/
def nearer (lower x upper middle : Int) : Int :=
  if x - lower < upper - x then lower else if upper - x < x - lower then upper else middle

namespace Mode

/-- The mode rounds in one direction, whichever multiple is the nearer one. -/
def IsDirected (mode : Mode) : Prop :=
  mode = .ceil ∨ mode = .floor ∨ mode = .expand ∨ mode = .trunc

instance (mode : Mode) : Decidable mode.IsDirected := inferInstanceAs (Decidable (_ ∨ _))

/-- Of two neighbouring multiples of an increment, the one in the direction of a mode, or the one to
    which it rounds from the middle. -/
def choice (mode : Mode) (increment : Nat) (lower upper : Int) : Int :=
  match mode with
  | .ceil => upper
  | .halfCeil => upper
  | .floor => lower
  | .halfFloor => lower
  | .expand => fartherFromZero lower upper
  | .halfExpand => fartherFromZero lower upper
  | .trunc => nearerToZero lower upper
  | .halfTrunc => nearerToZero lower upper
  | .halfEven => evenMultiple increment lower upper

/-- The multiple of an increment to which a mode rounds a number between two neighbouring ones. -/
def neighbour (mode : Mode) (increment : Nat) (lower x upper : Int) : Int :=
  if mode.IsDirected then mode.choice increment lower upper
  else nearer lower x upper (mode.choice increment lower upper)

end Mode

section
variable {increment : Nat} {lower x upper : Int}

theorem IsBetween.dvd_upper (h : IsBetween increment lower x upper) :
    (increment : Int) ∣ upper := by
  rw [h.upper_eq]
  exact Int.dvd_add h.dvd (Int.dvd_refl _)

/-- The multiple below a number is that of its quotient. -/
theorem IsBetween.lower_eq (h : IsBetween increment lower x upper) :
    lower = x / increment * increment := by
  obtain ⟨⟨k, rfl⟩, rfl, hlower, hupper⟩ := h
  have hdiv : x / increment = k ∧ x % increment = x - increment * k := by
    rw [Int.ediv_emod_unique (by omega)]
    omega
  rw [hdiv.1, Int.mul_comm]

theorem isBetween_ediv (hpos : 0 < increment) (h : ¬ (increment : Int) ∣ x) :
    IsBetween increment (x / increment * increment) x (x / increment * increment + increment) := by
  have hdiv := Int.ediv_mul_add_emod x increment
  have hrest := Int.emod_nonneg x (b := increment) (by omega)
  have hlt := Int.emod_lt_of_pos x (b := increment) (by omega)
  have hne : x % increment ≠ 0 := fun hzero => h (Int.dvd_of_emod_eq_zero hzero)
  exact ⟨Int.dvd_mul_left _ _, rfl, by omega, by omega⟩

/-! ## Turning the number line around -/

/-- The mode that rounds as a mode does when the number line is turned around. -/
def Mode.mirror : Mode → Mode
  | .ceil => .floor
  | .floor => .ceil
  | .halfCeil => .halfFloor
  | .halfFloor => .halfCeil
  | mode => mode

theorem Mode.rule_mirror (mode : Mode) (negative : Bool) :
    mode.mirror.rule (!negative) = mode.rule negative := by
  cases mode <;> cases negative <;> rfl

theorem Mode.isDirected_mirror (mode : Mode) : mode.mirror.IsDirected ↔ mode.IsDirected := by
  cases mode <;> decide

theorem roundToMultiple_neg (mode : Mode) (x : Int) (increment : Nat) :
    roundToMultiple mode.mirror (-x) increment = -roundToMultiple mode x increment := by
  by_cases hx : x = 0
  · simp [hx, roundToMultiple]
  · have hsign : decide (-x < 0) = !decide (x < 0) := by
      rw [← decide_not]
      exact decide_eq_decide.2 (by omega)
    rw [roundToMultiple, roundToMultiple, hsign, mode.rule_mirror, Int.sign_neg, Int.natAbs_neg,
      Int.neg_mul]

theorem IsBetween.neg (h : IsBetween increment lower x upper) :
    IsBetween increment (-upper) (-x) (-lower) := by
  obtain ⟨-, hupper, hlt, hlt'⟩ := id h
  exact ⟨Int.dvd_neg.2 h.dvd_upper, by omega, by omega, by omega⟩

/-- One of two neighbouring multiples is an even multiple. -/
theorem IsBetween.even_upper_iff (h : IsBetween increment lower x upper) :
    2 * (increment : Int) ∣ upper ↔ ¬ 2 * (increment : Int) ∣ lower := by
  obtain ⟨⟨k, rfl⟩, rfl, hlower, hupper⟩ := h
  have hpos : (increment : Int) ≠ 0 := by omega
  have hnext : (increment : Int) * k + increment = increment * (k + 1) := by
    rw [Int.mul_add, Int.mul_one]
  rw [hnext, Int.mul_comm 2, Int.mul_dvd_mul_iff_left hpos, Int.mul_dvd_mul_iff_left hpos]
  omega

/-- Zero is a multiple, and so does not lie between two neighbouring ones. -/
theorem IsBetween.nonneg_or_nonpos (h : IsBetween increment lower x upper) :
    0 ≤ lower ∨ upper ≤ 0 := by
  obtain ⟨⟨k, rfl⟩, rfl, hlower, hupper⟩ := h
  rcases Int.lt_or_le k 0 with hk | hk
  · right
    have hnext : (increment : Int) * k + increment = increment * (k + 1) := by
      rw [Int.mul_add, Int.mul_one]
    rw [hnext]
    exact Int.mul_nonpos_of_nonneg_of_nonpos (by omega) (by omega)
  · left
    exact Int.mul_nonneg (by omega) hk

theorem IsBetween.natAbs_lt_iff (h : IsBetween increment lower x upper) :
    lower.natAbs < upper.natAbs ↔ 0 < x := by
  have hsign := h.nonneg_or_nonpos
  have hlower := h.lower_lt
  have hupper := h.lt_upper
  omega

theorem IsBetween.neg_pos_iff (h : IsBetween increment lower x upper) : 0 < -x ↔ ¬ 0 < x := by
  have hsign := h.nonneg_or_nonpos
  have hlower := h.lower_lt
  have hupper := h.lt_upper
  omega

theorem IsBetween.nearerToZero_eq (h : IsBetween increment lower x upper) :
    nearerToZero lower upper = if 0 < x then lower else upper := by
  simp only [nearerToZero, h.natAbs_lt_iff]

theorem IsBetween.fartherFromZero_eq (h : IsBetween increment lower x upper) :
    fartherFromZero lower upper = if 0 < x then upper else lower := by
  simp only [fartherFromZero, h.natAbs_lt_iff]

theorem IsBetween.nearerToZero_neg (h : IsBetween increment lower x upper) :
    nearerToZero (-upper) (-lower) = -nearerToZero lower upper := by
  simp only [h.nearerToZero_eq, h.neg.nearerToZero_eq, h.neg_pos_iff]
  split_ifs
  · rfl
  · rfl

theorem IsBetween.fartherFromZero_neg (h : IsBetween increment lower x upper) :
    fartherFromZero (-upper) (-lower) = -fartherFromZero lower upper := by
  simp only [h.fartherFromZero_eq, h.neg.fartherFromZero_eq, h.neg_pos_iff]
  split_ifs
  · rfl
  · rfl

theorem IsBetween.evenMultiple_neg (h : IsBetween increment lower x upper) :
    evenMultiple increment (-upper) (-lower) = -evenMultiple increment lower upper := by
  simp only [evenMultiple, Int.dvd_neg, h.even_upper_iff]
  split_ifs
  · rfl
  · rfl

theorem nearer_neg (lower x upper middle : Int) :
    nearer (-upper) (-x) (-lower) (-middle) = -nearer lower x upper middle := by
  unfold nearer
  split_ifs <;> omega

theorem IsBetween.choice_neg (h : IsBetween increment lower x upper) (mode : Mode) :
    mode.mirror.choice increment (-upper) (-lower) = -mode.choice increment lower upper := by
  cases mode with
  | ceil => rfl
  | floor => rfl
  | expand => exact h.fartherFromZero_neg
  | trunc => exact h.nearerToZero_neg
  | halfCeil => rfl
  | halfFloor => rfl
  | halfExpand => exact h.fartherFromZero_neg
  | halfTrunc => exact h.nearerToZero_neg
  | halfEven => exact h.evenMultiple_neg

theorem IsBetween.neighbour_neg (h : IsBetween increment lower x upper) (mode : Mode) :
    mode.mirror.neighbour increment (-upper) (-x) (-lower) =
      -mode.neighbour increment lower x upper := by
  simp only [Mode.neighbour, mode.isDirected_mirror, h.choice_neg, nearer_neg]
  split_ifs
  · rfl
  · rfl

/-! ## Rounding a number between two multiples -/

/-- The multiple of an increment to which a rule rounds a magnitude between two neighbouring
    ones. -/
def MagnitudeRule.neighbour (rule : MagnitudeRule) (increment : Nat) (lower x upper : Int) : Int :=
  match rule with
  | .down => lower
  | .up => upper
  | .halfDown => nearer lower x upper lower
  | .halfUp => nearer lower x upper upper
  | .halfEven => nearer lower x upper (evenMultiple increment lower upper)

/-- The rule of a mode for positive numbers chooses as the mode does. -/
theorem IsBetween.neighbour_rule (h : IsBetween increment lower x upper) (mode : Mode)
    (hx : 0 < x) : (mode.rule false).neighbour increment lower x upper =
      mode.neighbour increment lower x upper := by
  have hnearer : nearerToZero lower upper = lower := h.nearerToZero_eq.trans (if_pos hx)
  have hfarther : fartherFromZero lower upper = upper := h.fartherFromZero_eq.trans (if_pos hx)
  cases mode <;>
    simp [Mode.rule, MagnitudeRule.neighbour, Mode.neighbour, Mode.IsDirected, Mode.choice, hnearer,
      hfarther]

theorem roundMagnitude_of_isBetween {n : Nat} (h : IsBetween increment lower n upper)
    (rule : MagnitudeRule) :
    (roundMagnitude rule n increment : Int) = rule.neighbour increment lower n upper := by
  have hlower : lower = (n / increment * increment : Nat) := h.lower_eq
  obtain ⟨-, hupper, hlt, hlt'⟩ := h
  have hdiv := Nat.div_add_mod' n increment
  have hnext : (n / increment + 1) * increment = n / increment * increment + increment :=
    Nat.succ_mul _ _
  have heven : 2 * (increment : Int) ∣ lower ↔ n / increment % 2 = 0 := by
    have hpos : 0 < increment := by omega
    rw [hlower, ← Nat.dvd_iff_mod_eq_zero, ← Nat.mul_dvd_mul_iff_right hpos]
    exact Int.natCast_dvd_natCast
  have hrest : n % increment ≠ 0 := by omega
  simp only [roundMagnitude, if_neg hrest, hnext]
  generalize n / increment * increment = multiple at *
  cases rule with
  | down =>
    simp only [MagnitudeRule.goesUp, MagnitudeRule.neighbour, Bool.false_eq_true, if_false]
    exact hlower.symm
  | up =>
    simp only [MagnitudeRule.goesUp, MagnitudeRule.neighbour, if_true]
    omega
  | halfDown =>
    simp only [MagnitudeRule.goesUp, MagnitudeRule.neighbour, nearer, decide_eq_true_eq]
    split_ifs <;> omega
  | halfUp =>
    simp only [MagnitudeRule.goesUp, MagnitudeRule.neighbour, nearer, decide_eq_true_eq]
    split_ifs <;> omega
  | halfEven =>
    simp only [MagnitudeRule.goesUp, MagnitudeRule.neighbour, nearer, evenMultiple, heven,
      Bool.or_eq_true, Bool.and_eq_true, decide_eq_true_eq, beq_iff_eq]
    split_ifs <;> omega

theorem roundToMultiple_of_pos (mode : Mode) (h : IsBetween increment lower x upper) (hx : 0 < x) :
    roundToMultiple mode x increment = mode.neighbour increment lower x upper := by
  obtain ⟨n, rfl⟩ := Int.eq_ofNat_of_zero_le hx.le
  rw [← h.neighbour_rule mode hx, ← roundMagnitude_of_isBetween h, roundToMultiple,
    Int.sign_eq_one_of_pos hx, Int.one_mul, Int.natAbs_natCast, decide_eq_false (by omega)]

/-- A number between two neighbouring multiples is rounded to the one that the mode chooses. -/
theorem roundToMultiple_of_isBetween (mode : Mode) (h : IsBetween increment lower x upper) :
    roundToMultiple mode x increment = mode.neighbour increment lower x upper := by
  by_cases hx : 0 < x
  · exact roundToMultiple_of_pos mode h hx
  · have hneg := roundToMultiple_of_pos mode.mirror h.neg (h.neg_pos_iff.2 hx)
    rw [roundToMultiple_neg, h.neighbour_neg] at hneg
    exact Int.neg_inj.1 hneg

theorem roundToMultiple_of_dvd (mode : Mode) (h : (increment : Int) ∣ x) :
    roundToMultiple mode x increment = x := by
  have hdvd : increment ∣ x.natAbs := Int.natCast_dvd.1 h
  rw [roundToMultiple, roundMagnitude_of_dvd hdvd, Int.sign_mul_natAbs]

theorem Mode.choice_eq_or_eq (mode : Mode) (increment : Nat) (lower upper : Int) :
    mode.choice increment lower upper = lower ∨ mode.choice increment lower upper = upper := by
  have hnearer : nearerToZero lower upper = lower ∨ nearerToZero lower upper = upper :=
    ite_eq_or_eq _ _ _
  have hfarther : fartherFromZero lower upper = lower ∨ fartherFromZero lower upper = upper :=
    (ite_eq_or_eq _ _ _).symm
  cases mode with
  | ceil => exact .inr rfl
  | floor => exact .inl rfl
  | expand => exact hfarther
  | trunc => exact hnearer
  | halfCeil => exact .inr rfl
  | halfFloor => exact .inl rfl
  | halfExpand => exact hfarther
  | halfTrunc => exact hnearer
  | halfEven => exact ite_eq_or_eq _ _ _

theorem Mode.neighbour_eq_or_eq (mode : Mode) (increment : Nat) (lower x upper : Int) :
    mode.neighbour increment lower x upper = lower ∨
      mode.neighbour increment lower x upper = upper := by
  have hchoice := mode.choice_eq_or_eq increment lower upper
  unfold neighbour nearer
  split_ifs
  · exact hchoice
  · exact .inl rfl
  · exact .inr rfl
  · exact hchoice

theorem dvd_roundToMultiple (mode : Mode) (x : Int) (increment : Nat) :
    (increment : Int) ∣ roundToMultiple mode x increment := by
  refine Int.dvd_mul_of_dvd_right ?_
  rw [Int.natCast_dvd_natCast]
  rcases roundMagnitude_eq (mode.rule (x < 0)) x.natAbs increment with h | h <;> rw [h]
  · exact Nat.dvd_mul_left _ _
  · exact Nat.dvd_mul_left _ _

theorem abs_roundToMultiple_sub_lt (mode : Mode) (x : Int) (hpos : 0 < increment) :
    |roundToMultiple mode x increment - x| < increment := by
  by_cases hdvd : (increment : Int) ∣ x
  · rw [roundToMultiple_of_dvd mode hdvd, sub_self, abs_zero]
    omega
  · have hbetween := isBetween_ediv hpos hdvd
    have hlower := hbetween.lower_lt
    have hupper := hbetween.lt_upper
    rw [roundToMultiple_of_isBetween mode hbetween, abs_lt]
    rcases mode.neighbour_eq_or_eq increment (x / increment * increment) x
      (x / increment * increment + increment) with h | h
    · rw [h]
      omega
    · rw [h]
      omega

/-- Rounding to a multiple of an increment changes a number by less than the increment. A multiple
    stays as it is, and any other number goes to one of the two multiples next to it, as the mode
    says. -/
theorem roundToMultiple_isRounding (mode : Mode) (x : Int) (hpos : 0 < increment) :
    (increment : Int) ∣ roundToMultiple mode x increment ∧
      |roundToMultiple mode x increment - x| < increment ∧
      ((increment : Int) ∣ x → roundToMultiple mode x increment = x) ∧
      (¬ (increment : Int) ∣ x → ∃ lower upper, IsBetween increment lower x upper ∧
        roundToMultiple mode x increment = mode.neighbour increment lower x upper) := by
  refine ⟨dvd_roundToMultiple mode x increment, abs_roundToMultiple_sub_lt mode x hpos,
    roundToMultiple_of_dvd mode, fun hdvd => ?_⟩
  have hbetween := isBetween_ediv hpos hdvd
  exact ⟨_, _, hbetween, roundToMultiple_of_isBetween mode hbetween⟩

end

/-- A negative number in the middle is rounded to the even multiple. -/
theorem roundToMultiple_isRounding_middle :
    ¬ ((10 : Nat) : Int) ∣ -15 ∧ IsBetween 10 (-20) (-15) (-10) ∧
      roundToMultiple .halfEven (-15) 10 = Mode.halfEven.neighbour 10 (-20) (-15) (-10) ∧
      Mode.halfEven.neighbour 10 (-20) (-15) (-10) = -20 ∧
      roundToMultiple .trunc (-15) 5 = -15 := by
  have hdvd : ¬ ((10 : Nat) : Int) ∣ -15 := by decide
  obtain ⟨lower, upper, hbetween, hround⟩ :=
    (roundToMultiple_isRounding .halfEven (-15) (show 0 < 10 by decide)).2.2.2 hdvd
  have hexact := (roundToMultiple_isRounding .trunc (-15) (show 0 < 5 by decide)).2.2.1 (by decide)
  obtain rfl : lower = -20 := hbetween.lower_eq
  obtain rfl : upper = -10 := hbetween.upper_eq
  exact ⟨hdvd, hbetween, hround, by decide, hexact⟩

end CivilTime.Rounding
