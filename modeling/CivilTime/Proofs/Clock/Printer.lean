import CivilTime.Proofs.Pattern.Fraction
import CivilTime.Proofs.Rounding
import CivilTime.Proofs.Text.Order
import CivilTime.Proofs.WallClock

/-!
# The order of the texts of a time of day

The fields of a clock are written with the same widths at all times, and fraction digits are cut
off. So the texts come in the order of the numbers of units of the last digit, and what is less than
a unit makes no difference.

* `ediv_lt_ediv_iff`, `ediv_eq_ediv_iff`: numbers of units by a multiple of the unit and the rest.
* `renderFraction_prefix`: fewer fraction digits are the first ones of more.
* `before_renderFraction`, `before_renderClock`: fractions and times in the order of their units.
* `renderClock_congr`: times with the same number of units have the same text.
-/

namespace CivilTime

/-! ## Units and their multiples -/

section
variable {unit radix : Nat} {x y : Int}

theorem fractionUnit_dvd_of_dvd (digits : Nat) (h : msPerSecond ∣ radix) :
    fractionUnit digits ∣ radix := Nat.dvd_trans (fractionUnit_dvd digits) h

/-- More multiples of the unit decide, and of as many of them the units that are left. -/
theorem ediv_lt_ediv_iff (h : unit ∣ radix) (hradix : 0 < radix) : x / unit < y / unit ↔
    x / radix < y / radix ∨ x / radix = y / radix ∧ x % radix / unit < y % radix / unit := by
  obtain ⟨k, rfl⟩ := h
  have hunit : 0 < unit := Nat.pos_of_mul_pos_right hradix
  have hrest (z : Int) : 0 ≤ z % (unit * k : Nat) / unit ∧ z % (unit * k : Nat) / unit < k := by
    have hnonneg := Int.emod_nonneg z (b := (unit * k : Nat)) (by omega)
    have hlt := Int.emod_lt_of_pos z (b := (unit * k : Nat)) (by omega)
    have hcast : ((unit * k : Nat) : Int) = k * unit := by rw [Int.natCast_mul, Int.mul_comm]
    exact ⟨Int.ediv_nonneg hnonneg (by omega),
      Int.ediv_lt_of_lt_mul (by omega) (hlt.trans_eq hcast)⟩
  rw [ediv_eq_mul_add x hunit k, ediv_eq_mul_add y hunit k]
  exact mul_add_lt_mul_add_iff (hrest x) (hrest y)

theorem ediv_eq_ediv_iff (h : unit ∣ radix) (hradix : 0 < radix) : x / unit = y / unit ↔
    x / radix = y / radix ∧ x % radix / unit = y % radix / unit := by
  have hlt := ediv_lt_ediv_iff (x := x) (y := y) h hradix
  have hgt := ediv_lt_ediv_iff (x := y) (y := x) h hradix
  omega

end

/-! ## Fractions -/

section
variable {m n count more : Nat}

theorem fractionDigits_eq_take (hm : m ≤ 999) (h : count ≤ more) :
    fractionDigits m count = (fractionDigits m more).take count := by
  have hlength := length_padded_three hm
  have hzeros : min (count - 3) (more - 3) = count - 3 := by omega
  rw [fractionDigits, fractionDigits, List.take_take, Nat.min_eq_left h, List.take_append,
    List.take_append, hlength, List.take_replicate, List.take_replicate, Nat.min_self, hzeros]

/-- Fewer fraction digits are the first ones of more. -/
theorem renderFraction_prefix (hm : m ≤ 999) (h : count ≤ more) :
    renderFraction m count <+: renderFraction m more := by
  unfold renderFraction
  split_ifs with hcount hmore hmore
  · exact List.prefix_rfl
  · exact List.nil_prefix
  · omega
  · rw [List.prefix_cons_inj, fractionDigits_eq_take hm h]
    exact List.take_prefix count _

/-- Fractions come in the order of the numbers of units that are not cut off. -/
theorem before_renderFraction (hm : m ≤ 999) (hn : n ≤ 999) (count : Nat) :
    Text.Before (renderFraction m count) (renderFraction n count) ↔
      m / fractionUnit count < n / fractionUnit count := by
  unfold renderFraction
  split_ifs with hcount
  · have hunit : fractionUnit count = 1000 := by rw [hcount]; rfl
    refine iff_of_false Text.not_before_nil ?_
    rw [hunit]
    omega
  · have hlength : (fractionDigits m count).length = (fractionDigits n count).length := by
      rw [length_fractionDigits, length_fractionDigits]
    rw [Text.before_cons_self, Text.before_iff_value_lt
      (fun c hc => isDigit_of_mem_fractionDigits hc) (fun c hc => isDigit_of_mem_fractionDigits hc)
      hlength, value_fractionDigits hm, value_fractionDigits hn, mul_pow_div_msPerSecond,
      mul_pow_div_msPerSecond, Nat.mul_lt_mul_right (Nat.pow_pos (by decide))]

end

/-! ## Times -/

/-- Each field of a clock counts in what the greater ones leave. -/
theorem clockFields_eq (millis : Int) :
    ((clockFields millis).hour : Int) = millis % msPerDay / msPerHour ∧
      ((clockFields millis).minute : Int) = millis % msPerDay % msPerHour / msPerMinute ∧
      ((clockFields millis).second : Int) =
        millis % msPerDay % msPerHour % msPerMinute / msPerSecond ∧
      ((clockFields millis).millisecond : Int) =
        millis % msPerDay % msPerHour % msPerMinute % msPerSecond := by
  simp only [clockFields, msPerDay, msPerHour, msPerMinute, msPerSecond]
  omega

/-- Times come in the order of the numbers of units in their days that are not cut off. -/
theorem before_renderClock (x y : Int) (digits : Nat) :
    Text.Before (renderClock x digits) (renderClock y digits) ↔
      x % msPerDay / fractionUnit digits < y % msPerDay / fractionUnit digits := by
  obtain ⟨hxhour, hxminute, hxsecond, hxmillis⟩ := clockFields_eq x
  obtain ⟨hyhour, hyminute, hysecond, hymillis⟩ := clockFields_eq y
  have hx := clockFields_bounds x
  have hy := clockFields_bounds y
  have hhour : fractionUnit digits ∣ msPerHour := fractionUnit_dvd_of_dvd digits (by decide)
  have hminute : fractionUnit digits ∣ msPerMinute := fractionUnit_dvd_of_dvd digits (by decide)
  -- the numbers of units are taken apart as the fields are written
  rw [ediv_lt_ediv_iff hhour (by decide), ediv_lt_ediv_iff hminute (by decide),
    ediv_lt_ediv_iff (fractionUnit_dvd digits) (by decide), ← hxhour, ← hyhour, ← hxminute,
    ← hyminute, ← hxsecond, ← hysecond, ← hxmillis, ← hymillis]
  simp only [renderClock, ClockFields.render, List.append_assoc, List.cons_append]
  rw [Text.before_padded (by decide) (by omega) (by omega), Text.before_cons_self,
    Text.before_padded (by decide) (by omega) (by omega), Text.before_cons_self,
    Text.before_padded (by decide) (by omega) (by omega),
    before_renderFraction hx.2.2.2 hy.2.2.2]
  norm_cast

theorem renderClock_congr {x y : Int} {digits : Nat}
    (h : x % msPerDay / fractionUnit digits = y % msPerDay / fractionUnit digits) :
    renderClock x digits = renderClock y digits := by
  apply Text.eq_of_not_before <;> rw [before_renderClock, h] <;> exact lt_irrefl _

end CivilTime
