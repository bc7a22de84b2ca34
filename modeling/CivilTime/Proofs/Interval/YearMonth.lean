import CivilTime.Interval
import CivilTime.Proofs.Interval.DayTime

/-!
# The texts of intervals of years and months

The texts of intervals, said without writing them, and the number of months that each denotes: years
and two digits for the months behind them, or months alone. Years alone stand for all months that
they are nearest to.

* `DenotesMonths`: the texts without a sign.
* `DenotesMonths.unique`: a text denotes one number, unless its months are rounded away.
* `denotes_renderMonths`: the text of a number of months denotes it.
* `formatYearMonth_denotes`: the same for signed intervals.
-/

namespace CivilTime.Interval

open Rounding (IsNearestUp)

/-- The text of an interval without a sign, under a qualifier of years and months, and a number of
    months that it denotes. -/
inductive DenotesMonths : Qualifier → List Char → Nat → Prop
  /-- Years alone denote every number of months whose nearest whole years they are. In the middle
      between two, the greater one is meant. -/
  | year {text : List Char} {years months : Nat} (htext : Text.IsDecimal text years)
      (hnear : IsNearestUp 12 months (12 * years)) : DenotesMonths .year text months
  /-- Years in full, and two digits for the months that are less than a year. -/
  | yearToMonth {year month : List Char} {years : Nat} (hyear : Text.IsDecimal year years)
      (hmonth : IsLaterField 12 month) :
      DenotesMonths .yearToMonth (year ++ '-' :: month) (12 * years + Text.value month)
  /-- Months in full. -/
  | month {text : List Char} {months : Nat} (htext : Text.IsDecimal text months) :
      DenotesMonths .month text months

section
variable {qualifier : Qualifier}

theorem Qualifier.isYearMonth_iff : qualifier.IsYearMonth ↔
    qualifier = .year ∨ qualifier = .yearToMonth ∨ qualifier = .month := by
  cases qualifier <;> decide

/-- A text that shows the months denotes one number of them. -/
theorem DenotesMonths.unique {text : List Char} {a b : Nat} (hyear : qualifier ≠ .year)
    (ha : DenotesMonths qualifier text a) (hb : DenotesMonths qualifier text b) : a = b := by
  cases ha with
  | year => exact absurd rfl hyear
  | @yearToMonth year month _ hyears hmonth =>
    generalize htext : year ++ '-' :: month = whole at hb
    cases hb with
    | yearToMonth hyears' hmonth' =>
      have hlength := hmonth.length_eq.trans hmonth'.length_eq.symm
      obtain ⟨rfl, hbehind⟩ := List.append_inj' htext (congrArg Nat.succ hlength)
      obtain ⟨-, rfl⟩ := List.cons.inj hbehind
      rw [← hyears.value_eq, ← hyears'.value_eq]
  | month htext =>
    cases hb with
    | month htext' => rw [← htext.value_eq, ← htext'.value_eq]

/-- The text of a number of months denotes it. -/
theorem denotes_renderMonths (h : qualifier.IsYearMonth) (months : Nat) :
    DenotesMonths qualifier (renderMonths months qualifier) months := by
  rcases Qualifier.isYearMonth_iff.1 h with rfl | rfl | rfl
  · have hnear := Rounding.roundMagnitude_halfUp months (show 0 < 12 by decide)
    refine .year (Text.isDecimal_digits _) ?_
    rwa [Nat.mul_div_cancel' hnear.dvd]
  · have hmonth := isLaterField_padded (Nat.mod_lt months (show 0 < 12 by decide)) (by decide)
    have hdenotes := DenotesMonths.yearToMonth (Text.isDecimal_digits (months / 12)) hmonth
    rwa [Text.value_padded, Nat.div_add_mod] at hdenotes
  · exact .month (Text.isDecimal_digits months)

/-- An interval is written with its sign, as a text that denotes its months. No two intervals have
    the same text if their months are written. -/
theorem formatYearMonth_denotes (h : qualifier.IsYearMonth) :
    (∀ months : Int, ∃ text,
      formatYearMonth months qualifier =
        .ok (String.ofList ((if months < 0 then '-' else '+') :: text)) ∧
      DenotesMonths qualifier text months.natAbs) ∧
    (qualifier ≠ .year → ∀ a b : Int,
      formatYearMonth a qualifier = formatYearMonth b qualifier → a = b) := by
  have hformat (months : Int) : formatYearMonth months qualifier =
      .ok (String.ofList (Text.signChar months :: renderMonths months.natAbs qualifier)) := by
    simp only [formatYearMonth, renderYearMonth, if_pos h, Except.map]
  constructor
  · intro months
    exact ⟨_, hformat months, denotes_renderMonths h months.natAbs⟩
  · intro hyear a b htext
    rw [hformat, hformat, Except.ok.injEq, String.ofList_inj, List.cons.injEq] at htext
    obtain ⟨hsign, hunsigned⟩ := htext
    have ha := denotes_renderMonths h a.natAbs
    rw [hunsigned] at ha
    exact eq_of_signChar_eq hsign (ha.unique hyear (denotes_renderMonths h b.natAbs))

end

/-- The longest interval of 32 bits before zero, and half a year, which is rounded up. -/
theorem formatYearMonth_denotes_longest :
    Qualifier.IsYearMonth .yearToMonth ∧ Qualifier.yearToMonth ≠ .year ∧
      formatYearMonth (-2147483648) .yearToMonth = .ok "-178956970-08" ∧
      DenotesMonths .yearToMonth "178956970-08".toList 2147483648 ∧
      formatYearMonth (-2147483648) .yearToMonth ≠ formatYearMonth 2147483647 .yearToMonth ∧
      Qualifier.IsYearMonth .year ∧ formatYearMonth (-6) .year = .ok "-1" ∧
      DenotesMonths .year ['1'] 6 := by
  have hmonths : Qualifier.IsYearMonth .yearToMonth := by decide
  have hyear : Qualifier.yearToMonth ≠ .year := by decide
  have hyears : Qualifier.IsYearMonth .year := by decide
  have hformat : formatYearMonth (-2147483648) .yearToMonth = .ok "-178956970-08" := by
    decide +kernel
  have hhalf : formatYearMonth (-6) .year = .ok "-1" := by decide +kernel
  have hread {text : List Char} {shown : String} (h : String.ofList ('-' :: text) = shown) :
      text = shown.toList.tail := by
    rw [← h, String.toList_ofList, List.tail_cons]
  obtain ⟨text, htext, hdenotes⟩ := (formatYearMonth_denotes hmonths).1 (-2147483648)
  obtain ⟨rounded, hrounded, hnearest⟩ := (formatYearMonth_denotes hyears).1 (-6)
  obtain rfl := hread (Except.ok.inj (htext.symm.trans hformat))
  obtain rfl := hread (Except.ok.inj (hrounded.symm.trans hhalf))
  refine ⟨hmonths, hyear, hformat, hdenotes, fun hsame => ?_, hyears, hhalf, hnearest⟩
  exact absurd ((formatYearMonth_denotes hmonths).2 hyear _ _ hsame) (by decide)

end CivilTime.Interval
