import CivilTime.Calendar.Day
import CivilTime.Proofs.Calendar.RoundTrip
import CivilTime.Proofs.Literal.Written

/-!
# The text of a date as a literal

A date is read back from the text it is written as. Its year may be negative, and then begins with
the character that separates the fields.

* `CivilDate.read_render`: the fields of a written date are read back, legal or not.
* `EpochDay.read_render`: so is every day, also one whose date has wrapped around.
* `EpochDay.parse_format`: days and the texts of legal dates correspond.
-/

namespace CivilTime

namespace CivilDate

variable {date : CivilDate}

/-- The fields of a date are read back from its text. -/
theorem read_render (hyear : Fits32 date.year) (hmonth : Fits32 date.month)
    (hday : Fits32 date.day) : EpochDay.read date.render = .ok date.toEpochDay := by
  have hm := Text.isNumeral_padded 2 hmonth
  have hd := Text.isNumeral_padded 2 hday
  have hy := Text.isDigits_padded 4 date.year.natAbs
  rw [render, renderYear, toEpochDay]
  simp only [List.append_assoc, List.cons_append]
  split_ifs with hneg
  · have habs : -(date.year.natAbs : Int) = date.year := by omega
    have hread := EpochDay.read_neg hy (by rwa [Text.value_padded, habs]) hm hd
    rwa [Text.value_padded, Text.value_padded, Text.value_padded, habs] at hread
  · have habs : (date.year.natAbs : Int) = date.year := by omega
    have hread := EpochDay.read_digits ⟨hy, by rwa [Text.value_padded, habs]⟩ hm hd
    rwa [Text.value_padded, Text.value_padded, Text.value_padded, habs] at hread

end CivilDate

namespace EpochDay

/-- Every day is read back from its text. -/
theorem read_render (day : EpochDay) : read day.render = .ok day := by
  have hyear := day.year_bounds
  have hbounds : 1 ≤ day.date.month ∧ day.date.month ≤ 12 ∧ 1 ≤ day.date.day ∧
      day.date.day ≤ 31 := civilDate_bounds day.toJulianDay.toInt
  have hread : read day.date.render = .ok day.date.toEpochDay := by
    apply CivilDate.read_render <;> unfold Fits32 <;> omega
  rwa [toEpochDay_date] at hread

/-- The text of a legal date is written again for the day that is read from it. -/
theorem exists_parse_format (date : CivilDate) (h : date.IsLegal)
    (hfits : Fits32 date.dayNumber) :
    ∃ found, parse date.format = .ok found ∧ found.format = date.format := by
  have hshown := h.date_toEpochDay hfits
  have hread := date.toEpochDay.read_render
  rw [render, hshown] at hread
  refine ⟨date.toEpochDay, ?_, ?_⟩
  · rw [parse, CivilDate.format, String.toList_ofList]
    exact hread
  · rw [format, render, hshown, CivilDate.format]

/-- Every day is read back from its text. A text of a legal date is written again for the day that
    is read from it, if the number of that day fits in 32 bits. -/
theorem parse_format :
    (∀ day : EpochDay, parse day.format = .ok day) ∧
      ∀ year month day : Int, IsLegalDate year month day → Fits32 (dayNumber year month day) →
        let text := String.ofList ((if year < 0 then ['-'] else []) ++ Text.padded 4 year.natAbs ++
          '-' :: Text.padded 2 month.toNat ++ '-' :: Text.padded 2 day.toNat)
        ∃ found, parse text = .ok found ∧ found.format = text := by
  refine ⟨fun day => ?_, fun year month day hlegal hfits => ?_⟩
  · rw [parse, format, String.toList_ofList]
    exact day.read_render
  · have hmonth := hlegal.month_bounds
    have hday : 1 ≤ day := hlegal.1
    have hm : (month.toNat : Int) = month := Int.toNat_of_nonneg (by omega)
    have hd : (day.toNat : Int) = day := Int.toNat_of_nonneg (by omega)
    rw [← hm, ← hd] at hlegal hfits
    exact exists_parse_format ⟨year, month.toNat, day.toNat⟩ hlegal hfits

/-- The Ides of March of a year before year zero, and the last day of 32 bits, whose date has
    wrapped around. -/
theorem parse_format_ides :
    parse (ofInt 2147483647).format = .ok (ofInt 2147483647) ∧
      IsLegalDate (-44) 3 15 ∧ Fits32 (dayNumber (-44) 3 15) ∧
      ∃ found, parse "-0044-03-15" = .ok found ∧ found.format = "-0044-03-15" := by
  have hlegal : IsLegalDate (-44) 3 15 := by decide
  have hfits : Fits32 (dayNumber (-44) 3 15) := by decide
  have htext : String.ofList ((if (-44 : Int) < 0 then ['-'] else []) ++
      Text.padded 4 (-44 : Int).natAbs ++ '-' :: Text.padded 2 (3 : Int).toNat ++
      '-' :: Text.padded 2 (15 : Int).toNat) = "-0044-03-15" := by decide +kernel
  have hback := parse_format.2 (-44) 3 15 hlegal hfits
  rw [htext] at hback
  exact ⟨parse_format.1 (ofInt 2147483647), hlegal, hfits, hback⟩

end EpochDay

end CivilTime
