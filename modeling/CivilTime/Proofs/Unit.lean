import CivilTime.Proofs.Offset
import CivilTime.Proofs.Text.Cut
import CivilTime.Unit

/-!
# The names of units

The words that name a unit, said without reading them.

* `TimeUnit.IsWord`, `TimeUnit.isWord_iff`: the words for the units.
* `TimeUnit.IsName`: the word for a unit in any letter case, in the singular or the plural.
* `TimeUnit.ofWord?_eq_some_iff`: exactly these words are read.
* `TimeUnit.IsName.isAlpha`, `TimeUnit.IsName.trim_eq`: they are made of letters, without blanks.
-/

namespace CivilTime.TimeUnit

open Offset (InAnyCase)

/-- The word for a unit. -/
inductive IsWord : TimeUnit → List Char → Prop
  | year : IsWord .year "year".toList
  | month : IsWord .month "month".toList
  | day : IsWord .day "day".toList
  | hour : IsWord .hour "hour".toList
  | minute : IsWord .minute "minute".toList
  | second : IsWord .second "second".toList
  | millisecond : IsWord .millisecond "millisecond".toList

/-- The text is the word for a unit in any letter case, and may have an `s` of either case behind
    it. -/
inductive IsName (unit : TimeUnit) : List Char → Prop
  | singular {text word : List Char} (hword : IsWord unit word) (h : InAnyCase text word) :
      IsName unit text
  | plural {text word : List Char} {c : Char} (hword : IsWord unit word) (h : InAnyCase text word)
      (hc : c = 's' ∨ c = 'S') : IsName unit (text ++ [c])

variable {unit : TimeUnit} {text : List Char}

/-! ## Words -/

theorem isWord_iff {word : List Char} : IsWord unit word ↔ word = unit.word := by
  constructor
  · rintro ⟨⟩ <;> rfl
  · rintro rfl
    cases unit <;> constructor

theorem map_toLower_word (unit : TimeUnit) : unit.word.map Char.toLower = unit.word := by
  cases unit <;> decide

theorem inAnyCase_word_iff : InAnyCase text unit.word ↔ text.map Char.toLower = unit.word := by
  rw [InAnyCase, map_toLower_word]

/-- No word ends with an `s` of its own. -/
theorem getLast?_ne_of_inAnyCase (h : InAnyCase text unit.word) :
    ¬ (text.getLast? = some 's' ∨ text.getLast? = some 'S') := by
  have hword : unit.word.getLast? ≠ some 's' := by cases unit <;> decide
  rw [inAnyCase_word_iff] at h
  rw [← h, List.getLast?_map] at hword
  rintro (hlast | hlast) <;> rw [hlast] at hword <;> exact hword rfl

theorem isAlpha_of_mem_word {c : Char} (h : c ∈ unit.word) : c.isAlpha = true := by
  have hword : unit.word.all Char.isAlpha = true := by cases unit <;> rfl
  exact List.all_eq_true.1 hword c h

/-! ## Reading names -/

theorem singular_eq (h : InAnyCase text unit.word) : singular text = text :=
  if_neg (getLast?_ne_of_inAnyCase h)

theorem singular_append {c : Char} (hc : c = 's' ∨ c = 'S') (text : List Char) :
    singular (text ++ [c]) = text := by
  rw [singular, List.getLast?_concat, List.dropLast_concat, if_pos]
  rcases hc with rfl | rfl
  · exact .inl rfl
  · exact .inr rfl

/-- The singular of a text and the one letter that may be missing from it. -/
theorem singular_cases (text : List Char) : text = singular text ∨
    ∃ c, (c = 's' ∨ c = 'S') ∧ text = singular text ++ [c] := by
  unfold singular
  split_ifs with hplural
  · rcases hplural with hlast | hlast
    · exact .inr ⟨'s', .inl rfl, (List.dropLast_append_getLast? _ hlast).symm⟩
    · exact .inr ⟨'S', .inr rfl, (List.dropLast_append_getLast? _ hlast).symm⟩
  · exact .inl rfl

theorem isName_iff : IsName unit text ↔ InAnyCase (singular text) unit.word := by
  constructor
  · rintro (⟨hword, h⟩ | ⟨hword, h, hc⟩)
    · obtain rfl := isWord_iff.1 hword
      rwa [singular_eq h]
    · obtain rfl := isWord_iff.1 hword
      rwa [singular_append hc]
  · intro h
    have hword : IsWord unit unit.word := isWord_iff.2 rfl
    rcases singular_cases text with htext | ⟨c, hc, htext⟩
    · rw [htext]
      exact .singular hword h
    · rw [htext]
      exact .plural hword h hc

/-- A word is read as a unit exactly if it names it. -/
theorem ofWord?_eq_some_iff : ofWord? text = some unit ↔ IsName unit text := by
  rw [isName_iff, inAnyCase_word_iff, ofWord?]
  constructor
  · intro h
    have hword := List.find?_some h
    exact (of_decide_eq_true hword).symm
  · intro h
    rw [h]
    cases unit <;> decide

/-! ## Letters -/

/-- Only a letter becomes one when it is made small. -/
theorem isAlpha_of_isAlpha_toLower {c : Char} (h : c.toLower.isAlpha = true) :
    c.isAlpha = true := by
  unfold Char.toLower at h
  split at h
  · rename_i hcapital
    have hupper : c.isUpper = true := decide_eq_true hcapital
    exact Bool.or_eq_true_iff.2 (.inl hupper)
  · exact h

/-- A name is made of letters. -/
theorem IsName.isAlpha (h : IsName unit text) : ∀ c ∈ text, c.isAlpha = true := by
  have hletters {text word : List Char} (hword : IsWord unit word) (h : InAnyCase text word) :
      ∀ c ∈ text, c.isAlpha = true := by
    intro c hc
    obtain rfl := isWord_iff.1 hword
    have hsmall : c.toLower ∈ unit.word := by
      rw [← inAnyCase_word_iff.1 h]
      exact List.mem_map_of_mem hc
    exact isAlpha_of_isAlpha_toLower (isAlpha_of_mem_word hsmall)
  cases h with
  | singular hword h => exact hletters hword h
  | plural hword h hc =>
    rw [List.forall_mem_append, List.forall_mem_singleton]
    refine ⟨hletters hword h, ?_⟩
    rcases hc with rfl | rfl <;> rfl

/-- It has no blanks that could be trimmed. -/
theorem IsName.trim_eq (h : IsName unit text) : Text.trim text = text :=
  Text.trim_eq_self
    (fun c hc => Text.isBlank_of_isAlpha (h.isAlpha c (List.mem_of_mem_head? hc)))
    (fun c hc => Text.isBlank_of_isAlpha (h.isAlpha c (List.mem_of_getLast? hc)))

end CivilTime.TimeUnit
