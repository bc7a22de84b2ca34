/-!
# Positions in a text

A text is a list of characters. Positions count the bytes of its UTF-8 form, so a position may
fall inside a character.

* `byteLength_append`: lengths add up.
* `dropBytes_eq_some_iff`: what is left from a position on, which exists exactly where a character
  begins or the text ends.
-/

namespace CivilTime.Text

/-- The number of bytes of a text in UTF-8. -/
def byteLength : List Char → Nat
  | [] => 0
  | c :: rest => c.utf8Size + byteLength rest

@[simp]
theorem byteLength_nil : byteLength [] = 0 := rfl

@[simp]
theorem byteLength_cons (c : Char) (rest : List Char) :
    byteLength (c :: rest) = c.utf8Size + byteLength rest := rfl

@[simp]
theorem byteLength_append (s t : List Char) :
    byteLength (s ++ t) = byteLength s + byteLength t := by
  induction s with
  | nil => simp
  | cons c rest ih => simp [ih, Nat.add_assoc]

/-- What is left of a text from a byte position on, if no character lies across it. -/
def dropBytes : Nat → List Char → Option (List Char)
  | 0, text => some text
  | _ + 1, [] => none
  | n + 1, c :: rest => if c.utf8Size ≤ n + 1 then dropBytes (n + 1 - c.utf8Size) rest else none

/-- A position can be cut at exactly where some leading characters end. -/
theorem dropBytes_eq_some_iff {n : Nat} {text rest : List Char} :
    dropBytes n text = some rest ↔ ∃ used, text = used ++ rest ∧ byteLength used = n := by
  induction text generalizing n with
  | nil =>
    cases n with
    | zero =>
      simp only [dropBytes, Option.some.injEq]
      constructor
      · rintro rfl
        exact ⟨[], rfl, rfl⟩
      · rintro ⟨used, h, -⟩
        exact (List.append_eq_nil_iff.1 h.symm).2.symm
    | succ n =>
      simp only [dropBytes, reduceCtorEq, false_iff]
      rintro ⟨used, h, hn⟩
      obtain ⟨rfl, -⟩ := List.append_eq_nil_iff.1 h.symm
      simp at hn
  | cons c tail ih =>
    have hc : 0 < c.utf8Size := c.utf8Size_pos
    cases n with
    | zero =>
      simp only [dropBytes, Option.some.injEq]
      constructor
      · rintro rfl
        exact ⟨[], rfl, rfl⟩
      · rintro ⟨used, h, hn⟩
        cases used with
        | nil => simpa using h
        | cons d used => simp at hn; have := d.utf8Size_pos; omega
    | succ n =>
      rw [dropBytes]
      split
      · rename_i hle
        rw [ih]
        constructor
        · rintro ⟨used, rfl, hn⟩
          exact ⟨c :: used, rfl, by simp; omega⟩
        · rintro ⟨used, h, hn⟩
          cases used with
          | nil => simp at hn
          | cons d used =>
            simp only [List.cons_append, List.cons.injEq] at h
            obtain ⟨rfl, rfl⟩ := h
            exact ⟨used, rfl, by simp at hn; omega⟩
      · rename_i hle
        simp only [reduceCtorEq, false_iff]
        rintro ⟨used, h, hn⟩
        cases used with
        | nil => simp at hn
        | cons d used =>
          simp only [List.cons_append, List.cons.injEq] at h
          obtain ⟨rfl, rfl⟩ := h
          simp at hn
          omega

end CivilTime.Text
