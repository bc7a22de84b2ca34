import CivilTime.Text.Cut
import Mathlib.Data.List.Basic

/-!
# Blanks and separators

Blanks at the ends of a text, and the pieces of a text at a word.

* `IsBlanks`: a text of blanks alone.
* `trim_eq_self`: a text without blanks at its ends.
* `trim_append_left`, `trim_append_right`: blanks at the ends make no difference.
* `exists_trim`: a text is its trimmed form between blanks.
* `exists_trim_of_head`, `exists_trim_of_getLast`: a text without blanks at one of its ends.
* `exists_trim_append_space`: two texts with a space between them.
* `eq_append_of_cutAtWord?`: a word stands where the text is cut at it.
* `cutAtWord?_pass`: a character at which the word does not begin is passed over.
* `cutAtWord?_eq_none`: a text that does not hold the word is not cut.
-/

namespace CivilTime.Text

/-! ## Blanks -/

/-- A text of blanks alone. -/
def IsBlanks (text : List Char) : Prop := ∀ c ∈ text, isBlank c = true

/-- From the exclamation mark up to the next control character there are no blanks. -/
theorem isBlank_of_bounds {c : Char} (h : 33 ≤ c.toNat ∧ c.toNat ≤ 132) : isBlank c = false := by
  simp only [isBlank, blankRanges, List.any_cons, List.any_nil, Bool.or_false, Bool.or_eq_false_iff,
    Bool.and_eq_false_iff, decide_eq_false_iff_not]
  omega

theorem isBlank_of_isAlpha {c : Char} (h : c.isAlpha = true) : isBlank c = false := by
  apply isBlank_of_bounds
  have hcode : (65 ≤ c.toNat ∧ c.toNat ≤ 90) ∨ (97 ≤ c.toNat ∧ c.toNat ≤ 122) := by
    obtain hupper | hlower := Bool.or_eq_true_iff.1 h
    · exact .inl (of_decide_eq_true hupper)
    · exact .inr ((Bool.and_eq_true_iff.1 hlower).imp of_decide_eq_true of_decide_eq_true)
  omega

theorem dropWhile_isBlank_eq_self {text : List Char} (h : ∀ c ∈ text.head?, isBlank c = false) :
    text.dropWhile isBlank = text := by
  cases text with
  | nil => rfl
  | cons c rest => rw [List.dropWhile_cons, h c rfl, if_neg Bool.false_ne_true]

theorem trim_eq_self {text : List Char} (hfirst : ∀ c ∈ text.head?, isBlank c = false)
    (hlast : ∀ c ∈ text.getLast?, isBlank c = false) : trim text = text := by
  rw [trim, trimStart, dropWhile_isBlank_eq_self hfirst, trimEnd, dropWhile_isBlank_eq_self,
    List.reverse_reverse]
  rwa [List.head?_reverse]

/-! ## More blanks -/

section
variable {blanks : List Char}

theorem isBlanks_nil : IsBlanks [] := fun _ hc => absurd hc List.not_mem_nil

theorem IsBlanks.not_mem (h : IsBlanks blanks) {c : Char} (hc : isBlank c = false) :
    c ∉ blanks := by
  intro hmem
  rw [h c hmem] at hc
  cases hc

theorem IsBlanks.isAlpha_eq_false (h : IsBlanks blanks) : ∀ c ∈ blanks, c.isAlpha = false := by
  intro c hc
  rw [← Bool.not_eq_true]
  intro halpha
  have hblank := isBlank_of_isAlpha halpha
  rw [h c hc] at hblank
  cases hblank

theorem trimStart_append (h : IsBlanks blanks) (text : List Char) :
    trimStart (blanks ++ text) = trimStart text := List.dropWhile_append_of_pos h

theorem trimEnd_append (h : IsBlanks blanks) (text : List Char) :
    trimEnd (text ++ blanks) = trimEnd text := by
  have hreverse : ∀ c ∈ blanks.reverse, isBlank c = true := fun c hc => h c (List.mem_reverse.1 hc)
  rw [trimEnd, List.reverse_append, List.dropWhile_append_of_pos hreverse, trimEnd]

theorem trim_append_left (h : IsBlanks blanks) (text : List Char) :
    trim (blanks ++ text) = trim text := by
  rw [trim, trimStart_append h, trim]

/-- Blanks behind a text stay, unless there is nothing but blanks. -/
theorem trimStart_append_right (h : IsBlanks blanks) (text : List Char) :
    (trimStart text = [] ∧ trimStart (text ++ blanks) = []) ∨
      (trimStart text ≠ [] ∧ trimStart (text ++ blanks) = trimStart text ++ blanks) := by
  have happend : trimStart (text ++ blanks) =
      if (trimStart text).isEmpty then trimStart blanks else trimStart text ++ blanks :=
    List.dropWhile_append
  rw [happend]
  split_ifs with hempty
  · have hblanks := trimStart_append h []
    rw [List.append_nil] at hblanks
    exact .inl ⟨List.isEmpty_iff.1 hempty, hblanks⟩
  · exact .inr ⟨mt List.isEmpty_iff.2 hempty, rfl⟩

theorem trim_append_right (h : IsBlanks blanks) (text : List Char) :
    trim (text ++ blanks) = trim text := by
  rcases trimStart_append_right h text with ⟨hnil, hblank⟩ | ⟨-, hblank⟩
  · rw [trim, trim, hblank, hnil]
  · rw [trim, trim, hblank, trimEnd_append h]

end

/-! ## What trimming leaves -/

section
variable (text : List Char)

theorem exists_trimEnd : ∃ after, text = trimEnd text ++ after ∧ IsBlanks after := by
  refine ⟨(text.reverse.takeWhile isBlank).reverse, ?_, ?_⟩
  · rw [trimEnd, ← List.reverse_append, List.takeWhile_append_dropWhile, List.reverse_reverse]
  · intro c hc
    exact List.all_eq_true.1 List.all_takeWhile c (List.mem_reverse.1 hc)

/-- A text is its trimmed form between blanks. -/
theorem exists_trim : ∃ before after, text = before ++ (trim text ++ after) ∧ IsBlanks before ∧
    IsBlanks after := by
  obtain ⟨after, hafter, hblanks⟩ := exists_trimEnd (trimStart text)
  refine ⟨text.takeWhile isBlank, after, ?_, ?_, hblanks⟩
  · rw [trim, ← hafter, trimStart, List.takeWhile_append_dropWhile]
  · exact fun c hc => List.all_eq_true.1 List.all_takeWhile c hc

theorem not_mem_trim {c : Char} (h : c ∉ text) : c ∉ trim text := by
  obtain ⟨before, after, htext, -, -⟩ := exists_trim text
  rw [htext, List.mem_append, List.mem_append, not_or, not_or] at h
  exact h.2.1

theorem isBlank_head_trimStart : ∀ c ∈ (trimStart text).head?, isBlank c = false := by
  intro c hc
  have hhead := List.head?_dropWhile_not isBlank text
  rw [trimStart] at hc
  rw [hc] at hhead
  exact hhead

theorem isBlank_getLast_trim : ∀ c ∈ (trim text).getLast?, isBlank c = false := by
  rw [trim, trimEnd, List.getLast?_reverse]
  exact isBlank_head_trimStart (trimStart text).reverse

theorem isBlank_head_trim : ∀ c ∈ (trim text).head?, isBlank c = false := by
  intro c hc
  obtain ⟨after, hafter, -⟩ := exists_trimEnd (trimStart text)
  apply isBlank_head_trimStart text
  rw [hafter]
  exact List.mem_head?_append_of_mem_head? hc

theorem trim_trim : trim (trim text) = trim text :=
  trim_eq_self (isBlank_head_trim text) (isBlank_getLast_trim text)

end

/-- A text that does not begin with a blank has blanks behind its trimmed form alone. -/
theorem exists_trim_of_head {text : List Char} (h : ∀ c ∈ text.head?, isBlank c = false) :
    ∃ after, text = trim text ++ after ∧ IsBlanks after := by
  have hstart : trimStart text = text := dropWhile_isBlank_eq_self h
  rw [trim, hstart]
  exact exists_trimEnd text

/-- A text that does not end with a blank has blanks before its trimmed form alone. -/
theorem exists_trim_of_getLast {text : List Char} (h : ∀ c ∈ text.getLast?, isBlank c = false) :
    ∃ before, text = before ++ trim text ∧ IsBlanks before := by
  obtain ⟨before, after, htext, hbefore, hafter⟩ := exists_trim text
  have hnil : after = [] := by
    rw [← List.getLast?_eq_none_iff, Option.eq_none_iff_forall_not_mem]
    intro c hc
    have hlast : c ∈ text.getLast? := by
      rw [htext, ← List.append_assoc]
      exact List.mem_getLast?_append_of_mem_getLast? hc
    exact absurd (hafter c (List.mem_of_getLast? hc)) (by rw [h c hlast]; decide)
  rw [hnil, List.append_nil] at htext
  exact ⟨before, htext, hbefore⟩

/-- If two texts that are not blank are joined by a space, the first space behind the first one
    stands between them, among blanks. -/
theorem exists_trim_append_space {a b : List Char} (ha : trim a ≠ []) (hb : trim b ≠ []) :
    ∃ left right, trim (a ++ ' ' :: b) = trim a ++ left ++ ' ' :: (right ++ trim b) ∧
      ' ' ∉ left ∧ IsBlanks left ∧ IsBlanks right := by
  obtain ⟨before, behind, htextA, hbefore, hbehind⟩ := exists_trim a
  obtain ⟨front, after, htextB, hfront, hafter⟩ := exists_trim b
  obtain ⟨left, right, hgap, hleft⟩ : ∃ left right,
      behind ++ ' ' :: front = left ++ ' ' :: right ∧ ' ' ∉ left :=
    List.eq_append_cons_of_mem (List.mem_append_right behind List.mem_cons_self)
  have hblanks : IsBlanks (left ++ ' ' :: right) := by
    rw [← hgap]
    exact List.forall_mem_append.2 ⟨hbehind, List.forall_mem_cons.2 ⟨rfl, hfront⟩⟩
  obtain ⟨hleftBlanks, hrest⟩ := List.forall_mem_append.1 hblanks
  have htext : a ++ ' ' :: b =
      before ++ (trim a ++ left ++ ' ' :: (right ++ trim b) ++ after) := by
    calc a ++ ' ' :: b
        = before ++ (trim a ++ behind) ++ ' ' :: (front ++ (trim b ++ after)) := by
          rw [← htextA, ← htextB]
      _ = before ++ (trim a ++ (behind ++ ' ' :: front) ++ (trim b ++ after)) := by
          simp only [List.append_assoc, List.cons_append]
      _ = before ++ (trim a ++ left ++ ' ' :: (right ++ trim b) ++ after) := by
          rw [hgap]
          simp only [List.append_assoc, List.cons_append]
  refine ⟨left, right, ?_, hleft, hleftBlanks, (List.forall_mem_cons.1 hrest).2⟩
  rw [htext, trim_append_left hbefore, trim_append_right hafter]
  apply trim_eq_self
  · rw [List.append_assoc, List.head?_append_of_ne_nil _ ha]
    exact isBlank_head_trim a
  · rw [List.append_cons, ← List.append_assoc, List.getLast?_append_of_ne_nil _ hb]
    exact isBlank_getLast_trim b

/-! ## Words -/

section
variable {word text : List Char}

theorem cutAtWord?_append_self (h : word ≠ []) (text : List Char) :
    cutAtWord? word (word ++ text) = some ([], text) := by
  have hword : word.isPrefixOf? (word ++ text) = some text :=
    List.isPrefixOf?_eq_some_iff_append_eq.2 rfl
  obtain ⟨c, rest, rfl⟩ := List.exists_cons_of_ne_nil h
  rw [List.cons_append] at hword ⊢
  rw [cutAtWord?, hword]

/-- A character at which the word does not begin is passed over. -/
theorem cutAtWord?_pass {c : Char} (h : ¬ word <+: c :: text) :
    cutAtWord? word (c :: text) =
      (cutAtWord? word text).map fun (before, after) => (c :: before, after) := by
  have hword : word.isPrefixOf? (c :: text) = none := by
    rw [Option.eq_none_iff_forall_ne_some]
    intro after hafter
    exact h ⟨after, List.isPrefixOf?_eq_some_iff_append_eq.1 hafter⟩
  rw [cutAtWord?, hword]

/-- The word stands where the text is cut. -/
theorem eq_append_of_cutAtWord? {before after : List Char}
    (h : cutAtWord? word text = some (before, after)) : text = before ++ (word ++ after) := by
  induction text generalizing before with
  | nil => cases h
  | cons c text ih =>
    by_cases hword : word <+: c :: text
    · obtain ⟨rest, hrest⟩ := hword
      rw [cutAtWord?, List.isPrefixOf?_eq_some_iff_append_eq.2 hrest] at h
      obtain ⟨rfl, rfl⟩ := Prod.mk.inj (Option.some.inj h)
      exact hrest.symm
    · rw [cutAtWord?_pass hword] at h
      obtain ⟨⟨before, rest⟩, hcut, hpair⟩ := Option.map_eq_some_iff.1 h
      obtain ⟨rfl, rfl⟩ := Prod.mk.inj hpair
      rw [ih hcut, List.cons_append]

/-- A text that does not hold the word is not cut. -/
theorem cutAtWord?_eq_none (h : ¬ word <:+: text) : cutAtWord? word text = none := by
  rw [Option.eq_none_iff_forall_ne_some]
  rintro ⟨before, after⟩ hcut
  refine h ⟨before, after, ?_⟩
  rw [eq_append_of_cutAtWord? hcut, List.append_assoc]

end

end CivilTime.Text
