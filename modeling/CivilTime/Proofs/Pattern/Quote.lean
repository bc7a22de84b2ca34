import CivilTime.Pattern.Reader
import Mathlib.Data.List.Basic

/-!
# Quoted texts

A text between quotes, with its own quotes written twice, is the pattern of that text alone. The
first quotes of a text are scanned before its quoted part begins: with the quote in front they are
literal quotes outside quotes, and the quoted part begins at the first other character.

* `Pattern.escape`, `Pattern.quote`: a text with its quotes written twice, and between quotes.
* `Pattern.scan_true_escape`, `Pattern.scan_false_escape`: how such a text is scanned.
* `Pattern.readItems?_literals`: literals read their own characters.
* `Pattern.compile_quote`: a quoted text is read as the start of 1970, and no other text is read.
-/

namespace CivilTime.Pattern

/-- A text with each of its quotes written twice. -/
def escape (text : List Char) : List Char :=
  text.flatMap fun c => if c = '\x27' then ['\x27', '\x27'] else [c]

/-- The text of a pattern that stands for a text. -/
def quote (text : String) : String :=
  String.ofList ('\x27' :: (escape text.toList ++ ['\x27']))

/-! ## Scanning -/

section
variable {c : Char} {text : List Char}

theorem escape_quote (text : List Char) :
    escape ('\x27' :: text) = '\x27' :: '\x27' :: escape text := by
  rw [escape, List.flatMap_cons, if_pos rfl]
  rfl

theorem escape_cons (h : c ≠ '\x27') (text : List Char) :
    escape (c :: text) = c :: escape text := by
  rw [escape, List.flatMap_cons, if_neg h]
  rfl

/-- Between quotes, characters stand for themselves up to the closing quote. -/
theorem scan_true_escape (text : List Char) :
    scan true (escape text ++ ['\x27']) = .ok (text.map .literal) := by
  induction text with
  | nil => decide
  | cons c text ih =>
    by_cases hc : c = '\x27'
    · subst hc
      rw [escape_quote, List.cons_append, List.cons_append, scan_quote_quote, ih]
      rfl
    · rw [escape_cons hc, List.cons_append, scan_true_cons hc, ih]
      rfl

/-- The quotes that a text begins with are scanned in pairs with the opening quote, which then opens
    in front of the first other character. -/
theorem scan_false_escape (h : ∃ c ∈ text, c ≠ '\x27') :
    scan false ('\x27' :: (escape text ++ ['\x27'])) = .ok (text.map .literal) := by
  induction text with
  | nil =>
    obtain ⟨c, hc, -⟩ := h
    cases hc
  | cons c text ih =>
    by_cases hc : c = '\x27'
    · subst hc
      have htext : ∃ c ∈ text, c ≠ '\x27' := by
        obtain ⟨d, hd, hne⟩ := h
        exact ⟨d, (List.mem_cons.1 hd).resolve_left hne, hne⟩
      rw [escape_quote, List.cons_append, List.cons_append, scan_quote_quote, ih htext]
      rfl
    · have hopen := scan_true_escape (c :: text)
      rw [escape_cons hc, List.cons_append] at hopen ⊢
      rw [scan_quote false]
      · exact hopen
      · rintro ⟨⟩
        exact hc rfl

end

theorem itemsOfTokens_literals (text : List Char) :
    itemsOfTokens (text.map .literal) = text.map .literal := by
  induction text with
  | nil => rfl
  | cons c text ih =>
    show pushToken (.literal c) (itemsOfTokens (text.map .literal)) = _
    rw [ih]
    rfl

/-! ## Reading -/

theorem readItems?_literals {text input rest : List Char} {wall wall' : WallClock} :
    readItems? (text.map .literal) wall input = some (wall', rest) ↔
      wall' = wall ∧ input = text ++ rest := by
  induction text generalizing input with
  | nil =>
    show some (wall, input) = some (wall', rest) ↔ _
    rw [Option.some.injEq, Prod.mk.injEq, List.nil_append, eq_comm]
  | cons c text ih =>
    cases input with
    | nil =>
      refine iff_of_false (fun h => by cases h) fun h => ?_
      cases h.2
    | cons d input =>
      show (if d = c then readItems? (text.map .literal) wall input else none) = _ ↔ _
      split_ifs with hd
      · rw [ih, hd, List.cons_append, List.cons.injEq]
        simp only [true_and]
      · refine iff_of_false (fun h => by cases h) fun h => ?_
        exact hd (List.cons.inj h.2).1

theorem read?_literals {text input : List Char} {zone : Offset} {moment : Timestamp} :
    read? ⟨text.map .literal⟩ input zone = some moment ↔
      input = text ∧ moment = Timestamp.epoch.addMillis (-zone.millis) := by
  have hlegal : WallClock.IsLegal {} := by decide
  have hepoch : WallClock.toTimestamp {} = Timestamp.epoch := by decide
  rw [read?_eq_some_iff, readStart?_eq_some_iff]
  constructor
  · rintro ⟨wall, hitems, -, rfl⟩
    obtain ⟨rfl, rfl⟩ := readItems?_literals.1 hitems
    rw [List.append_nil, hepoch]
    exact ⟨rfl, rfl⟩
  · rintro ⟨rfl, rfl⟩
    refine ⟨{}, readItems?_literals.2 ⟨rfl, ?_⟩, hlegal, by rw [hepoch]⟩
    rw [List.append_nil]

/-- A text that does not consist of quotes can be quoted: the pattern of the quoted text reads this
    text alone, as the start of 1970. -/
theorem compile_quote {text : String} (h : ∃ c ∈ text.toList, c ≠ '\x27') :
    ∃ pattern, compile (quote text) = .ok pattern ∧
      ∀ input zone moment, pattern.parse? input zone = some moment ↔
        input = text ∧ moment = Timestamp.epoch.addMillis (-zone.millis) := by
  refine ⟨⟨text.toList.map .literal⟩, ?_, fun input zone moment => ?_⟩
  · rw [compile, quote, String.toList_ofList, ofText, scan_false_escape h, Except.map,
      itemsOfTokens_literals]
  · rw [parse?, read?_literals, String.toList_inj]

/-- A text that begins and ends with quotes, five and a half hours to the east. -/
theorem compile_quote_quotes :
    (∃ c ∈ "\x27\x27o\x27日\x27".toList, c ≠ '\x27') ∧
    quote "\x27\x27o\x27日\x27" = "\x27\x27\x27\x27\x27o\x27\x27日\x27\x27\x27" ∧
    ∃ pattern, compile "\x27\x27\x27\x27\x27o\x27\x27日\x27\x27\x27" = .ok pattern ∧
      pattern.parse? "\x27\x27o\x27日\x27" ⟨19800, by decide, by decide⟩ =
        some (Timestamp.ofInt (-19800000)) ∧
      pattern.parse? "\x27o\x27日\x27" ⟨19800, by decide, by decide⟩ = none := by
  have hother : ∃ c ∈ "\x27\x27o\x27日\x27".toList, c ≠ '\x27' := ⟨'o', by decide, by decide⟩
  have hquote : quote "\x27\x27o\x27日\x27" =
      "\x27\x27\x27\x27\x27o\x27\x27日\x27\x27\x27" := by decide
  obtain ⟨pattern, hcompile, hparse⟩ := compile_quote hother
  rw [hquote] at hcompile
  refine ⟨hother, hquote, pattern, hcompile, (hparse _ _ _).2 ⟨rfl, by decide⟩, ?_⟩
  rw [Option.eq_none_iff_forall_ne_some]
  intro moment hmoment
  exact absurd ((hparse _ _ _).1 hmoment).1 (by decide)

end CivilTime.Pattern
