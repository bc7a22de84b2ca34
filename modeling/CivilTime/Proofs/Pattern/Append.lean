import CivilTime.Proofs.Pattern.Compile

/-!
# Patterns written one after another

The text of a pattern may be followed by another text. The scanner leaves the first one outside
quotes, so nothing but the two characters at the seam can tell the second text that it is not the
first: two quotes would be one literal quote, and two equal letters one field.

* `Pattern.Separate`: two texts that do not meet in equal quotes or letters.
* `Pattern.scan_append`, `Pattern.itemsOfTokens_append`: characters and items of both texts.
* `Pattern.getLast?_of_scan`, `Pattern.head?_of_scan`: letters at the ends of a text.
* `Pattern.compile_append`: the pattern of both texts.
-/

namespace CivilTime.Pattern

/-- A result that was changed by a function comes from a result. -/
theorem exists_of_map_eq_ok {α β ε : Type} {f : α → β} {result : Except ε α} {b : β}
    (h : result.map f = .ok b) : ∃ a, result = .ok a ∧ f a = b := by
  cases result with
  | error e => cases h
  | ok a => exact ⟨a, rfl, Except.ok.inj h⟩

/-! ## Scanning both texts -/

section
variable {quoted : Bool} {text rest : List Char} {tokens : List Token} {field : PatternField}

theorem map_cons_map_append (token : Token) (tokens : List Token)
    (result : Except Error (List Token)) :
    (result.map (tokens ++ ·)).map (token :: ·) = result.map ((token :: tokens) ++ ·) := by
  cases result <;> rfl

theorem head?_append_ne {c : Char} (h : text.head? ≠ some c)
    (hrest : text = [] → rest.head? ≠ some c) : (text ++ rest).head? ≠ some c := by
  cases text with
  | nil => exact hrest rfl
  | cons d tail => exact h

/-- A text without a fault ends outside quotes, and what follows it is scanned from there, unless a
    quote follows a quote. -/
theorem scan_append (h : scan quoted text = .ok tokens)
    (hseam : text.getLast? = some '\x27' → rest.head? ≠ some '\x27') :
    scan quoted (text ++ rest) = (scan false rest).map (tokens ++ ·) := by
  have tail {c : Char} {text : List Char}
      (hseam : (c :: text).getLast? = some '\x27' → rest.head? ≠ some '\x27') :
      text.getLast? = some '\x27' → rest.head? ≠ some '\x27' :=
    fun hlast => hseam (List.mem_getLast?_cons hlast)
  fun_induction scan quoted text generalizing tokens with
  | case1 =>
    obtain rfl := Except.ok.inj h
    rw [List.nil_append]
    cases scan false rest <;> rfl
  | case2 => cases h
  | case3 quoted text ih =>
    obtain ⟨tokens, htext, rfl⟩ := exists_of_map_eq_ok h
    rw [List.cons_append, List.cons_append, scan_quote_quote, ih htext (tail (tail hseam)),
      map_cons_map_append]
  | case4 quoted text hne ih =>
    -- the quote is still a single one: none follows it in the text, nor behind its end
    have hhead : (text ++ rest).head? ≠ some '\x27' := by
      apply head?_append_ne
      · intro hquote
        obtain ⟨behind, rfl⟩ := List.head?_eq_some_iff.1 hquote
        exact hne behind rfl
      · rintro rfl
        exact hseam rfl
    rw [List.cons_append, scan_quote quoted hhead, ih h (tail hseam)]
  | case5 c text _ hc ih =>
    obtain ⟨tokens, htext, rfl⟩ := exists_of_map_eq_ok h
    rw [List.cons_append, scan_true_cons hc, ih htext (tail hseam), map_cons_map_append]
  | case6 c text _ hc halpha field hfield ih =>
    obtain ⟨tokens, htext, rfl⟩ := exists_of_map_eq_ok h
    rw [List.cons_append, scan_false_cons hc, if_pos halpha, hfield]
    simp only [ih htext (tail hseam), map_cons_map_append]
  | case7 => cases h
  | case8 c text _ hc halpha ih =>
    obtain ⟨tokens, htext, rfl⟩ := exists_of_map_eq_ok h
    rw [List.cons_append, scan_false_cons hc, if_neg halpha, ih htext (tail hseam),
      map_cons_map_append]

/-! ## Letters at the ends of a text -/

/-- Between quotes a text that is not closed at once begins with a literal character. -/
theorem exists_literal_of_scan (h : scan true text = .ok tokens)
    (hopen : text.head? ≠ some '\x27') : ∃ c tail, tokens = .literal c :: tail := by
  cases text with
  | nil => cases h
  | cons c rest =>
    have hc : c ≠ '\x27' := by
      rintro rfl
      exact hopen rfl
    rw [scan_true_cons hc] at h
    obtain ⟨tail, -, rfl⟩ := exists_of_map_eq_ok h
    exact ⟨c, tail, rfl⟩

/-- Outside quotes a text is empty, or it begins with a literal character or with a letter. -/
theorem scan_cases (h : scan false text = .ok tokens) :
    (text = [] ∧ tokens = []) ∨ (∃ c tail, tokens = .literal c :: tail) ∨
      ∃ c field tail, text.head? = some c ∧ PatternField.ofLetter? c = some field ∧
        tokens = .letter field :: tail := by
  cases text with
  | nil => exact .inl ⟨rfl, (Except.ok.inj h).symm⟩
  | cons c rest =>
    by_cases hc : c = '\x27'
    · subst hc
      by_cases hquote : rest.head? = some '\x27'
      · obtain ⟨rest, rfl⟩ := List.head?_eq_some_iff.1 hquote
        rw [scan_quote_quote] at h
        obtain ⟨tail, -, rfl⟩ := exists_of_map_eq_ok h
        exact .inr (.inl ⟨_, tail, rfl⟩)
      · rw [scan_quote false hquote] at h
        exact .inr (.inl (exists_literal_of_scan h hquote))
    · rw [scan_false_cons hc] at h
      split_ifs at h
      · split at h
        · rename_i field hfield
          obtain ⟨tail, -, rfl⟩ := exists_of_map_eq_ok h
          exact .inr (.inr ⟨c, field, tail, rfl, hfield, rfl⟩)
        · cases h
      · obtain ⟨tail, -, rfl⟩ := exists_of_map_eq_ok h
        exact .inr (.inl ⟨c, tail, rfl⟩)

/-- A letter that is scanned first is the first character. -/
theorem head?_of_scan (h : scan false text = .ok tokens)
    (hfirst : tokens.head? = some (.letter field)) :
    ∃ c, text.head? = some c ∧ PatternField.ofLetter? c = some field := by
  rcases scan_cases h with ⟨-, rfl⟩ | ⟨c, tail, rfl⟩ | ⟨c, found, tail, hc, hfound, rfl⟩
  · cases hfirst
  · cases hfirst
  · obtain rfl := Token.letter.inj (Option.some.inj hfirst)
    exact ⟨c, hc, hfound⟩

theorem eq_nil_of_scan (h : scan false text = .ok []) : text = [] := by
  rcases scan_cases h with ⟨htext, -⟩ | ⟨c, tail, heq⟩ | ⟨c, found, tail, -, -, heq⟩
  · exact htext
  · cases heq
  · cases heq

/-- A letter that is scanned last is the last character. -/
theorem getLast?_of_scan (h : scan quoted text = .ok tokens)
    (hlast : tokens.getLast? = some (.letter field)) :
    ∃ c, text.getLast? = some c ∧ PatternField.ofLetter? c = some field := by
  have push {d : Char} {text : List Char}
      (h : ∃ c, text.getLast? = some c ∧ PatternField.ofLetter? c = some field) :
      ∃ c, (d :: text).getLast? = some c ∧ PatternField.ofLetter? c = some field := by
    obtain ⟨c, hc, hfield⟩ := h
    exact ⟨c, List.mem_getLast?_cons hc, hfield⟩
  have behind {c : Char} {tail : List Token}
      (h : (Token.literal c :: tail).getLast? = some (.letter field)) :
      tail.getLast? = some (.letter field) := by
    cases tail with
    | nil => cases h
    | cons next tail => exact h
  fun_induction scan quoted text generalizing tokens with
  | case1 =>
    obtain rfl := Except.ok.inj h
    cases hlast
  | case2 => cases h
  | case3 quoted rest ih =>
    obtain ⟨tail, hrest, rfl⟩ := exists_of_map_eq_ok h
    exact push (push (ih hrest (behind hlast)))
  | case4 quoted rest _ ih => exact push (ih h hlast)
  | case5 c rest _ hc ih =>
    obtain ⟨tail, hrest, rfl⟩ := exists_of_map_eq_ok h
    exact push (ih hrest (behind hlast))
  | case6 c rest _ hc halpha found hfound ih =>
    obtain ⟨tail, hrest, rfl⟩ := exists_of_map_eq_ok h
    cases tail with
    | nil =>
      -- nothing is scanned behind the letter, so that no character can follow it
      obtain rfl := Token.letter.inj (Option.some.inj hlast)
      obtain rfl := eq_nil_of_scan hrest
      exact ⟨c, rfl, hfound⟩
    | cons next tail => exact push (ih hrest hlast)
  | case7 => cases h
  | case8 c rest _ hc halpha ih =>
    obtain ⟨tail, hrest, rfl⟩ := exists_of_map_eq_ok h
    exact push (ih hrest (behind hlast))

end

section
variable {field : PatternField} {c d : Char}

theorem ofLetter?_inj (hc : PatternField.ofLetter? c = some field)
    (hd : PatternField.ofLetter? d = some field) : c = d := by
  unfold PatternField.ofLetter? at hc hd
  split at hc <;> cases hc <;> split at hd <;> cases hd <;> rfl

theorem isAlpha_of_ofLetter? (h : PatternField.ofLetter? c = some field) : c.isAlpha = true := by
  unfold PatternField.ofLetter? at h
  split at h <;> cases h <;> rfl

end

/-! ## Items of both texts -/

section
variable {items : List PatternItem}

theorem pushToken_ne_nil (token : Token) (items : List PatternItem) :
    pushToken token items ≠ [] := by
  unfold pushToken
  split
  · exact List.cons_ne_nil _ _
  · split_ifs <;> exact List.cons_ne_nil _ _
  · exact List.cons_ne_nil _ _

/-- A character changes the first item at most. -/
theorem pushToken_append (token : Token) (hne : items ≠ []) (more : List PatternItem) :
    pushToken token (items ++ more) = pushToken token items ++ more := by
  obtain ⟨item, rest, rfl⟩ := List.exists_cons_of_ne_nil hne
  cases token with
  | literal c => rfl
  | letter field =>
    cases item with
    | literal c => rfl
    | field next width =>
      simp only [pushToken, List.cons_append]
      split_ifs <;> rfl

/-- A field at the start of the items comes from a letter at the start of the characters. -/
theorem head?_of_itemsOfTokens {tokens : List Token} {field : PatternField} {width : Nat}
    (h : itemsOfTokens tokens = .field field width :: items) :
    tokens.head? = some (.letter field) := by
  cases tokens with
  | nil => cases h
  | cons token tokens =>
    rw [itemsOfTokens, List.foldr_cons] at h
    unfold pushToken at h
    split at h
    · cases h
    · split_ifs at h with hsame
      · cases h
        rw [hsame, List.head?_cons]
      · cases h
        rfl
    · cases h
      rfl

theorem itemsOfTokens_append {before after : List Token}
    (h : ∀ field, before.getLast? = some (.letter field) → after.head? ≠ some (.letter field)) :
    itemsOfTokens (before ++ after) = itemsOfTokens before ++ itemsOfTokens after := by
  induction before with
  | nil => rfl
  | cons token before ih =>
    cases before with
    | nil =>
      show pushToken token (itemsOfTokens after) = pushToken token [] ++ itemsOfTokens after
      cases token with
      | literal c => rfl
      | letter field =>
        cases hitems : itemsOfTokens after with
        | nil => rfl
        | cons item items =>
          cases item with
          | literal c => rfl
          | field next width =>
            have hne : field ≠ next := by
              rintro rfl
              exact h field rfl (head?_of_itemsOfTokens hitems)
            simp only [pushToken, if_neg hne]
            rfl
    | cons next before =>
      have hne : itemsOfTokens (next :: before) ≠ [] := pushToken_ne_nil _ _
      show pushToken token (itemsOfTokens ((next :: before) ++ after)) =
        pushToken token (itemsOfTokens (next :: before)) ++ itemsOfTokens after
      rw [ih h, pushToken_append token hne]

end

/-! ## The pattern of both texts -/

/-- The last character of a text and the first one of the next are not the same quote or letter. -/
def Separate (before after : List Char) : Prop :=
  ∀ c ∈ before.getLast?, after.head? = some c → c ≠ '\x27' ∧ c.isAlpha = false

instance (before after : List Char) : Decidable (Separate before after) :=
  Option.decidableForallMem before.getLast?

theorem ofText_append {before after : List Char} {pattern : Pattern}
    (h : ofText before = .ok pattern) (hseam : Separate before after) :
    ofText (before ++ after) =
      (ofText after).map fun next => ⟨pattern.items ++ next.items⟩ := by
  obtain ⟨tokens, hscan, rfl⟩ := exists_of_map_eq_ok h
  have hquote : before.getLast? = some '\x27' → after.head? ≠ some '\x27' :=
    fun hlast hfirst => (hseam _ hlast hfirst).1 rfl
  rw [ofText, scan_append hscan hquote, ofText]
  cases hafter : scan false after with
  | error e => rfl
  | ok more =>
    have hletter (field : PatternField) (hlast : tokens.getLast? = some (.letter field)) :
        more.head? ≠ some (.letter field) := by
      intro hfirst
      obtain ⟨c, hc, hcfield⟩ := getLast?_of_scan hscan hlast
      obtain ⟨d, hd, hdfield⟩ := head?_of_scan hafter hfirst
      obtain rfl := ofLetter?_inj hcfield hdfield
      have halpha : c.isAlpha = false := (hseam c hc hd).2
      rw [isAlpha_of_ofLetter? hcfield] at halpha
      cases halpha
    simp only [Except.map, itemsOfTokens_append hletter]

/-- Behind the text of a pattern, a text that does not meet it in a quote or letter is a pattern
    exactly if it is one by itself. Its items then follow those of the first text, and otherwise
    its own fault is told. -/
theorem compile_append {before after : String} {pattern : Pattern}
    (h : compile before = .ok pattern) (hseam : Separate before.toList after.toList) :
    ((∃ whole, compile (before ++ after) = .ok whole) ↔ ∃ next, compile after = .ok next) ∧
    (∀ next, compile after = .ok next →
      compile (before ++ after) = .ok ⟨pattern.items ++ next.items⟩) ∧
    ∀ error, compile after = .error error → compile (before ++ after) = .error error := by
  have happend : compile (before ++ after) =
      (compile after).map fun next => ⟨pattern.items ++ next.items⟩ := by
    rw [compile, String.toList_append]
    exact ofText_append h hseam
  rw [happend]
  refine ⟨⟨?_, ?_⟩, ?_, ?_⟩
  · rintro ⟨whole, hwhole⟩
    obtain ⟨next, hnext, -⟩ := exists_of_map_eq_ok hwhole
    exact ⟨next, hnext⟩
  · rintro ⟨next, hnext⟩
    exact ⟨⟨pattern.items ++ next.items⟩, by rw [hnext, Except.map]⟩
  · intro next hnext
    rw [hnext, Except.map]
  · intro error herror
    rw [herror, Except.map]

/-- A quoted letter keeps apart two fields of the same letter, and a quote that is opened behind it
    is not closed. -/
theorem compile_append_quoted :
    compile "ydd\x27d\x27" = .ok ⟨[.field .year 1, .field .day 2, .literal 'd']⟩ ∧
    Separate "ydd\x27d\x27".toList "d\x27\x27M".toList ∧
    compile "ydd\x27d\x27d\x27\x27M" =
      .ok ⟨[.field .year 1, .field .day 2, .literal 'd', .field .day 1, .literal '\x27',
        .field .month 1]⟩ ∧
    Separate "ydd\x27d\x27".toList "d\x27M".toList ∧
    compile "ydd\x27d\x27d\x27M" = .error (.malformed .unterminatedQuote) := by
  have hbefore : compile "ydd\x27d\x27" =
      .ok ⟨[.field .year 1, .field .day 2, .literal 'd']⟩ := by decide
  have hseam : Separate "ydd\x27d\x27".toList "d\x27\x27M".toList := by decide
  have hopen : Separate "ydd\x27d\x27".toList "d\x27M".toList := by decide
  have hnext := (compile_append hbefore hseam).2.1
    ⟨[.field .day 1, .literal '\x27', .field .month 1]⟩ (by decide)
  have hfault := (compile_append hbefore hopen).2.2 (.malformed .unterminatedQuote) (by decide)
  exact ⟨hbefore, hseam, hnext, hopen, hfault⟩

end CivilTime.Pattern
