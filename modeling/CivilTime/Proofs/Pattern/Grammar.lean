import CivilTime.Proofs.Pattern.Number
import CivilTime.Proofs.WallClock

/-!
# The texts of a pattern

The texts that a pattern reads, said without reading them: a text is cut into pieces, one for each
item, and the fields take the values of their pieces from left to right.

A wall clock at the offset that a text was read with shows the fields that were read, unless the
number of their day does not fit in 32 bits. Years may have so many digits that it does not, and the
moment is then that of another day.

* `Pattern.IsFieldText`: the pieces of a field, given what stands behind them.
* `Pattern.Splits`: the pieces of a text, one for each item, and what follows them.
* `Pattern.Splits.unique`: a text has one way to be cut, whatever follows.
* `Pattern.readItems?_sound`, `Pattern.readItems?_complete`: reading finds the pieces, if there are
  any.
* `Pattern.parseStart?_eq_some_iff`: which texts a compiled pattern reads, and as which moments.
* `Pattern.ofTimestamp_parseStart?_iff`: when a wall clock shows the fields that were read.
* `Pattern.parseStart?_wrapsAround`: a year of seven digits that is read as another one.
-/

namespace CivilTime

/-- A field has at least one letter. -/
def PatternItem.HasLetter : PatternItem → Prop
  | .field _ width => 0 < width
  | .literal _ => True

namespace Pattern

/-! ## Pieces -/

/-- The piece of a field consists of digits whose number fits in 32 bits. In front of another field
    it is as long as its width; elsewhere it has one to nine digits and ends at the ninth or where
    the digits end. `rest` is the text behind it. -/
def IsFieldText (width : Nat) (items : List PatternItem) (piece rest : List Char) : Prop :=
  (∀ c ∈ piece, c.isDigit = true) ∧ Fits32 (Text.value piece) ∧
    match items with
    | .field _ _ :: _ => piece.length = width
    | _ => 1 ≤ piece.length ∧ piece.length ≤ maxFieldDigits ∧
        (piece.length = maxFieldDigits ∨ NoDigitFirst rest)

/-- A text is cut into pieces, one for each item, and what follows them. -/
inductive Splits : List PatternItem → List Char → List (List Char) → List Char → Prop
  /-- No item has no piece. -/
  | nil (rest : List Char) : Splits [] rest [] rest
  /-- The piece of a literal is its character. -/
  | literal (c : Char) {items : List PatternItem} {text rest : List Char}
      {pieces : List (List Char)} (tail : Splits items text pieces rest) :
      Splits (.literal c :: items) (c :: text) ([c] :: pieces) rest
  /-- The piece of a field stands in front of the pieces of the other items. -/
  | field (field : PatternField) {width : Nat} {items : List PatternItem}
      {piece text rest : List Char} {pieces : List (List Char)}
      (head : IsFieldText width items piece text) (tail : Splits items text pieces rest) :
      Splits (.field field width :: items) (piece ++ text) (piece :: pieces) rest

/-- A wall clock after the pieces of some items. A field is set to the number of its piece, and a
    later one overrides an earlier one. -/
def assign (wall : WallClock) (items : List PatternItem) (pieces : List (List Char)) : WallClock :=
  (items.zip pieces).foldl
    (fun wall (item, piece) =>
      match item with
      | .field field _ => wall.set field (Text.value piece)
      | .literal _ => wall)
    wall

theorem assign_literal (wall : WallClock) (c : Char) (items : List PatternItem)
    (piece : List Char) (pieces : List (List Char)) :
    assign wall (.literal c :: items) (piece :: pieces) = assign wall items pieces := rfl

theorem assign_field (wall : WallClock) (field : PatternField) (width : Nat)
    (items : List PatternItem) (piece : List Char) (pieces : List (List Char)) :
    assign wall (.field field width :: items) (piece :: pieces) =
      assign (wall.set field (Text.value piece)) items pieces := rfl

section
variable {width : Nat} {items : List PatternItem} {piece text rest : List Char}
  {pieces : List (List Char)}

theorem IsFieldText.ne_nil (h : IsFieldText width items piece rest) (hwidth : 0 < width) :
    piece ≠ [] := by
  obtain ⟨-, -, hlength⟩ := h
  apply List.ne_nil_of_length_pos
  split at hlength
  · omega
  · exact hlength.1

/-- The digits that are taken from a text are those of the piece it begins with. -/
theorem IsFieldText.fieldDigits_eq (h : IsFieldText width items piece rest) :
    fieldDigits (exactWidth? width items) (piece ++ rest) = piece := by
  obtain ⟨hdigits, -, hlength⟩ := h
  have greedy (h9 : 1 ≤ piece.length ∧ piece.length ≤ maxFieldDigits ∧
      (piece.length = maxFieldDigits ∨ NoDigitFirst rest)) :
      fieldDigits none (piece ++ rest) = piece := by
    obtain ⟨-, hle, hend⟩ := h9
    refine fieldDigits_greedy hdigits hle fun hlt => ?_
    exact hend.resolve_left (Nat.ne_of_lt hlt)
  cases items with
  | nil => exact greedy hlength
  | cons item items =>
    cases item with
    | field next nextWidth => exact fieldDigits_exact hlength hdigits
    | literal c => exact greedy hlength

theorem IsFieldText.unique {piece' rest' : List Char} (h : IsFieldText width items piece rest)
    (h' : IsFieldText width items piece' rest') (htext : piece ++ rest = piece' ++ rest') :
    piece = piece' ∧ rest = rest' := by
  have hpiece : piece = piece' := by
    rw [← h.fieldDigits_eq, htext, h'.fieldDigits_eq]
  subst hpiece
  exact ⟨rfl, List.append_cancel_left htext⟩

/-- The pieces and what follows them are the text. -/
theorem Splits.eq_append (h : Splits items text pieces rest) : text = pieces.flatten ++ rest := by
  induction h with
  | nil rest => rfl
  | literal c _ ih => rw [ih, List.flatten_cons, List.append_assoc, List.singleton_append]
  | field field _ _ ih => rw [List.flatten_cons, List.append_assoc, ← ih]

/-- A text is cut in one way only. -/
theorem Splits.unique {pieces' : List (List Char)} {rest' : List Char}
    (h : Splits items text pieces rest) (h' : Splits items text pieces' rest') :
    pieces = pieces' ∧ rest = rest' := by
  induction h generalizing pieces' rest' with
  | nil rest =>
    cases h'
    exact ⟨rfl, rfl⟩
  | literal c _ ih =>
    cases h' with
    | literal _ tail =>
      obtain ⟨rfl, rfl⟩ := ih tail
      exact ⟨rfl, rfl⟩
  | @field field width items piece text rest pieces head _ ih =>
    generalize htext : piece ++ text = whole at h'
    cases h' with
    | field _ head' tail =>
      obtain ⟨rfl, rfl⟩ := head.unique head' htext
      obtain ⟨rfl, rfl⟩ := ih tail
      exact ⟨rfl, rfl⟩

end

/-! ## Reading the pieces -/

section
variable {width : Nat} {items : List PatternItem} {text rest : List Char}

theorem isDigit_of_mem_fieldDigits {exactWidth : Option Nat} {c : Char}
    (h : c ∈ fieldDigits exactWidth text) : c.isDigit = true := by
  cases exactWidth with
  | none => exact List.all_eq_true.1 List.all_takeWhile c h
  | some width =>
    simp only [fieldDigits] at h
    split_ifs at h with hdigits
    · exact List.all_eq_true.1 hdigits.2 c h
    · cases h

theorem isFieldText_fieldDigits (hne : fieldDigits (exactWidth? width items) text ≠ [])
    (hfits : Fits32 (Text.value (fieldDigits (exactWidth? width items) text))) :
    IsFieldText width items (fieldDigits (exactWidth? width items) text)
      (text.drop (fieldDigits (exactWidth? width items) text).length) := by
  refine ⟨fun c hc => isDigit_of_mem_fieldDigits hc, hfits, ?_⟩
  have greedy (hnone : fieldDigits none text ≠ []) :
      1 ≤ (fieldDigits none text).length ∧ (fieldDigits none text).length ≤ maxFieldDigits ∧
        ((fieldDigits none text).length = maxFieldDigits ∨
          NoDigitFirst (text.drop (fieldDigits none text).length)) := by
    refine ⟨List.length_pos_iff.2 hnone, ?_, takeWhile_take_maximal maxFieldDigits text⟩
    exact Nat.le_trans (List.takeWhile_prefix Char.isDigit).length_le (List.length_take_le _ _)
  cases items with
  | nil => exact greedy hne
  | cons item items =>
    cases item with
    | field next nextWidth =>
      simp only [exactWidth?, fieldDigits] at hne ⊢
      split_ifs at hne ⊢ with hdigits
      · exact hdigits.1
      · exact absurd rfl hne
    | literal c => exact greedy hne

theorem readNumber?_sound {n : Int}
    (h : readNumber? (exactWidth? width items) text = some (n, rest)) :
    ∃ piece, text = piece ++ rest ∧ IsFieldText width items piece rest ∧ n = Text.value piece := by
  have happend := fieldDigits_append_drop (exactWidth? width items) text
  simp only [readNumber?] at h
  split_ifs at h with hempty hfits
  obtain ⟨rfl, rfl⟩ := Prod.mk.inj (Option.some.inj h)
  have hne : fieldDigits (exactWidth? width items) text ≠ [] := by simpa using hempty
  exact ⟨_, happend.symm, isFieldText_fieldDigits hne hfits, rfl⟩

theorem readNumber?_complete (hwidth : 0 < width) {piece : List Char}
    (h : IsFieldText width items piece rest) :
    readNumber? (exactWidth? width items) (piece ++ rest) =
      some ((Text.value piece : Int), rest) :=
  readNumber?_of_fieldDigits h.fieldDigits_eq (h.ne_nil hwidth) h.2.1

theorem readItems?_sound {wall wall' : WallClock}
    (h : readItems? items wall text = some (wall', rest)) :
    ∃ pieces, Splits items text pieces rest ∧ wall' = assign wall items pieces := by
  induction items generalizing wall text with
  | nil =>
    obtain ⟨rfl, rfl⟩ := Prod.mk.inj (Option.some.inj h)
    exact ⟨[], .nil text, rfl⟩
  | cons item items ih =>
    cases item with
    | literal c =>
      cases text with
      | nil => cases h
      | cons d text =>
        simp only [readItems?] at h
        split_ifs at h with hd
        obtain ⟨pieces, hsplit, hwall⟩ := ih h
        exact ⟨[c] :: pieces, hd ▸ hsplit.literal c, hwall⟩
    | field field width =>
      simp only [readItems?] at h
      split at h
      · rename_i n tail hn
        obtain ⟨piece, rfl, hpiece, rfl⟩ := readNumber?_sound hn
        obtain ⟨pieces, hsplit, hwall⟩ := ih h
        exact ⟨piece :: pieces, hsplit.field field hpiece, hwall⟩
      · cases h

theorem readItems?_complete {pieces : List (List Char)} (wall : WallClock)
    (hitems : ∀ item ∈ items, item.HasLetter) (h : Splits items text pieces rest) :
    readItems? items wall text = some (assign wall items pieces, rest) := by
  induction h generalizing wall with
  | nil rest => rfl
  | literal c _ ih =>
    rw [readItems?, if_pos rfl, assign_literal]
    exact ih wall fun item hitem => hitems item (List.mem_cons_of_mem _ hitem)
  | field field head _ ih =>
    rw [readItems?, readNumber?_complete (hitems _ List.mem_cons_self) head, assign_field]
    exact ih _ fun item hitem => hitems item (List.mem_cons_of_mem _ hitem)

end

/-! ## Compiled patterns -/

theorem hasLetter_pushToken {token : Token} {items : List PatternItem}
    (h : ∀ item ∈ items, item.HasLetter) : ∀ item ∈ pushToken token items, item.HasLetter := by
  have cons {first : PatternItem} {rest : List PatternItem} (hfirst : first.HasLetter)
      (hrest : ∀ item ∈ rest, item.HasLetter) : ∀ item ∈ first :: rest, item.HasLetter := by
    rintro item (_ | ⟨_, hitem⟩)
    · exact hfirst
    · exact hrest item hitem
  unfold pushToken
  split
  · exact cons trivial h
  · split_ifs
    · exact cons (Nat.succ_pos _) fun item hitem => h item (List.mem_cons_of_mem _ hitem)
    · exact cons Nat.one_pos h
  · exact cons Nat.one_pos h

/-- A run of letters becomes a field, so that no field is without a letter. -/
theorem hasLetter_of_compile {source : String} {pattern : Pattern}
    (h : compile source = .ok pattern) : ∀ item ∈ pattern.items, item.HasLetter := by
  have hitems (tokens : List Token) : ∀ item ∈ itemsOfTokens tokens, item.HasLetter := by
    induction tokens with
    | nil =>
      intro item hitem
      cases hitem
    | cons token tokens ih => exact hasLetter_pushToken ih
  unfold compile ofText at h
  cases hscan : scan false source.toList with
  | error e =>
    rw [hscan] at h
    cases h
  | ok tokens =>
    rw [hscan] at h
    obtain rfl := Except.ok.inj h
    exact hitems tokens

/-! ## Moments -/

/-- The fields that the pieces of a pattern stand for. Those without a piece are those of the start
    of 1970. -/
def fieldsOf (pattern : Pattern) (pieces : List (List Char)) : WallClock :=
  assign {} pattern.items pieces

theorem readStart?_sound {pattern : Pattern} {text rest : List Char} {zone : Offset}
    {moment : Timestamp} (h : pattern.readStart? text zone = some (moment, rest)) :
    ∃ pieces, Splits pattern.items text pieces rest ∧ (pattern.fieldsOf pieces).IsLegal ∧
      moment = (pattern.fieldsOf pieces).toTimestamp.addMillis (-zone.millis) := by
  obtain ⟨wall, hitems, hlegal, rfl⟩ := readStart?_eq_some_iff.1 h
  obtain ⟨pieces, hsplit, rfl⟩ := readItems?_sound hitems
  exact ⟨pieces, hsplit, hlegal, rfl⟩

theorem readStart?_complete {pattern : Pattern} {text rest : List Char}
    {pieces : List (List Char)} (hitems : ∀ item ∈ pattern.items, item.HasLetter)
    (hsplit : Splits pattern.items text pieces rest) (hlegal : (pattern.fieldsOf pieces).IsLegal)
    (zone : Offset) :
    pattern.readStart? text zone =
      some ((pattern.fieldsOf pieces).toTimestamp.addMillis (-zone.millis), rest) := by
  have hread : readItems? pattern.items {} text = some (pattern.fieldsOf pieces, rest) :=
    readItems?_complete {} hitems hsplit
  exact readStart?_eq_some_iff.2 ⟨_, hread, hlegal, rfl⟩

/-- What is left of a text is where its pieces end. -/
theorem Splits.byteLength_flatten {items : List PatternItem} {text rest : List Char}
    {pieces : List (List Char)} (h : Splits items text pieces rest) :
    Text.byteLength pieces.flatten = Text.byteLength text - Text.byteLength rest := by
  rw [h.eq_append, Text.byteLength_append, Nat.add_sub_cancel]

/-- A compiled pattern finds a moment at the start of a text, up to a byte position, exactly if the
    text up to there can be cut into pieces whose fields are legal; the moment is that of their day
    and time, less the offset. The text can be cut in one way only. -/
theorem parseStart?_eq_some_iff {source : String} {pattern : Pattern}
    (h : compile source = .ok pattern) (text : String) (zone : Offset) :
    (∀ moment stop, pattern.parseStart? text zone = some (moment, stop) ↔
      ∃ pieces rest wall, Splits pattern.items text.toList pieces rest ∧
        Text.byteLength pieces.flatten = stop ∧ wall = pattern.fieldsOf pieces ∧ wall.IsLegal ∧
        moment.toInt = (Timestamp.ofDateAndTime (EpochDay.ofFields wall.year wall.month wall.day)
          (ClockTime.ofFields wall.hour wall.minute wall.second wall.millisecond)).toInt -
            zone.millis) ∧
    ∀ pieces rest pieces' rest', Splits pattern.items text.toList pieces rest →
      Splits pattern.items text.toList pieces' rest' → pieces = pieces' ∧ rest = rest' := by
  refine ⟨fun moment stop => ⟨fun hparse => ?_, ?_⟩, fun _ _ _ _ hsplit => hsplit.unique⟩
  · obtain ⟨⟨found, rest⟩, hread, heq⟩ := Option.map_eq_some_iff.1 hparse
    obtain ⟨rfl, rfl⟩ := Prod.mk.inj heq
    obtain ⟨pieces, hsplit, hlegal, hmoment⟩ := readStart?_sound hread
    exact ⟨pieces, rest, _, hsplit, hsplit.byteLength_flatten, rfl, hlegal,
      (WallClock.eq_addMillis_neg_iff _ zone).1 hmoment⟩
  · rintro ⟨pieces, rest, _, hsplit, rfl, rfl, hlegal, hmoment⟩
    have hread := readStart?_complete (hasLetter_of_compile h) hsplit hlegal zone
    rw [parseStart?, hread, Option.map_some, hsplit.byteLength_flatten,
      (WallClock.eq_addMillis_neg_iff _ zone).2 hmoment]

/-- A day of the month that would not be legal is overridden, and the last day is read up to the end
    of its digits: the moment is half past six in the evening of 27 February 1970. -/
theorem parseStart?_overriddenDay :
    compile "ddMM日d" =
        .ok ⟨[.field .day 2, .field .month 2, .literal '日', .field .day 1]⟩ ∧
      parseStart? ⟨[.field .day 2, .field .month 2, .literal '日', .field .day 1]⟩ "3102日028x"
          ⟨19800, by decide, by decide⟩ = some (Timestamp.ofInt 4991400000, 10) ∧
      ¬ Splits [.field .day 2, .field .month 2, .literal '日', .field .day 1] "3102日028x".toList
        [['3', '1'], ['0', '2'], ['日'], ['0', '2']] ['8', 'x'] := by
  have hcompile : compile "ddMM日d" =
      .ok ⟨[.field .day 2, .field .month 2, .literal '日', .field .day 1]⟩ := by decide
  have hlast : IsFieldText 1 [] ['0', '2', '8'] ['x'] :=
    ⟨List.all_eq_true.1 rfl, by decide, by decide, by decide, .inr (noDigitFirst_cons.2 rfl)⟩
  have hmonth : IsFieldText 2 [.literal '日', .field .day 1] ['0', '2'] ['日', '0', '2', '8', 'x'] :=
    ⟨List.all_eq_true.1 rfl, by decide, by decide, by decide, .inr (noDigitFirst_cons.2 rfl)⟩
  have hfirst : IsFieldText 2 [.field .month 2, .literal '日', .field .day 1] ['3', '1']
      ['0', '2', '日', '0', '2', '8', 'x'] := ⟨List.all_eq_true.1 rfl, by decide, rfl⟩
  have hsplit : Splits [.field .day 2, .field .month 2, .literal '日', .field .day 1]
      "3102日028x".toList [['3', '1'], ['0', '2'], ['日'], ['0', '2', '8']] ['x'] :=
    .field .day hfirst (.field .month hmonth (.literal '日' (.field .day hlast (.nil ['x']))))
  obtain ⟨hparse, hunique⟩ := parseStart?_eq_some_iff hcompile "3102日028x"
    ⟨19800, by decide, by decide⟩
  have hfound := (hparse (Timestamp.ofInt 4991400000) 10).2
    ⟨_, _, { month := 2, day := 28 }, hsplit, by decide, by decide, by decide, by decide⟩
  exact ⟨hcompile, hfound, fun h => absurd (hunique _ _ _ _ hsplit h).1 (by decide)⟩

/-! ## Wall clocks -/

/-- A wall clock shows the fields that are read exactly if the number of their day fits in
    32 bits. -/
theorem ofTimestamp_parseStart?_iff (pattern : Pattern) (text : String) (zone : Offset)
    {moment : Timestamp} {stop : Nat} (h : pattern.parseStart? text zone = some (moment, stop)) :
    ∃ pieces rest, Splits pattern.items text.toList pieces rest ∧
      Text.byteLength pieces.flatten = stop ∧
      (WallClock.ofTimestamp (moment.addMillis zone.millis) = pattern.fieldsOf pieces ↔
        Fits32 (dayNumber (pattern.fieldsOf pieces).year (pattern.fieldsOf pieces).month
          (pattern.fieldsOf pieces).day)) := by
  obtain ⟨⟨found, rest⟩, hread, heq⟩ := Option.map_eq_some_iff.1 h
  obtain ⟨rfl, rfl⟩ := Prod.mk.inj heq
  obtain ⟨pieces, hsplit, hlegal, rfl⟩ := readStart?_sound hread
  refine ⟨pieces, rest, hsplit, hsplit.byteLength_flatten, ?_⟩
  rw [WallClock.addMillis_neg_addMillis]
  exact WallClock.ofTimestamp_toTimestamp_iff hlegal

/-- The last day whose number fits, read in front of other text. -/
theorem ofTimestamp_parseStart?_lastDay :
    parseStart? ⟨[.field .year 7, .field .month 2, .field .day 2, .literal 'T']⟩ "58748980603T1"
        Offset.utc = some (Timestamp.ofInt 185331720297600000, 12) ∧
      WallClock.ofTimestamp ((Timestamp.ofInt 185331720297600000).addMillis Offset.utc.millis) =
        { year := 5874898, month := 6, day := 3 } := by
  have hparse : parseStart? ⟨[.field .year 7, .field .month 2, .field .day 2, .literal 'T']⟩
      "58748980603T1" Offset.utc = some (Timestamp.ofInt 185331720297600000, 12) := by
    decide +kernel
  have hread : readItems? [.field .year 7, .field .month 2, .field .day 2, .literal 'T'] {}
      "58748980603T1".toList = some ({ year := 5874898, month := 6, day := 3 }, ['1']) := by
    decide +kernel
  obtain ⟨pieces, rest, hsplit, -, hshown⟩ := ofTimestamp_parseStart?_iff _ _ _ hparse
  have hfields := readItems?_complete {} (by simp [PatternItem.HasLetter]) hsplit
  rw [hread] at hfields
  obtain ⟨hwall, -⟩ := Prod.mk.inj (Option.some.inj hfields)
  rw [fieldsOf, ← hwall] at hshown
  exact ⟨hparse, hshown.2 (by decide)⟩

/-- A year of seven digits whose days have numbers that do not fit. -/
theorem parseStart?_wrapsAround :
    readItems? [.field .year 4, .literal '-', .field .month 2, .literal '-', .field .day 2] {}
        "9999999-01-01".toList = some ({ year := 9999999 }, []) ∧
      parseStart? ⟨[.field .year 4, .literal '-', .field .month 2, .literal '-', .field .day 2]⟩
        "9999999-01-01" Offset.utc = some (Timestamp.ofInt (-55577853129600000), 13) ∧
      WallClock.ofTimestamp ((Timestamp.ofInt (-55577853129600000)).addMillis Offset.utc.millis) =
        { year := -1759186, month := 1, day := 28 } := by
  decide +kernel

end Pattern

end CivilTime
