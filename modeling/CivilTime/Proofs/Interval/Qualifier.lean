import CivilTime.Interval.Qualifier
import CivilTime.Proofs.Text.Cut
import CivilTime.Proofs.Unit

/-!
# The texts of interval qualifiers

The texts that name a qualifier, said without reading them. Between the two names of such a text
there is one separator and no other one, so it makes no difference which is looked for first.

* `IsSeparator`, `Spells`: the separators, and the texts with one name or two.
* `cutAtSeparator?_append`: a text is cut at the separator between its names.
* `cutAtSeparator?_letters`: a single name is not cut.
* `read?_eq_some_iff`: exactly the texts that name a qualifier are read.
* `parse_spelling`: what comes of reading any text.
-/

namespace CivilTime.Interval.Qualifier

open Text (IsBlanks cutAtWord?)

/-! ## Texts -/

/-- What may stand between the names of two units: a word in letters of one case, between two spaces
    or two underscores. -/
inductive IsSeparator : List Char → Prop
  | spaces : IsSeparator " TO ".toList
  | underscores : IsSeparator "_TO_".toList
  | smallSpaces : IsSeparator " to ".toList
  | smallUnderscores : IsSeparator "_to_".toList

/-- A text that names a qualifier: the name of its only unit, or the names of its two units with a
    separator between them and any blanks around it. -/
inductive Spells : List Char → Qualifier → Prop
  | single {name : List Char} {q : Qualifier} (hname : q.leading.IsName name)
      (hq : q.trailing? = none) : Spells name q
  | range {first left separator right last : List Char} {q : Qualifier} {unit : TimeUnit}
      (hfirst : q.leading.IsName first) (hlast : unit.IsName last) (hq : q.trailing? = some unit)
      (hleft : IsBlanks left) (hseparator : IsSeparator separator) (hright : IsBlanks right) :
      Spells (first ++ left ++ (separator ++ (right ++ last))) q

/-! ## Letters and separators -/

/-- No letter has another character before it. -/
def LettersFirst (text : List Char) : Prop :=
  text.Pairwise fun c d => d.isAlpha = true → c.isAlpha = true

/-- No letter has another character behind it. -/
def LettersLast (text : List Char) : Prop :=
  text.Pairwise fun c d => c.isAlpha = true → d.isAlpha = true

section
variable {letters blanks : List Char}

theorem lettersFirst_append (hletters : ∀ c ∈ letters, c.isAlpha = true) (h : IsBlanks blanks) :
    LettersFirst (letters ++ blanks) := by
  refine List.pairwise_append.2 ⟨?_, ?_, fun c hc d _ _ => hletters c hc⟩
  · exact List.pairwise_of_forall_mem_list fun c hc d _ _ => hletters c hc
  · refine List.pairwise_of_forall_mem_list fun c _ d hd halpha => ?_
    rw [h.isAlpha_eq_false d hd] at halpha
    cases halpha

theorem lettersLast_append (h : IsBlanks blanks) (hletters : ∀ c ∈ letters, c.isAlpha = true) :
    LettersLast (blanks ++ letters) := by
  refine List.pairwise_append.2 ⟨?_, ?_, fun c _ d hd _ => hletters d hd⟩
  · refine List.pairwise_of_forall_mem_list fun c hc d _ halpha => ?_
    rw [h.isAlpha_eq_false c hc] at halpha
    cases halpha
  · exact List.pairwise_of_forall_mem_list fun c _ d hd _ => hletters d hd

end

section
variable {separator : List Char}

/-- Exactly the separators are looked for. -/
theorem mem_separators_iff : separator ∈ separators ↔ IsSeparator separator := by
  constructor
  · intro h
    simp only [separators, List.mem_cons, List.not_mem_nil, or_false] at h
    rcases h with rfl | rfl | rfl | rfl
    · exact .spaces
    · exact .underscores
    · exact .smallSpaces
    · exact .smallUnderscores
  · rintro ⟨⟩ <;> decide

/-- A separator is a word of two letters between marks, which are no letters. -/
theorem IsSeparator.exists_marks (h : IsSeparator separator) :
    ∃ mark a b mark', separator = [mark, a, b, mark'] ∧ mark.isAlpha = false ∧ a.isAlpha = true ∧
      b.isAlpha = true ∧ mark'.isAlpha = false := by
  cases h with
  | spaces => exact ⟨' ', 'T', 'O', ' ', rfl, rfl, rfl, rfl, rfl⟩
  | underscores => exact ⟨'_', 'T', 'O', '_', rfl, rfl, rfl, rfl, rfl⟩
  | smallSpaces => exact ⟨' ', 't', 'o', ' ', rfl, rfl, rfl, rfl, rfl⟩
  | smallUnderscores => exact ⟨'_', 't', 'o', '_', rfl, rfl, rfl, rfl, rfl⟩

/-- A separator does not begin with a letter. -/
theorem not_isPrefix_of_isAlpha (h : IsSeparator separator) {c : Char} (hc : c.isAlpha = true)
    (text : List Char) : ¬ separator <+: c :: text := by
  obtain ⟨mark, a, b, mark', rfl, hmark, -⟩ := h.exists_marks
  rw [List.cons_prefix_cons]
  rintro ⟨rfl, -⟩
  rw [hmark] at hc
  cases hc

/-- No separator begins in front of another one, where letters come first. -/
theorem not_isPrefix_of_lettersFirst (h : IsSeparator separator) {c : Char}
    {front text : List Char} (hfront : LettersFirst (c :: front))
    (htext : ∃ mark rest, text = mark :: rest ∧ mark.isAlpha = false) :
    ¬ separator <+: c :: (front ++ text) := by
  obtain ⟨mark, a, b, mark', rfl, hmark, ha, -⟩ := h.exists_marks
  obtain ⟨next, rest, rfl, hnext⟩ := htext
  rw [List.cons_prefix_cons]
  rintro ⟨rfl, hrest⟩
  cases front with
  | nil =>
    obtain ⟨rfl, -⟩ := List.cons_prefix_cons.1 hrest
    rw [hnext] at ha
    cases ha
  | cons d front =>
    obtain ⟨rfl, -⟩ := List.cons_prefix_cons.1 hrest
    have hletter := (List.pairwise_cons.1 hfront).1 a List.mem_cons_self ha
    rw [hmark] at hletter
    cases hletter

/-- Where letters come last, there is no separator. -/
theorem not_isInfix_of_lettersLast (h : IsSeparator separator) {text : List Char}
    (htext : LettersLast text) : ¬ separator <:+: text := by
  obtain ⟨mark, a, b, mark', rfl, -, ha, -, hmark'⟩ := h.exists_marks
  intro hinside
  have hpairs := List.Pairwise.sublist hinside.sublist htext
  have hletter := (List.pairwise_cons.1 (List.pairwise_cons.1 hpairs).2).1 mark' (by simp) ha
  rw [hmark'] at hletter
  cases hletter

/-- There is no other separator in a separator and what follows it. -/
theorem not_isInfix_of_ne {other : List Char} (h : IsSeparator separator)
    (hother : IsSeparator other) (hne : other ≠ separator) {back : List Char}
    (hback : LettersLast back) : ¬ other <:+: separator ++ back := by
  have hself : ¬ other <+: separator ++ back := by
    intro hstart
    obtain ⟨_, _, _, _, hshape, -⟩ := h.exists_marks
    obtain ⟨_, _, _, _, hshape', -⟩ := hother.exists_marks
    have hlength : other.length = separator.length := by rw [hshape, hshape']; rfl
    exact hne ((List.prefix_of_prefix_length_le hstart (List.prefix_append separator back)
      hlength.le).eq_of_length hlength)
  obtain ⟨mark, a, b, mark', rfl, -, ha, hb, hmark'⟩ := h.exists_marks
  have hrest : LettersLast (mark' :: back) := by
    refine List.pairwise_cons.2 ⟨fun d _ halpha => ?_, hback⟩
    rw [hmark'] at halpha
    cases halpha
  simp only [List.cons_append, List.nil_append] at hself ⊢
  rw [List.infix_cons_iff, List.infix_cons_iff, List.infix_cons_iff]
  rintro (hstart | hstart | hstart | hinside)
  · exact hself hstart
  · exact not_isPrefix_of_isAlpha hother ha _ hstart
  · exact not_isPrefix_of_isAlpha hother hb _ hstart
  · exact not_isInfix_of_lettersLast hother hrest hinside

end

/-! ## Cutting at a separator -/

theorem exists_of_cutAtSeparator? {text before after : List Char}
    (h : cutAtSeparator? text = some (before, after)) :
    ∃ separator, IsSeparator separator ∧ text = before ++ (separator ++ after) := by
  obtain ⟨separator, hmem, hcut⟩ := List.exists_of_findSome?_eq_some h
  exact ⟨separator, mem_separators_iff.1 hmem, Text.eq_append_of_cutAtWord? hcut⟩

/-- A single name is not cut. -/
theorem cutAtSeparator?_letters {name : List Char} (h : ∀ c ∈ name, c.isAlpha = true) :
    cutAtSeparator? name = none := by
  rw [cutAtSeparator?, List.findSome?_eq_none_iff]
  intro separator hseparator
  have hname : LettersLast name := lettersLast_append Text.isBlanks_nil h
  exact Text.cutAtWord?_eq_none
    (not_isInfix_of_lettersLast (mem_separators_iff.1 hseparator) hname)

section
variable {separator front back : List Char}

/-- What stands in front of a separator is passed over, where letters come first. -/
theorem cutAtWord?_front {other : List Char} (h : IsSeparator other)
    (hseparator : IsSeparator separator) (hfront : LettersFirst front) :
    cutAtWord? other (front ++ (separator ++ back)) =
      (cutAtWord? other (separator ++ back)).map fun (before, after) =>
        (front ++ before, after) := by
  have hmark : ∃ mark rest, separator ++ back = mark :: rest ∧ mark.isAlpha = false := by
    obtain ⟨mark, a, b, mark', rfl, hmark, -⟩ := hseparator.exists_marks
    exact ⟨mark, _, rfl, hmark⟩
  induction front with
  | nil => exact Option.map_id'.symm
  | cons c front ih =>
    rw [List.cons_append, Text.cutAtWord?_pass (not_isPrefix_of_lettersFirst h hfront hmark),
      ih (List.pairwise_cons.1 hfront).2, Option.map_map]
    rfl

/-- A text is cut at the separator between its names, though another one may be looked for
    first. -/
theorem cutAtSeparator?_append (hfront : LettersFirst front) (h : IsSeparator separator)
    (hback : LettersLast back) :
    cutAtSeparator? (front ++ (separator ++ back)) = some (front, back) := by
  have hne : separator ≠ [] := by
    obtain ⟨_, _, _, _, rfl, -⟩ := h.exists_marks
    exact List.cons_ne_nil _ _
  have hself : cutAtWord? separator (front ++ (separator ++ back)) = some (front, back) := by
    rw [cutAtWord?_front h h hfront, Text.cutAtWord?_append_self hne]
    exact congrArg (fun before => some (before, back)) (List.append_nil front)
  have hother : ∀ other, IsSeparator other → other ≠ separator →
      cutAtWord? other (front ++ (separator ++ back)) = none := by
    intro other hseparator hdiff
    rw [cutAtWord?_front hseparator h hfront,
      Text.cutAtWord?_eq_none (not_isInfix_of_ne h hseparator hdiff hback), Option.map_none]
  cases hcut : cutAtSeparator? (front ++ (separator ++ back)) with
  | none =>
    rw [List.findSome?_eq_none_iff.1 hcut separator (mem_separators_iff.2 h)] at hself
    cases hself
  | some pieces =>
    obtain ⟨found, hmem, hfound⟩ := List.exists_of_findSome?_eq_some hcut
    by_cases hsame : found = separator
    · rw [← hfound, hsame, hself]
    · rw [hother found (mem_separators_iff.1 hmem) hsame] at hfound
      cases hfound

end

/-! ## What comes of reading -/

section
variable {text : List Char} {q : Qualifier}

theorem readUnit?_eq_some_iff {unit : TimeUnit} :
    readUnit? text = some unit ↔ unit.IsName (Text.trim text) := TimeUnit.ofWord?_eq_some_iff

/-- Only texts that name a qualifier are read. -/
theorem spells_of_read? (h : read? text = some q) : Spells (Text.trim text) q := by
  simp only [read?] at h
  split at h
  · obtain ⟨unit, hunit, hq⟩ := Option.bind_eq_some_iff.1 h
    obtain ⟨rfl, hsingle⟩ := ofUnits?_eq_some_iff.1 hq
    rw [readUnit?_eq_some_iff, Text.trim_trim] at hunit
    exact .single hunit hsingle
  · rename_i before after hcut
    obtain ⟨leading, hfirst, h⟩ := Option.bind_eq_some_iff.1 h
    obtain ⟨unit, hlast, hq⟩ := Option.bind_eq_some_iff.1 h
    obtain ⟨rfl, hrange⟩ := ofUnits?_eq_some_iff.1 hq
    obtain ⟨separator, hseparator, htext⟩ := exists_of_cutAtSeparator? hcut
    rw [readUnit?_eq_some_iff] at hfirst hlast
    -- the ends of the text, which has been trimmed, are those of its two parts
    have hhead : ∀ c ∈ before.head?, Text.isBlank c = false := by
      intro c hc
      apply Text.isBlank_head_trim text
      rw [htext]
      exact List.mem_head?_append_of_mem_head? hc
    have hend : ∀ c ∈ after.getLast?, Text.isBlank c = false := by
      intro c hc
      apply Text.isBlank_getLast_trim text
      rw [htext, ← List.append_assoc]
      exact List.mem_getLast?_append_of_mem_getLast? hc
    obtain ⟨left, hbefore, hleft⟩ := Text.exists_trim_of_head hhead
    obtain ⟨right, hafter, hright⟩ := Text.exists_trim_of_getLast hend
    rw [htext, hbefore, hafter]
    exact .range hfirst hlast hrange hleft hseparator hright

/-- Any blanks may stand before and behind a name. -/
theorem readUnit?_blanks {unit : TimeUnit} {left right name : List Char} (h : unit.IsName name)
    (hleft : IsBlanks left) (hright : IsBlanks right) :
    readUnit? (left ++ (name ++ right)) = some unit := by
  rw [readUnit?_eq_some_iff, Text.trim_append_left hleft, Text.trim_append_right hright, h.trim_eq]
  exact h

/-- All texts that name a qualifier are read. -/
theorem read?_of_spells (h : Spells (Text.trim text) q) : read? text = some q := by
  simp only [read?]
  generalize Text.trim text = trimmed at h ⊢
  cases h with
  | @single name q hname hq =>
    have hunit := readUnit?_blanks hname Text.isBlanks_nil Text.isBlanks_nil
    rw [List.nil_append, List.append_nil] at hunit
    rw [cutAtSeparator?_letters hname.isAlpha]
    exact Option.bind_eq_some_iff.2 ⟨_, hunit, ofUnits?_eq_some_iff.2 ⟨rfl, hq⟩⟩
  | @range first left separator right last q unit hfirst hlast hq hleft hseparator hright =>
    have hleading := readUnit?_blanks hfirst Text.isBlanks_nil hleft
    have htrailing := readUnit?_blanks hlast hright Text.isBlanks_nil
    rw [List.nil_append] at hleading
    rw [List.append_nil] at htrailing
    rw [cutAtSeparator?_append (lettersFirst_append hfirst.isAlpha hleft) hseparator
      (lettersLast_append hright hlast.isAlpha)]
    refine Option.bind_eq_some_iff.2 ⟨_, hleading, Option.bind_eq_some_iff.2 ⟨_, htrailing, ?_⟩⟩
    exact ofUnits?_eq_some_iff.2 ⟨rfl, hq⟩

theorem read?_eq_some_iff : read? text = some q ↔ Spells (Text.trim text) q :=
  ⟨spells_of_read?, read?_of_spells⟩

end

end CivilTime.Interval.Qualifier
