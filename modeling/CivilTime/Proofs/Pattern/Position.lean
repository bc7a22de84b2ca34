import CivilTime.Pattern.Reader
import CivilTime.Proofs.Pattern.Grammar
import CivilTime.Proofs.Text.Bytes
import Mathlib.Data.List.TakeWhile

/-!
# Reading at byte positions

A pattern can be read with a position in place of the text that is left: the text is cut at the
position, the digits of a field are counted byte by byte, and the position goes on by the bytes that
were read. A cut fails behind the end of the text and inside a character. Reading never comes to
such a position, and what it finds depends on nothing behind the position it ends at, unless a digit
goes on there.

* `Pattern.BadCut`, `Pattern.cut`: cuts that fail, and those that do not.
* `Pattern.readStartAt`, `Pattern.readPreciseAt`: reading with a position.
* `Pattern.readItemsAt_eq`: the position is where the text that is left begins.
* `Pattern.Splits.follow`: the pieces of a text in front of another one.
* `Pattern.parseStart?_local`: no cut fails, and only what was read counts.
-/

namespace CivilTime.Pattern

/-! ## Cuts -/

/-- A position where a text cannot be cut. -/
structure BadCut where
  position : Nat
  deriving DecidableEq, Repr

/-- What is left of a text from a position on, which must be at most its length and not inside a
    character. -/
def cut (text : List Char) (position : Nat) : Except BadCut (List Char) :=
  match Text.dropBytes position text with
  | some rest => .ok rest
  | none => .error ⟨position⟩

theorem cut_append (used rest : List Char) :
    cut (used ++ rest) (Text.byteLength used) = .ok rest := by
  rw [cut, Text.dropBytes_eq_some_iff.2 ⟨used, rfl, rfl⟩]

/-! ## Reading with a position -/

/-- The number of digits of a field at the start of some bytes, which is zero if there is no such
    field. -/
def countDigits (exactWidth : Option Nat) (bytes : List UInt8) : Nat :=
  match exactWidth with
  | some width =>
    if (bytes.take width).length = width ∧ (bytes.take width).all Text.isDigitByte then width else 0
  | none => ((bytes.take maxFieldDigits).takeWhile Text.isDigitByte).length

/-- The number of a field at a position, which must fit in 32 bits, and the position behind it. -/
def readNumberAt (exactWidth : Option Nat) (text : List Char) (position : Nat) :
    Except BadCut (Option (Int × Nat)) := do
  let rest ← cut text position
  let count := countDigits exactWidth (Text.utf8 rest)
  let _ ← cut text (position + count)
  let n : Int := Text.byteValue ((Text.utf8 rest).take count)
  return if count = 0 then none else if Fits32 n then some (n, position + count) else none

/-- Reads items from a position on and sets their fields. -/
def readItemsAt (text : List Char) :
    List PatternItem → WallClock → Nat → Except BadCut (Option (WallClock × Nat))
  | [], wall, position => return some (wall, position)
  | .literal c :: items, wall, position => do
    let rest ← cut text position
    if rest.head? = some c then readItemsAt text items wall (position + c.utf8Size)
    else return none
  | .field field width :: items, wall, position => do
    match ← readNumberAt (exactWidth? width items) text position with
    | some (n, position) => readItemsAt text items (wall.set field n) position
    | none => return none

/-- The moment that a pattern finds at the start of a text, and the position behind it. -/
def readStartAt (pattern : Pattern) (text : List Char) (zone : Offset) :
    Except BadCut (Option (Timestamp × Nat)) := do
  match ← readItemsAt text pattern.items {} 0 with
  | some (wall, stop) =>
    return if wall.IsLegal then some (wall.toTimestamp.addMillis (-zone.millis), stop) else none
  | none => return none

/-- A moment with the fraction behind it. -/
def withFraction? (moment : Timestamp) : List Char → Option PreciseTimestamp
  | [] => some ⟨moment, 0⟩
  | '.' :: digits =>
    if digits.all Char.isDigit then
      some ⟨moment.addMillis (fractionMillis digits), min digits.length 3⟩
    else none
  | _ => none

/-- The moment that a pattern finds at the start of a text, with the fraction from the position
    behind it on. -/
def readPreciseAt (pattern : Pattern) (text : List Char) (zone : Offset) :
    Except BadCut (Option PreciseTimestamp) := do
  match ← readStartAt pattern text zone with
  | some (moment, stop) => return withFraction? moment (← cut text stop)
  | none => return none

/-! ## Digits -/

theorem length_take_all_iff {α : Type} {p : α → Bool} {k : Nat} {l : List α} :
    (l.take k).length = k ∧ (l.take k).all p = true ↔ ((l.take k).takeWhile p).length = k := by
  constructor
  · rintro ⟨hlength, hall⟩
    rw [List.takeWhile_eq_self_iff.2 (List.all_eq_true.1 hall), hlength]
  · intro h
    have hle : (l.take k).length ≤ k := List.length_take_le k l
    have hprefix : (l.take k).takeWhile p <+: l.take k := List.takeWhile_prefix p
    have heq : (l.take k).takeWhile p = l.take k :=
      hprefix.eq_of_length (Nat.le_antisymm hprefix.length_le (by omega))
    refine ⟨heq ▸ h, ?_⟩
    rw [← heq]
    exact List.all_takeWhile

/-- A field has as many bytes as characters. -/
theorem countDigits_utf8 (exactWidth : Option Nat) (text : List Char) :
    countDigits exactWidth (Text.utf8 text) = (fieldDigits exactWidth text).length := by
  cases exactWidth with
  | none => exact Text.length_takeWhile_utf8 maxFieldDigits text
  | some width =>
    simp only [countDigits, fieldDigits, length_take_all_iff, Text.length_takeWhile_utf8]
    split_ifs with h
    · exact (length_take_all_iff.2 h).1.symm
    · rfl

/-! ## No cut fails -/

theorem ok_bind {ε α β : Type} (a : α) (f : α → Except ε β) : (Except.ok a >>= f) = f a := rfl

/-- The number of a field is read at the position where the text that is left begins. -/
theorem readNumberAt_eq (exactWidth : Option Nat) (used rest : List Char) :
    readNumberAt exactWidth (used ++ rest) (Text.byteLength used) =
      .ok ((readNumber? exactWidth rest).map fun (n, behind) =>
        (n, Text.byteLength (used ++ rest) - Text.byteLength behind)) := by
  obtain ⟨digits, hdigits⟩ : ∃ digits, digits = fieldDigits exactWidth rest := ⟨_, rfl⟩
  obtain ⟨behind, hbehind⟩ : ∃ behind, behind = rest.drop digits.length := ⟨_, rfl⟩
  have hrest : rest = digits ++ behind := by
    rw [hbehind, hdigits, fieldDigits_append_drop]
  have hall : ∀ c ∈ digits, c.isDigit = true := by
    rw [hdigits]
    exact fun c hc => isDigit_of_mem_fieldDigits hc
  have hlength : Text.byteLength digits = digits.length := Text.byteLength_of_isDigit hall
  have hcount : countDigits exactWidth (Text.utf8 rest) = digits.length := by
    rw [countDigits_utf8, hdigits]
  have hstop : Text.byteLength used + digits.length =
      Text.byteLength (used ++ rest) - Text.byteLength behind := by
    rw [hrest, Text.byteLength_append, Text.byteLength_append, hlength]
    omega
  have hcut : cut (used ++ rest) (Text.byteLength (used ++ rest) - Text.byteLength behind) =
      .ok behind := by
    rw [← hstop, ← hlength, ← Text.byteLength_append, hrest, ← List.append_assoc, cut_append]
  have htake : (Text.utf8 rest).take digits.length = Text.utf8 digits := by
    rw [hrest, Text.utf8_append, ← Text.length_utf8_digits hall, List.take_left]
  simp only [readNumberAt, cut_append, ok_bind, hcount, hstop, hcut, htake,
    Text.byteValue_utf8 hall, List.length_eq_zero_iff]
  rw [readNumber?, ← hdigits, ← hbehind]
  simp only [List.isEmpty_iff]
  split_ifs <;> rfl

/-- Items are read from the position where the text that is left begins. -/
theorem readItemsAt_eq {text used rest : List Char} (htext : text = used ++ rest)
    (items : List PatternItem) (wall : WallClock) :
    readItemsAt text items wall (Text.byteLength used) =
      .ok ((readItems? items wall rest).map fun (wall, behind) =>
        (wall, Text.byteLength text - Text.byteLength behind)) := by
  induction items generalizing wall used rest with
  | nil =>
    rw [readItemsAt, readItems?, htext, Text.byteLength_append]
    simp only [Option.map_some, Nat.add_sub_cancel]
    rfl
  | cons item items ih =>
    cases item with
    | literal c =>
      rw [readItemsAt, htext, cut_append, ok_bind, ← htext]
      cases rest with
      | nil => rfl
      | cons d rest =>
        rw [List.head?_cons, readItems?]
        by_cases hd : d = c
        · have hused : text = (used ++ [d]) ++ rest := by rw [htext, List.append_assoc]; rfl
          have hposition : Text.byteLength used + c.utf8Size = Text.byteLength (used ++ [d]) := by
            rw [Text.byteLength_append, hd]
            rfl
          rw [if_pos (congrArg some hd), if_pos hd, hposition]
          exact ih hused wall
        · rw [if_neg fun h => hd (Option.some.inj h), if_neg hd]
          rfl
    | field field width =>
      rw [readItemsAt, htext, readNumberAt_eq, ok_bind, ← htext, readItems?]
      cases hnumber : readNumber? (exactWidth? width items) rest with
      | none => rfl
      | some found =>
        obtain ⟨n, behind⟩ := found
        obtain ⟨piece, rfl, -, -⟩ := readNumber?_sound hnumber
        have hused : text = (used ++ piece) ++ behind := by rw [htext, List.append_assoc]
        have hposition : Text.byteLength text - Text.byteLength behind =
            Text.byteLength (used ++ piece) := by
          rw [hused, Text.byteLength_append (used ++ piece), Nat.add_sub_cancel]
        simp only [Option.map_some, hposition]
        exact ih hused (wall.set field n)

theorem readStartAt_eq (pattern : Pattern) (text : List Char) (zone : Offset) :
    readStartAt pattern text zone =
      .ok ((pattern.readStart? text zone).map fun (moment, rest) =>
        (moment, Text.byteLength text - Text.byteLength rest)) := by
  have hitems : readItemsAt text pattern.items {} 0 = _ :=
    readItemsAt_eq (List.nil_append text).symm pattern.items {}
  rw [readStartAt, hitems, ok_bind, readStart?]
  cases readItems? pattern.items {} text with
  | none => rfl
  | some found =>
    simp only [Option.map_some]
    split_ifs <;> rfl

theorem readPrecise?_eq (pattern : Pattern) (text : List Char) (zone : Offset) :
    pattern.readPrecise? text zone =
      (pattern.readStart? text zone).bind fun (moment, rest) => withFraction? moment rest := by
  rw [readPrecise?]
  cases pattern.readStart? text zone with
  | none => rfl
  | some found =>
    obtain ⟨moment, rest⟩ := found
    cases rest with
    | nil => rfl
    | cons c digits =>
      by_cases hc : c = '.'
      · subst hc
        rfl
      · show _ = withFraction? moment (c :: digits)
        rw [withFraction?.eq_3 moment (c :: digits) (List.cons_ne_nil c digits) fun _ h =>
          hc (List.cons.inj h).1]
        split
        · rename_i heq
          cases heq
        · rename_i heq
          cases heq
          exact absurd rfl hc
        · rfl

theorem readPreciseAt_eq (pattern : Pattern) (text : List Char) (zone : Offset) :
    readPreciseAt pattern text zone = .ok (pattern.readPrecise? text zone) := by
  rw [readPreciseAt, readStartAt_eq, ok_bind, readPrecise?_eq]
  cases hread : pattern.readStart? text zone with
  | none => rfl
  | some found =>
    obtain ⟨moment, rest⟩ := found
    obtain ⟨pieces, hsplit, -⟩ := readStart?_sound hread
    have hcut : cut text (Text.byteLength text - Text.byteLength rest) = .ok rest := by
      rw [← hsplit.byteLength_flatten, hsplit.eq_append, cut_append]
    simp only [Option.map_some, hcut, ok_bind, Option.bind_some]
    rfl

/-! ## What was read is enough -/

section
variable {items : List PatternItem} {text rest next : List Char} {pieces : List (List Char)}

/-- A field that nothing but the text behind the pieces can go on is still complete in front of
    another text that begins with no digit. -/
theorem IsFieldText.follow {width : Nat} {piece : List Char}
    (h : IsFieldText width items piece text) (htail : Splits items text pieces rest)
    (hnext : NoDigitFirst next) : IsFieldText width items piece (pieces.flatten ++ next) := by
  obtain ⟨hdigits, hfits, hlength⟩ := h
  refine ⟨hdigits, hfits, ?_⟩
  cases htail with
  | nil rest =>
    obtain ⟨hpos, hle, -⟩ := hlength
    exact ⟨hpos, hle, .inr hnext⟩
  | literal c tail =>
    obtain ⟨hpos, hle, hend⟩ := hlength
    exact ⟨hpos, hle, hend.imp_right fun hc => noDigitFirst_cons.2 (noDigitFirst_cons.1 hc)⟩
  | field field head tail => exact hlength

/-- The pieces of a text are those of the text up to their end, with anything behind it that begins
    with no digit. -/
theorem Splits.follow (h : Splits items text pieces rest) (hnext : NoDigitFirst next) :
    Splits items (pieces.flatten ++ next) pieces next := by
  induction h with
  | nil rest => exact .nil next
  | literal c _ ih => exact .literal c ih
  | field field head tail ih =>
    rw [List.flatten_cons, List.append_assoc]
    exact .field field (head.follow tail hnext) ih

end

/-- Reading a text with a pattern cuts it at no position behind its end or inside a character, and
    depends only on what is read: the text up to the position behind it is the text of the same
    moment, by itself and in front of any text that begins with no digit. -/
theorem parseStart?_local {source : String} {pattern : Pattern}
    (h : compile source = .ok pattern) (text : String) (zone : Offset) :
    readStartAt pattern text.toList zone = .ok (pattern.parseStart? text zone) ∧
    readPreciseAt pattern text.toList zone = .ok (pattern.parsePrecise? text zone) ∧
    ∀ moment stop, pattern.parseStart? text zone = some (moment, stop) →
      ∃ used rest, text.toList = used ++ rest ∧ Text.byteLength used = stop ∧
        pattern.parse? (String.ofList used) zone = some moment ∧
        ∀ next, NoDigitFirst next →
          pattern.parseStart? (String.ofList (used ++ next)) zone = some (moment, stop) := by
  refine ⟨readStartAt_eq pattern text.toList zone, readPreciseAt_eq pattern text.toList zone, ?_⟩
  intro moment stop hparse
  obtain ⟨⟨found, rest⟩, hread, heq⟩ := Option.map_eq_some_iff.1 hparse
  obtain ⟨rfl, rfl⟩ := Prod.mk.inj heq
  obtain ⟨pieces, hsplit, hlegal, rfl⟩ := readStart?_sound hread
  have hfollow (next : List Char) (hnext : NoDigitFirst next) :
      pattern.readStart? (pieces.flatten ++ next) zone =
        some ((pattern.fieldsOf pieces).toTimestamp.addMillis (-zone.millis), next) :=
    readStart?_complete (hasLetter_of_compile h) (hsplit.follow hnext) hlegal zone
  refine ⟨pieces.flatten, rest, hsplit.eq_append, hsplit.byteLength_flatten, ?_, ?_⟩
  · have hwhole := hfollow [] noDigitFirst_nil
    rw [List.append_nil] at hwhole
    rw [parse?, String.toList_ofList, read?_eq_some_iff]
    exact hwhole
  · intro next hnext
    have hstop : Text.byteLength (pieces.flatten ++ next) - Text.byteLength next =
        Text.byteLength text.toList - Text.byteLength rest := by
      rw [Text.byteLength_append, Nat.add_sub_cancel, hsplit.byteLength_flatten]
    rw [parseStart?, String.toList_ofList, hfollow next hnext, Option.map_some]
    simp only [hstop]

/-- A field of nine digits behind a character of three bytes, with a digit behind it that is not
    read. -/
theorem parseStart?_local_nineDigits :
    let pattern : Pattern := ⟨[.field .hour 2, .literal '日', .field .millisecond 1]⟩
    let zone : Offset := ⟨19800, by decide, by decide⟩
    compile "HH日S" = .ok pattern ∧
      readStartAt pattern "23日0000000078é".toList zone =
        .ok (some (Timestamp.ofInt 63000007, 14)) ∧
      readPreciseAt pattern "23日0000000078é".toList zone = .ok none ∧
      pattern.parse? "23日000000007" zone = some (Timestamp.ofInt 63000007) ∧
      pattern.parseStart? "23日000000007é8" zone = some (Timestamp.ofInt 63000007, 14) := by
  intro pattern zone
  have hcompile : compile "HH日S" = .ok pattern := by decide
  have hparse : pattern.parseStart? "23日0000000078é" zone =
      some (Timestamp.ofInt 63000007, 14) := by decide +kernel
  have hprecise : pattern.parsePrecise? "23日0000000078é" zone = none := by decide +kernel
  obtain ⟨hstart, hfraction, hlocal⟩ := parseStart?_local hcompile "23日0000000078é" zone
  obtain ⟨used, rest, htext, hlength, hwhole, hnext⟩ := hlocal _ _ hparse
  -- the first fourteen bytes of the text are the characters up to the ninth digit
  have hrest : rest = ['8', 'é'] := by
    have hdrop := Text.dropBytes_eq_some_iff.2 ⟨used, htext, hlength⟩
    exact Option.some.inj (hdrop.symm.trans (by decide +kernel))
  have hused : used = "23日000000007".toList := by
    rw [hrest] at htext
    exact List.append_cancel_right (htext.symm.trans (by decide))
  have hbehind := hnext ['é', '8'] (noDigitFirst_cons.2 rfl)
  rw [hused] at hwhole hbehind
  rw [hparse] at hstart
  rw [hprecise] at hfraction
  exact ⟨hcompile, hstart, hfraction, hwhole, hbehind⟩

end CivilTime.Pattern
