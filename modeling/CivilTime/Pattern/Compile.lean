import CivilTime.Error
import CivilTime.Pattern.Basic

/-!
# The items of a pattern's text

A text is scanned into letters and literal characters, and a run of one letter becomes a field as
wide as the run.

* Between single quotes every character is literal.
* Two quotes in a row are one literal quote, between quotes and outside.
* Outside quotes an ASCII letter names a field, and every other character is literal.

`Pattern.scan` reports the first letter that names no field, or else a quote that is not closed.

* `Pattern.scan_quote`, `Pattern.scan_true_cons`, `Pattern.scan_false_cons`: one character scanned.
-/

namespace CivilTime.Pattern

/-- A character of a pattern, without the quotes around it. -/
inductive Token
  | letter (field : PatternField)
  | literal (c : Char)
  deriving DecidableEq, Repr

/-- The characters of a pattern's text. `quoted` tells whether the text begins between quotes. -/
def scan (quoted : Bool) (text : List Char) : Except Error (List Token) :=
  match quoted, text with
  | false, [] => .ok []
  | true, [] => .error (.malformed .unterminatedQuote)
  | quoted, '\x27' :: '\x27' :: rest => (scan quoted rest).map (.literal '\x27' :: ·)
  | quoted, '\x27' :: rest => scan (!quoted) rest
  | true, c :: rest => (scan true rest).map (.literal c :: ·)
  | false, c :: rest =>
    if c.isAlpha then
      match PatternField.ofLetter? c with
      | some field => (scan false rest).map (.letter field :: ·)
      | none => .error (.malformed .unsupportedLetter)
    else (scan false rest).map (.literal c :: ·)

section
variable {c : Char} {rest : List Char}

theorem scan_quote_quote (quoted : Bool) (rest : List Char) :
    scan quoted ('\x27' :: '\x27' :: rest) = (scan quoted rest).map (.literal '\x27' :: ·) :=
  scan.eq_3 quoted rest

/-- A quote that no other quote follows opens or closes. -/
theorem scan_quote (quoted : Bool) (h : rest.head? ≠ some '\x27') :
    scan quoted ('\x27' :: rest) = scan (!quoted) rest := by
  apply scan.eq_4
  rintro tail rfl
  exact h rfl

theorem scan_true_cons (h : c ≠ '\x27') (rest : List Char) :
    scan true (c :: rest) = (scan true rest).map (.literal c :: ·) :=
  scan.eq_5 c rest (fun _ hc _ => h hc) h

theorem scan_false_cons (h : c ≠ '\x27') (rest : List Char) :
    scan false (c :: rest) =
      if c.isAlpha then
        match PatternField.ofLetter? c with
        | some field => (scan false rest).map (.letter field :: ·)
        | none => .error (.malformed .unsupportedLetter)
      else (scan false rest).map (.literal c :: ·) :=
  scan.eq_6 c rest (fun _ hc _ => h hc) h

end

/-- The items of a character followed by the characters of `items`. A letter widens the field that
    it also begins. -/
def pushToken (token : Token) (items : List PatternItem) : List PatternItem :=
  match token, items with
  | .literal c, items => .literal c :: items
  | .letter field, .field next width :: items =>
    if field = next then .field next (width + 1) :: items
    else .field field 1 :: .field next width :: items
  | .letter field, items => .field field 1 :: items

/-- The items of a list of characters. -/
def itemsOfTokens (tokens : List Token) : List PatternItem := tokens.foldr pushToken []

/-- The pattern of a text. -/
def ofText (text : List Char) : Except Error Pattern :=
  (scan false text).map fun tokens => ⟨itemsOfTokens tokens⟩

/-- Compiles a pattern. -/
def compile (text : String) : Except Error Pattern := ofText text.toList

/-- Checks that a text is a pattern. -/
def check (text : String) : Except Error Unit := (compile text).map fun _ => ()

/-- The text of the pattern of a date. -/
def dateText : String := "yyyy-MM-dd"

/-- The text of the pattern of a time of day. -/
def timeText : String := "HH:mm:ss"

/-- The text of the pattern of a timestamp. -/
def timestampText : String := "yyyy-MM-dd HH:mm:ss"

end CivilTime.Pattern
