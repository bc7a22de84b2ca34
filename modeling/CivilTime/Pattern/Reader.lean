import CivilTime.Offset
import CivilTime.Pattern.Compile
import CivilTime.Text.Bytes
import CivilTime.Text.Decimal

/-!
# Reading with a pattern

The items of a pattern are read one after another, without going back. A field that another field
follows has exactly its width in digits; any other field has as many digits as there are, nine at
most. The fields must be legal, a later occurrence of a field overriding an earlier one, and are
those of a wall clock at an offset from UTC.

A text may end in a point and fraction digits. Its moment is rounded to the millisecond, and the
number of its digits, three at most, is kept beside it.

* `Pattern.readStart?`: the moment at the start of a text, and what follows it.
* `Pattern.read?`: the moment of a whole text.
* `Pattern.readPrecise?`: the moment of a whole text with a fraction, and its number of digits.
* `Timestamp.parseAs?`, `PreciseTimestamp.parseAs?`: the same with the text of a pattern.
* `Pattern.fieldDigits_append_drop`: a field is the beginning of its text.
-/

namespace CivilTime

namespace Pattern

/-- The most digits that a field has which no other field follows. -/
def maxFieldDigits : Nat := 9

/-- The width that a field must have exactly, if the items after it begin with a field. -/
def exactWidth? (width : Nat) : List PatternItem → Option Nat
  | .field _ _ :: _ => some width
  | _ => none

/-- The digits of a field at the start of a text, which are none if there is no such field. -/
def fieldDigits (exactWidth : Option Nat) (text : List Char) : List Char :=
  match exactWidth with
  | some width =>
    if (text.take width).length = width ∧ (text.take width).all Char.isDigit then text.take width
    else []
  | none => (text.take maxFieldDigits).takeWhile Char.isDigit

/-- The digits of a field are the beginning of its text. -/
theorem fieldDigits_append_drop (exactWidth : Option Nat) (text : List Char) :
    fieldDigits exactWidth text ++ text.drop (fieldDigits exactWidth text).length = text := by
  have begins : fieldDigits exactWidth text <+: text := by
    cases exactWidth with
    | none =>
      exact (List.takeWhile_prefix Char.isDigit).trans (List.take_prefix maxFieldDigits text)
    | some width =>
      simp only [fieldDigits]
      split
      · exact List.take_prefix width text
      · exact List.nil_prefix
  exact List.prefix_iff_eq_append.1 begins

/-- The number of a field at the start of a text, which must fit in 32 bits, and what follows it. -/
def readNumber? (exactWidth : Option Nat) (text : List Char) : Option (Int × List Char) :=
  let digits := fieldDigits exactWidth text
  let n : Int := Text.value digits
  if digits.isEmpty then none
  else if Fits32 n then some (n, text.drop digits.length)
  else none

/-- Reads items at the start of a text and sets their fields. -/
def readItems? : List PatternItem → WallClock → List Char → Option (WallClock × List Char)
  | [], wall, text => some (wall, text)
  | .literal c :: items, wall, text =>
    match text with
    | d :: rest => if d = c then readItems? items wall rest else none
    | [] => none
  | .field field width :: items, wall, text =>
    match readNumber? (exactWidth? width items) text with
    | some (n, rest) => readItems? items (wall.set field n) rest
    | none => none

/-- The moment that a pattern finds at the start of a text, and what follows it. The fields are
    those of a wall clock at the offset `zone`. -/
def readStart? (pattern : Pattern) (text : List Char) (zone : Offset) :
    Option (Timestamp × List Char) :=
  match readItems? pattern.items {} text with
  | some (wall, rest) =>
    if wall.IsLegal then some (wall.toTimestamp.addMillis (-zone.millis), rest) else none
  | none => none

/-- The moment that a pattern finds in a whole text. -/
def read? (pattern : Pattern) (text : List Char) (zone : Offset) : Option Timestamp :=
  match pattern.readStart? text zone with
  | some (moment, []) => some moment
  | _ => none

theorem readStart?_eq_some_iff {pattern : Pattern} {text rest : List Char} {zone : Offset}
    {moment : Timestamp} :
    pattern.readStart? text zone = some (moment, rest) ↔
      ∃ wall, readItems? pattern.items {} text = some (wall, rest) ∧ wall.IsLegal ∧
        moment = wall.toTimestamp.addMillis (-zone.millis) := by
  unfold readStart?
  constructor
  · intro h
    split at h
    · rename_i wall tail hitems
      split at h
      · rename_i hlegal
        obtain ⟨rfl, rfl⟩ := Prod.mk.inj (Option.some.inj h)
        exact ⟨wall, hitems, hlegal, rfl⟩
      · cases h
    · cases h
  · rintro ⟨wall, hitems, hlegal, rfl⟩
    rw [hitems]
    exact if_pos hlegal

theorem read?_eq_some_iff {pattern : Pattern} {text : List Char} {zone : Offset}
    {moment : Timestamp} :
    pattern.read? text zone = some moment ↔ pattern.readStart? text zone = some (moment, []) := by
  unfold read?
  constructor
  · intro h
    split at h
    · rename_i found hread
      obtain rfl := Option.some.inj h
      exact hread
    · cases h
  · intro h
    rw [h]

/-- The moment that a pattern finds at the start of a text, and the byte position after it. -/
def parseStart? (pattern : Pattern) (text : String) (zone : Offset) : Option (Timestamp × Nat) :=
  (pattern.readStart? text.toList zone).map fun (moment, rest) =>
    (moment, Text.byteLength text.toList - Text.byteLength rest)

/-- The moment that a pattern finds in a whole text. -/
def parse? (pattern : Pattern) (text : String) (zone : Offset) : Option Timestamp :=
  pattern.read? text.toList zone

end Pattern

/-! ## Fractions of a second -/

/-- A moment, and how many fraction digits it was written with. -/
structure PreciseTimestamp where
  moment : Timestamp
  digits : Nat
  deriving DecidableEq, Repr

namespace PreciseTimestamp

/-- The text of a moment with its own number of digits. -/
def render (precise : PreciseTimestamp) : List Char := precise.moment.render precise.digits

/-- The text of a moment with its own number of digits. -/
def format (precise : PreciseTimestamp) : String := String.ofList precise.render

end PreciseTimestamp

namespace Pattern

/-- The milliseconds of the digits of a fraction. The first three count, and one more from a fourth
    digit of five on. -/
def fractionMillis (digits : List Char) : Nat :=
  Text.value ((digits ++ ['0', '0', '0']).take 3) +
    match digits[3]? with
    | some c => if '5' ≤ c then 1 else 0
    | none => 0

/-- The moment that a pattern finds in a text, with the fraction that may follow it: nothing, or a
    point with any number of digits. -/
def readPrecise? (pattern : Pattern) (text : List Char) (zone : Offset) :
    Option PreciseTimestamp :=
  match pattern.readStart? text zone with
  | some (moment, []) => some ⟨moment, 0⟩
  | some (moment, '.' :: digits) =>
    if digits.all Char.isDigit then
      some ⟨moment.addMillis (fractionMillis digits), min digits.length 3⟩
    else none
  | _ => none

/-- The moment that a pattern finds in a text, with the fraction that may follow it. -/
def parsePrecise? (pattern : Pattern) (text : String) (zone : Offset) :
    Option PreciseTimestamp :=
  pattern.readPrecise? text.toList zone

end Pattern

/-- The moment that the pattern of a text finds in another text, unless the pattern or the text is
    malformed. -/
def Timestamp.parseAs? (pattern text : String) (zone : Offset) : Option Timestamp := do
  (← (Pattern.compile pattern).toOption).parse? text zone

/-- The moment and fraction that the pattern of a text finds in another text, unless the pattern or
    the text is malformed. -/
def PreciseTimestamp.parseAs? (pattern text : String) (zone : Offset) :
    Option PreciseTimestamp := do
  (← (Pattern.compile pattern).toOption).parsePrecise? text zone

end CivilTime
