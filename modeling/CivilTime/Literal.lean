import CivilTime.Error
import CivilTime.Text.Bytes
import CivilTime.Text.Cut
import CivilTime.Text.Decimal
import CivilTime.Timestamp

/-!
# Literals

Dates, times and timestamps, read leniently: a text is cut at its separators, and each piece is a
signed number of 32 bits between blanks. The fields are not checked against the calendar or the
clock, and fields that are absent have a default.

* `DatePieces`, `TimePieces`: the pieces of a text.
* `readField`: the number of a piece.
* `EpochDay.read`, `ClockTime.read`, `Timestamp.read`: the value of a text. Of several pieces that
  are no numbers, the first one is told.
-/

namespace CivilTime

namespace Literal

/-- The number of a piece of a literal. -/
def readField (field : LiteralField) (piece : List Char) : Except Error Int :=
  match Text.readInt32? (Text.trim piece) with
  | some n => .ok n
  | none => .error (.malformed (.badField field))

/-- The number of a piece of a literal, or a default if the piece is absent. -/
def readFieldOr (default : Int) (field : LiteralField) (piece : Option (List Char)) :
    Except Error Int :=
  match piece with
  | some piece => readField field piece
  | none => .ok default

/-- The pieces of a date. -/
structure DatePieces where
  year : List Char
  month : Option (List Char) := none
  day : Option (List Char) := none
  deriving DecidableEq, Repr

/-- Cuts a date without blanks in front at its hyphens. A hyphen at the start is the sign of the
    year; what follows the second hyphen after it is all of the day. -/
def cutYear : List Char → List Char × Option (List Char)
  | '-' :: rest => ('-' :: (Text.cutAt '-' rest).1, (Text.cutAt '-' rest).2)
  | text => Text.cutAt '-' text

/-- Cuts a date at its hyphens. -/
def DatePieces.ofText (text : List Char) : DatePieces :=
  match cutYear (Text.trimStart text) with
  | (year, none) => { year }
  | (year, some rest) =>
    match Text.cutAt '-' rest with
    | (month, day) => { year, month := some month, day }

/-- The pieces of a time. -/
structure TimePieces where
  hour : List Char
  minute : Option (List Char) := none
  second : Option (List Char) := none
  fraction : Option (List Char) := none
  deriving DecidableEq, Repr

/-- Cuts a time at its first two colons, and what follows them at the first point. -/
def TimePieces.ofText (text : List Char) : TimePieces :=
  match Text.cutAt ':' text with
  | (hour, none) => { hour }
  | (hour, some rest) =>
    match Text.cutAt ':' rest with
    | (minute, none) => { hour, minute := some minute }
    | (minute, some rest) =>
      match Text.cutAt '.' rest with
      | (second, fraction) => { hour, minute := some minute, second := some second, fraction }

end Literal

open Literal

namespace EpochDay

/-- The day of a text `Y`, `Y-M` or `Y-M-D`. An absent month or day is the first. -/
def read (text : List Char) : Except Error EpochDay := do
  let pieces := DatePieces.ofText text
  let year ← readField .year pieces.year
  let month ← readFieldOr 1 .month pieces.month
  let day ← readFieldOr 1 .day pieces.day
  return EpochDay.ofFields year month day

/-- Reads a day. -/
def parse (text : String) : Except Error EpochDay := read text.toList

end EpochDay

namespace ClockTime

/-- The time of a text `H`, `H:M`, `H:M:S` or `H:M:S.F`. An absent minute or second is one, and the
    fraction is a number of milliseconds. -/
def read (text : List Char) : Except Error ClockTime := do
  let pieces := TimePieces.ofText text
  let hour ← readField .hour pieces.hour
  let minute ← readFieldOr 1 .minute pieces.minute
  let second ← readFieldOr 1 .second pieces.second
  let millisecond ← readFieldOr 0 .fraction pieces.fraction
  return ClockTime.ofFields hour minute second millisecond

/-- The time of the part of a text that begins at a byte position. -/
def readFrom (start : Nat) (text : List Char) : Except Error ClockTime :=
  match Text.dropBytes start text with
  | some rest => read rest
  | none => .error (.malformed .badStart)

/-- Reads a time from the part of a text that begins at a byte position. -/
def parse (text : String) (start : Nat) : Except Error ClockTime :=
  readFrom start text.toList

end ClockTime

namespace Timestamp

/-- The moment of a date, or of a date, a space and a time. -/
def read (text : List Char) : Except Error Timestamp :=
  match Text.cutAt ' ' (Text.trim text) with
  | (date, none) => (EpochDay.read date).map EpochDay.midnight
  | (date, some time) => do
    let day ← EpochDay.read date
    let time ← ClockTime.read time
    return Timestamp.ofDateAndTime day time

/-- Reads a moment. -/
def parse (text : String) : Except Error Timestamp := read text.toList

end Timestamp

end CivilTime
