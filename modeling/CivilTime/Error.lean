/-!
# Errors

What can go wrong when a text is read or a value is checked, told by its cause.
An `Error` has a kind and a detail; the wording of a cause is `Cause.message`.

* `Error.message`: the wording without the kind.
* `Error.text`: the kind, followed by the wording where there is one.
-/

namespace CivilTime

/-- The family an error belongs to: an unspecific one, a value outside its range, or a text
    that does not have the expected form. -/
inductive ErrorKind
  | generic
  | outOfRange
  | malformed
  deriving DecidableEq, Repr

/-- The kind of an error of which nothing is known. -/
instance : Inhabited ErrorKind := ⟨.generic⟩

/-- The name under which a kind is shown. -/
def ErrorKind.name : ErrorKind → String
  | .generic => "Error"
  | .outOfRange => "RangeError"
  | .malformed => "SyntaxError"

/-- The fields of a date and time literal, in reading order. -/
inductive LiteralField
  | year
  | month
  | day
  | hour
  | minute
  | second
  | fraction
  deriving DecidableEq, Repr

/-- What a literal's field is called in messages. -/
def LiteralField.name : LiteralField → String
  | .year => "year"
  | .month => "month"
  | .day => "day"
  | .hour => "hour"
  | .minute => "minute"
  | .second => "second"
  | .fraction => "fractional second"

/-- The faults that readers and checks find. -/
inductive Cause
  /-- A field of a literal is not a decimal number of 32 bits. -/
  | badField (field : LiteralField)
  /-- Reading was to start past the end of the text or inside a character. -/
  | badStart
  /-- A quoted section of a pattern has no closing quote. -/
  | unterminatedQuote
  /-- A pattern has an unquoted letter that names no field. -/
  | unsupportedLetter
  /-- An offset is more than eighteen hours away from UTC. -/
  | offsetOutOfRange
  /-- A text is not an offset. -/
  | badOffset
  /-- A text is not an interval qualifier. -/
  | unknownQualifier
  /-- A text is not the name of a rounding mode. -/
  | unknownMode
  deriving DecidableEq, Repr

/-- The wording of a fault. -/
def Cause.message : Cause → String
  | .badField field => field.name ++ " field is not a valid integer."
  | .badStart => "start index is not a character boundary of the input."
  | .unterminatedQuote => "pattern contains an unterminated quoted literal."
  | .unsupportedLetter => "pattern contains an unsupported pattern letter."
  | .offsetOutOfRange => "UTC offset must be within +/-18:00."
  | .badOffset => "UTC offset is not a valid fixed offset."
  | .unknownQualifier => "IntervalUnitRange not an accepted value."
  | .unknownMode => "RoundingMode not an accepted value."

/-- What is known of an error besides its kind. -/
inductive Detail
  | none
  | cause (cause : Cause)
  | text (text : String)
  deriving DecidableEq, Repr

/-- An error: its kind and what is known besides. -/
structure Error where
  kind : ErrorKind
  detail : Detail := .none
  deriving DecidableEq, Repr

namespace Error

/-- A value outside its range. -/
def outOfRange (cause : Cause) : Error := ⟨.outOfRange, .cause cause⟩

/-- A text that does not have the expected form. -/
def malformed (cause : Cause) : Error := ⟨.malformed, .cause cause⟩

/-- The same error with a free text in place of what was known. -/
def withText (e : Error) (text : String) : Error := { e with detail := .text text }

/-- The same error with a fault in place of what was known. -/
def withCause (e : Error) (cause : Cause) : Error := { e with detail := .cause cause }

/-- The wording of an error without its kind. -/
def message (e : Error) : String :=
  match e.detail with
  | .none => ""
  | .cause cause => cause.message
  | .text text => text

/-- An error as it is shown: its kind, and its wording after a colon where there is one. -/
def text (e : Error) : String :=
  if e.message.isEmpty then e.kind.name else e.kind.name ++ ": " ++ e.message

end Error

/-- A text that names no time unit. -/
structure UnknownUnit where
  text : String
  deriving DecidableEq, Repr

/-- The wording for a text that names no time unit. -/
def UnknownUnit.message (_ : UnknownUnit) : String :=
  "provided string was not a valid TimeUnit"

end CivilTime
