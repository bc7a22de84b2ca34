import CivilTime.Text.Decimal

/-!
# Clock times

Milliseconds since midnight, and the hour, minute, second and millisecond they stand for. A clock
time may lie outside its day; its fields are then those of the time modulo a day.

A time is written `HH:MM:SS`, and with a point and fraction digits if some are asked for. Digits are
cut off, not rounded; those past the third are zeros.

* `clockFields_bounds`: the fields are in their usual ranges.
* `ClockTime.toInt_ofInt`: a count that fits in 32 bits is kept.
* `length_fractionDigits`: as many digits are written as asked for.
-/

namespace CivilTime

/-- The number of milliseconds in a second. -/
def msPerSecond : Nat := 1000

/-- The number of milliseconds in a minute. -/
def msPerMinute : Nat := 60 * msPerSecond

/-- The number of milliseconds in an hour. -/
def msPerHour : Nat := 60 * msPerMinute

/-- The number of milliseconds in a day. -/
def msPerDay : Nat := 24 * msPerHour

/-- The number of milliseconds in a unit of the last of some fraction digits of a second. It is one
    from three digits on. -/
def fractionUnit (digits : Nat) : Nat := Nat.pow 10 (3 - digits)

theorem fractionUnit_of_three_le {digits : Nat} (h : 3 ≤ digits) : fractionUnit digits = 1 := by
  rw [fractionUnit, Nat.sub_eq_zero_of_le h]

/-- What a clock shows. -/
structure ClockFields where
  hour : Nat
  minute : Nat
  second : Nat
  millisecond : Nat
  deriving DecidableEq, Repr

/-- What a clock shows a number of milliseconds after a midnight. -/
def clockFields (millis : Int) : ClockFields :=
  let inDay := (millis % msPerDay).toNat
  { hour := inDay / msPerHour
    minute := inDay % msPerHour / msPerMinute
    second := inDay % msPerMinute / msPerSecond
    millisecond := inDay % msPerSecond }

theorem clockFields_bounds (millis : Int) :
    (clockFields millis).hour ≤ 23 ∧ (clockFields millis).minute ≤ 59 ∧
      (clockFields millis).second ≤ 59 ∧ (clockFields millis).millisecond ≤ 999 := by
  simp only [clockFields, msPerDay, msPerHour, msPerMinute, msPerSecond]
  omega

/-- The number of milliseconds from midnight to a time of the clock, whose fields may be out of
    range. -/
def clockMillis (hour minute second millisecond : Int) : Int :=
  hour * msPerHour + minute * msPerMinute + second * msPerSecond + millisecond

/-- A time of day, in milliseconds since midnight and in 32 bits. It may lie outside the day. -/
structure ClockTime where
  millis : Int32
  deriving DecidableEq, Repr

namespace ClockTime

/-- The number of milliseconds since midnight. -/
def toInt (time : ClockTime) : Int := time.millis.toInt

/-- The time a number of milliseconds after midnight, taken modulo 2^32. -/
def ofInt (n : Int) : ClockTime := ⟨Int32.ofInt n⟩

/-- The start of the day. -/
def midnight : ClockTime := ofInt 0

/-- The time with these fields, which may be out of range. -/
def ofFields (hour minute second millisecond : Int) : ClockTime :=
  ofInt (clockMillis hour minute second millisecond)

/-- What a clock shows at a time. -/
def fields (time : ClockTime) : ClockFields := clockFields time.toInt

theorem fits_toInt (time : ClockTime) : Fits32 time.toInt := fits32_toInt time.millis

theorem toInt_ofInt {n : Int} (h : Fits32 n) : (ofInt n).toInt = n := toInt_ofInt_of_fits32 h

theorem ext {a b : ClockTime} (h : a.toInt = b.toInt) : a = b := by
  cases a
  cases b
  simpa [toInt, Int32.toInt_inj] using h

end ClockTime

/-! ## Writing -/

/-- The first `count` digits of a number of milliseconds below a thousand, as a fraction of a
    second. -/
def fractionDigits (millisecond count : Nat) : List Char :=
  (Text.padded 3 millisecond ++ List.replicate (count - 3) '0').take count

/-- A point and `count` fraction digits, or nothing if no digit is asked for. -/
def renderFraction (millisecond count : Nat) : List Char :=
  if count = 0 then [] else '.' :: fractionDigits millisecond count

theorem length_fractionDigits (millisecond count : Nat) :
    (fractionDigits millisecond count).length = count := by
  rw [fractionDigits, List.length_take, List.length_append, Text.length_padded,
    List.length_replicate]
  omega

namespace ClockFields

/-- The text of a time with `digits` fraction digits. -/
def render (fields : ClockFields) (digits : Nat) : List Char :=
  Text.padded 2 fields.hour ++ ':' :: Text.padded 2 fields.minute ++
    ':' :: Text.padded 2 fields.second ++ renderFraction fields.millisecond digits

end ClockFields

/-- The text of what a clock shows a number of milliseconds after midnight. -/
def renderClock (millis : Int) (digits : Nat) : List Char := (clockFields millis).render digits

/-- The length that is announced for the text of a time. -/
def announcedClockLength (digits : Nat) : Nat := if digits = 0 then 8 else 9 + digits

namespace ClockTime

/-- The text of a time to the second. -/
def render (time : ClockTime) : List Char := renderClock time.toInt 0

/-- The text of a time to the second. -/
def format (time : ClockTime) : String := String.ofList time.render

end ClockTime

end CivilTime
