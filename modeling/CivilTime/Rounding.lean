import CivilTime.Error

/-!
# Rounding to a multiple

A magnitude between two multiples of an increment goes to the lower or to the upper one as a
`MagnitudeRule` says. A signed number is rounded by its magnitude, under the rule that a `Mode`
has for its sign.

* `roundMagnitude_of_dvd`: a multiple stays as it is.
* `roundMagnitude_eq`: the result is one of the two neighbouring multiples.
* `Mode.ofName?_name`: every mode is read from its name.
-/

namespace CivilTime.Rounding

/-- Where a magnitude goes that is not a multiple of the increment: always down, always up, or to
    the nearer multiple, with a rule for the middle. -/
inductive MagnitudeRule
  | down
  | up
  | halfDown
  | halfUp
  | halfEven
  deriving DecidableEq, Repr

/-- Whether a magnitude goes up that is `rest` above the multiple number `quotient`. -/
def MagnitudeRule.goesUp (rule : MagnitudeRule) (quotient rest increment : Nat) : Bool :=
  match rule with
  | .down => false
  | .up => true
  | .halfDown => increment < 2 * rest
  | .halfUp => increment ≤ 2 * rest
  | .halfEven => increment < 2 * rest || (increment == 2 * rest && quotient % 2 == 1)

/-- A magnitude rounded to a multiple of an increment. -/
def roundMagnitude (rule : MagnitudeRule) (n increment : Nat) : Nat :=
  let quotient := n / increment
  let rest := n % increment
  if rest = 0 then n
  else if rule.goesUp quotient rest increment then (quotient + 1) * increment
  else quotient * increment

/-- The nine ways to round a signed number. -/
inductive Mode
  /-- Toward the greater number. -/
  | ceil
  /-- Toward the smaller number. -/
  | floor
  /-- Away from zero. -/
  | expand
  /-- Toward zero. -/
  | trunc
  /-- To the nearer multiple, from the middle toward the greater number. -/
  | halfCeil
  /-- To the nearer multiple, from the middle toward the smaller number. -/
  | halfFloor
  /-- To the nearer multiple, from the middle away from zero. -/
  | halfExpand
  /-- To the nearer multiple, from the middle toward zero. -/
  | halfTrunc
  /-- To the nearer multiple, from the middle to the even one. -/
  | halfEven
  deriving DecidableEq, Repr

namespace Mode

/-- Unless told otherwise, numbers are rounded to the nearer multiple and away from zero from the
    middle. -/
instance : Inhabited Mode := ⟨.halfExpand⟩

/-- All modes. -/
def all : List Mode :=
  [ceil, floor, expand, trunc, halfCeil, halfFloor, halfExpand, halfTrunc, halfEven]

theorem mem_all (mode : Mode) : mode ∈ all := by
  cases mode <;> decide

/-- The name of a mode. -/
def name : Mode → String
  | .ceil => "ceil"
  | .floor => "floor"
  | .expand => "expand"
  | .trunc => "trunc"
  | .halfCeil => "halfCeil"
  | .halfFloor => "halfFloor"
  | .halfExpand => "halfExpand"
  | .halfTrunc => "halfTrunc"
  | .halfEven => "halfEven"

/-- The mode with a name. -/
def ofName? (text : String) : Option Mode := all.find? fun mode => mode.name = text

/-- Reads the name of a mode. -/
def parse (text : String) : Except Error Mode :=
  match ofName? text with
  | some mode => .ok mode
  | none => .error (.outOfRange .unknownMode)

theorem ofName?_name (mode : Mode) : ofName? mode.name = some mode := by
  cases mode <;> decide

/-- The rule for the magnitudes of the numbers of one sign. -/
def rule (mode : Mode) (negative : Bool) : MagnitudeRule :=
  match mode with
  | .ceil => if negative then .down else .up
  | .floor => if negative then .up else .down
  | .expand => .up
  | .trunc => .down
  | .halfCeil => if negative then .halfDown else .halfUp
  | .halfFloor => if negative then .halfUp else .halfDown
  | .halfExpand => .halfUp
  | .halfTrunc => .halfDown
  | .halfEven => .halfEven

end Mode

/-- A number rounded to a multiple of an increment. -/
def roundToMultiple (mode : Mode) (x : Int) (increment : Nat) : Int :=
  x.sign * roundMagnitude (mode.rule (x < 0)) x.natAbs increment

/-! ## Magnitudes -/

theorem roundMagnitude_of_dvd {rule : MagnitudeRule} {n increment : Nat} (h : increment ∣ n) :
    roundMagnitude rule n increment = n := by
  simp [roundMagnitude, Nat.mod_eq_zero_of_dvd h]

theorem roundMagnitude_eq (rule : MagnitudeRule) (n increment : Nat) :
    roundMagnitude rule n increment = n / increment * increment ∨
      roundMagnitude rule n increment = (n / increment + 1) * increment := by
  simp only [roundMagnitude]
  split
  · rename_i h
    exact .inl (Nat.div_mul_cancel (Nat.dvd_of_mod_eq_zero h)).symm
  · split
    · exact .inr rfl
    · exact .inl rfl

end CivilTime.Rounding
