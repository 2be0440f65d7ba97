/-
Amounts: numbers that are given either whole or as floating point.

Rates, frequencies and volumes may be given either way.  Turning one into the other
can fail, and so can a division; `ArithmeticError` says how.
-/
import ChipEight.Number.Binary64

namespace ChipEight

/-- Why a computation with numbers has no result. -/
inductive ArithmeticError where
  | divisionByZero
  /-- A number too large for its new form, or infinite. -/
  | overflow
  /-- A NaN where an integer is wanted. -/
  | notANumber
  deriving DecidableEq, Repr

namespace Binary64

/-- The number nearest to an integer. -/
def ofInt (n : Int) : Except ArithmeticError Binary64 :=
  let x := ofQuotient (n < 0) n.natAbs 1
  if x.isInfinite then .error .overflow else .ok x

/-- A quotient of which the divisor must not be zero. -/
def divide (x y : Binary64) : Except ArithmeticError Binary64 :=
  if y.isZero then .error .divisionByZero else .ok (x / y)

/-- The exact value, for a number that has one. -/
def exact (x : Binary64) : Except ArithmeticError (Int × Nat) :=
  if x.isNaN then .error .notANumber
  else if x.isInfinite then .error .overflow
  else .ok x.toQuotient

/-- The integer next to a number in the direction of zero. -/
def truncated (x : Binary64) : Except ArithmeticError Int := do
  let (n, d) ← x.exact
  return n.tdiv d

/-- The integer nearest to a number, a tie going to the even one. -/
def rounded (x : Binary64) : Except ArithmeticError Int := do
  let (n, d) ← x.exact
  return n.sign * roundedQuotient n.natAbs d

end Binary64

/-- A number, given whole or as floating point. -/
inductive Amount where
  | whole (n : Int)
  | real (x : Binary64)
  deriving DecidableEq, Repr

namespace Amount

def toBinary64 : Amount → Except ArithmeticError Binary64
  | whole n => Binary64.ofInt n
  | real x => .ok x

/-- The amount, or the nearer end of the range from zero to one if it lies outside.  What
is not below one counts as one, a NaN included; the zero of the result has no sign. -/
def clamped : Amount → Binary64
  | whole n => if n < 1 then .zero else .one
  | real x => if x < .one then (if Binary64.zero < x then x else .zero) else .one

end Amount

end ChipEight
