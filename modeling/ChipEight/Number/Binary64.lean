/-
Numbers of 64-bit binary floating point.

A number is its bits: a sign, eleven bits of exponent and fifty-two of fraction.  The
arithmetic is done on exact quotients of integers and rounded once, by `ofQuotient`,
to the nearest number there is, a tie going to the one with the even significand.
So every operation here is the exact result rounded, and nothing depends on the
processor but one choice: an operation that has no meaningful result gives `invalid`,
the quiet NaN with its sign bit set, while a NaN that goes in comes out again with the
bits it had.

`key` is the order of the numbers as integers.  Two zeros have one key, and a NaN is
neither below nor above anything.
-/

namespace ChipEight

/-- A number of 64-bit binary floating point. -/
structure Binary64 where
  bits : UInt64
  deriving DecidableEq, Repr, Inhabited

/-- The quotient of two numbers to the nearest integer, a tie going to the even one. -/
def roundedQuotient (n d : Nat) : Nat :=
  if d < 2 * (n % d) ∨ (2 * (n % d) = d ∧ n / d % 2 = 1) then n / d + 1 else n / d

namespace Binary64

/-! ### The fields -/

/-- The weight of the bit that is set in negative numbers. -/
def signUnit : Nat := 0x8000000000000000

/-- The weight of the lowest bit of the exponent, which is also that of the leading bit that
a significand has without its being written. -/
def exponentUnit : Nat := 0x10000000000000

/-- The weight of the bit that is set in quiet NaNs. -/
def quietUnit : Nat := 0x8000000000000

def isNegative (x : Binary64) : Bool := signUnit ≤ x.bits.toNat

/-- All bits but the sign. -/
def magnitude (x : Binary64) : Nat := x.bits.toNat % signUnit

/-- The magnitude of the infinities, above that of every finite number and below that of
every NaN. -/
def infiniteMagnitude : Nat := 2047 * exponentUnit

def isNaN (x : Binary64) : Bool := infiniteMagnitude < x.magnitude

def isInfinite (x : Binary64) : Bool := x.magnitude = infiniteMagnitude

def isZero (x : Binary64) : Bool := x.magnitude = 0

def ofMagnitude (negative : Bool) (magnitude : Nat) : Binary64 :=
  ⟨UInt64.ofNat (magnitude + if negative then signUnit else 0)⟩

def zero : Binary64 := ⟨0⟩

def one : Binary64 := ⟨0x3FF0000000000000⟩

/-- A zero or an infinity of either sign. -/
def zeroOf (negative : Bool) : Binary64 := ofMagnitude negative 0

def infinityOf (negative : Bool) : Binary64 := ofMagnitude negative infiniteMagnitude

/-- The quiet NaN of either sign. -/
def quietNaN (negative : Bool) : Binary64 := ofMagnitude negative (infiniteMagnitude + quietUnit)

/-- The result of an operation that has none. -/
def invalid : Binary64 := quietNaN true

/-- A NaN as an operation passes it on: quiet, and otherwise as it was. -/
def quieted (x : Binary64) : Binary64 := ⟨x.bits ||| 0x0008000000000000⟩

instance : Neg Binary64 := ⟨fun x => ⟨x.bits ^^^ 0x8000000000000000⟩⟩

/-! ### Order -/

/-- The place in the order, with one place for both zeros. -/
def key (x : Binary64) : Int := if x.isNegative then -x.magnitude else x.magnitude

def less (x y : Binary64) : Bool := !x.isNaN && !y.isNaN && decide (x.key < y.key)

instance : LT Binary64 := ⟨fun x y => x.less y = true⟩

instance (x y : Binary64) : Decidable (x < y) := inferInstanceAs (Decidable (_ = _))

/-! ### Exact values -/

/-- The value of a finite number as a quotient, the divisor being a power of two. -/
def toQuotient (x : Binary64) : Int × Nat :=
  let exponent := x.magnitude / exponentUnit
  let significand :=
    if exponent = 0 then x.magnitude else exponentUnit + x.magnitude % exponentUnit
  let n := significand <<< (exponent - 1075)
  (if x.isNegative then -n else n, 1 <<< (1075 - max exponent 1))

/-- The exponent of the greatest power of two that a positive quotient reaches. -/
def quotientLog (n d : Nat) : Int :=
  let guess : Int := n.log2 - d.log2
  if d <<< guess.toNat ≤ n <<< (-guess).toNat then guess else guess - 1

/-- The number nearest to a quotient, or the infinity if the quotient is too large for one. -/
def ofQuotient (negative : Bool) (n d : Nat) : Binary64 :=
  if n = 0 then zeroOf negative
  else
    let exponent := max (quotientLog n d - 52) (-1074)
    let significand := roundedQuotient (n <<< (-exponent).toNat) (d <<< exponent.toNat)
    ofMagnitude negative
      (min ((exponent + 1074).toNat * exponentUnit + significand) infiniteMagnitude)

/-! ### Arithmetic -/

instance : Add Binary64 where
  add x y :=
    if x.isNaN then x.quieted
    else if y.isNaN then y.quieted
    else if x.isInfinite then
      if y.isInfinite && x.isNegative != y.isNegative then invalid else x
    else if y.isInfinite then y
    else
      let (n₁, d₁) := x.toQuotient
      let (n₂, d₂) := y.toQuotient
      let n := n₁ * d₂ + n₂ * d₁
      if n = 0 then zeroOf (x.isNegative && y.isNegative)
      else ofQuotient (n < 0) n.natAbs (d₁ * d₂)

instance : Sub Binary64 where
  sub x y :=
    if x.isNaN then x.quieted
    else if y.isNaN then y.quieted
    else x + -y

instance : Mul Binary64 where
  mul x y :=
    let negative := x.isNegative != y.isNegative
    if x.isNaN then x.quieted
    else if y.isNaN then y.quieted
    else if x.isInfinite || y.isInfinite then
      if x.isZero || y.isZero then invalid else infinityOf negative
    else
      let (n₁, d₁) := x.toQuotient
      let (n₂, d₂) := y.toQuotient
      ofQuotient negative (n₁.natAbs * n₂.natAbs) (d₁ * d₂)

instance : Div Binary64 where
  div x y :=
    let negative := x.isNegative != y.isNegative
    if x.isNaN then x.quieted
    else if y.isNaN then y.quieted
    else if x.isInfinite then
      if y.isInfinite then invalid else infinityOf negative
    else if y.isInfinite then zeroOf negative
    else if y.isZero then
      if x.isZero then invalid else infinityOf negative
    else
      let (n₁, d₁) := x.toQuotient
      let (n₂, d₂) := y.toQuotient
      ofQuotient negative (n₁.natAbs * d₂) (d₁ * n₂.natAbs)

end Binary64

end ChipEight
