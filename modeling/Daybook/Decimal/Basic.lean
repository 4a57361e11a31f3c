namespace Daybook

/-!
# Decimal numbers

A decimal number is a sign, a natural coefficient and a power of ten.  Numbers
of one value may differ in their exponent (`5` and `5.00`) and zero has both
signs; printing shows these differences and comparing ignores them.  This
module holds the number itself, its rational value and exact comparison; no
operation here rounds.
-/

/-- A decimal number: `coefficient` times ten to the power `exponent`, negated if `negative` is
set.  A zero may be negated, too. -/
structure Decimal where
  negative : Bool
  coefficient : Nat
  exponent : Int
  deriving DecidableEq, Repr

namespace Decimal

def zero : Decimal := ⟨false, 0, 0⟩

def ofNat (value : Nat) : Decimal := ⟨false, value, 0⟩

def isZero (d : Decimal) : Bool := d.coefficient == 0

/-- The rational number that a decimal number stands for. -/
def value (d : Decimal) : Rat :=
  (if d.negative then -(d.coefficient : Rat) else d.coefficient) * (10 : Rat) ^ d.exponent

/-- The coefficient counted in units of ten to the power `unit`, for a unit no
coarser than the number's own. -/
def magnitudeIn (unit : Int) (d : Decimal) : Nat :=
  d.coefficient * Nat.pow 10 (d.exponent - unit).toNat

/-- The signed number of units of ten to the power `unit`, for a unit no
coarser than the number's own. -/
def unitsIn (unit : Int) (d : Decimal) : Int :=
  if d.negative then -(magnitudeIn unit d : Int) else magnitudeIn unit d

/-- The finer of the units of two numbers. -/
def commonUnit (a b : Decimal) : Int := min a.exponent b.exponent

def same (a b : Decimal) : Bool :=
  unitsIn (commonUnit a b) a == unitsIn (commonUnit a b) b

def isNegative (d : Decimal) : Bool := d.negative && !d.isZero

def isPositive (d : Decimal) : Bool := !d.negative && !d.isZero

/-- The number of digits of a natural number, at least one. -/
def digitCount (value : Nat) : Nat :=
  if value < 10 then 1 else digitCount (value / 10) + 1
termination_by value
decreasing_by omega

/-- The power of ten of the first digit. -/
def leading (d : Decimal) : Int :=
  d.exponent + digitCount d.coefficient - 1

end Decimal
end Daybook
