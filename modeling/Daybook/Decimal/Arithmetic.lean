import Daybook.Decimal.Context

namespace Daybook
namespace Decimal

/-!
# Decimal arithmetic

The operations of the ledger: each forms an exact result and rounds it to the
bounds of the ledger.  The result of an addition has the finer exponent of its
operands, that of a multiplication the sum of the exponents, and a quotient
that comes out even has an exponent as near to the difference of the exponents
as it can.
-/

def exactSum (a b : Decimal) : Decimal :=
  let unit := commonUnit a b
  let total := unitsIn unit a + unitsIn unit b
  ⟨if total = 0 then a.negative && b.negative else decide (total < 0), total.natAbs, unit⟩

/-- The number with the other sign, zeros included. -/
def flipped (d : Decimal) : Decimal := { d with negative := !d.negative }

def add (a b : Decimal) : Except Signal Decimal :=
  round ledger (exactSum a b)

def sub (a b : Decimal) : Except Signal Decimal :=
  add a b.flipped

def abs (d : Decimal) : Except Signal Decimal :=
  round ledger { d with negative := false }

/-- The negated number; a zero comes out without a sign. -/
def neg (d : Decimal) : Except Signal Decimal :=
  round ledger { d with negative := !d.negative && !d.isZero }

def mul (a b : Decimal) : Except Signal Decimal :=
  round ledger
    ⟨a.negative != b.negative, a.coefficient * b.coefficient, a.exponent + b.exponent⟩

/-- A coefficient and an exponent of one value with trailing zeros moved into
the exponent, at most up to the exponent `ideal`. -/
def trimZeros (ideal : Int) : Nat → Nat → Int → Nat × Int
  | 0, coefficient, exponent => (coefficient, exponent)
  | fuel + 1, coefficient, exponent =>
    if exponent < ideal ∧ coefficient % 10 = 0 then
      trimZeros ideal fuel (coefficient / 10) (exponent + 1)
    else (coefficient, exponent)

/-- The quotient.  Digits are formed until more are known than are kept; an
inexact quotient that would look like a half or like an exact number is marked
by its last digit, so that rounding sees on which side it lies. -/
def div (a b : Decimal) : Except Signal Decimal :=
  if b.isZero then
    .error (if a.isZero then .invalidOperation else .divisionByZero)
  else
    let negative := a.negative != b.negative
    let ideal := a.exponent - b.exponent
    if a.isZero then round ledger ⟨negative, 0, ideal⟩
    else
      let shift : Int :=
        (digitCount b.coefficient : Int) - digitCount a.coefficient + ledger.digits + 1
      let dividend := a.coefficient * Nat.pow 10 shift.toNat
      let divisor := b.coefficient * Nat.pow 10 (-shift).toNat
      let quotient := dividend / divisor
      if dividend % divisor = 0 then
        let (coefficient, exponent) :=
          trimZeros ideal (digitCount quotient) quotient (ideal - shift)
        round ledger ⟨negative, coefficient, exponent⟩
      else
        let marked := if quotient % 5 = 0 then quotient + 1 else quotient
        round ledger ⟨negative, marked, ideal - shift⟩

/-- How many times one magnitude fits into another. -/
def wholeQuotient (a b : Decimal) : Except Signal Nat :=
  if b.isZero then
    .error (if a.isZero then .invalidOperation else .divisionByZero)
  else
    let unit := commonUnit a b
    let quotient := magnitudeIn unit a / magnitudeIn unit b
    if Nat.pow 10 ledger.digits ≤ quotient then .error .invalidOperation
    else .ok quotient

/-- The number over the power of ten `unit`; it has to fit the digits kept. -/
def quantize (mode : Rounding) (unit : Int) (d : Decimal) : Except Signal Decimal :=
  if unit < ledger.tiniest ∨ ledger.largest < unit then .error .invalidOperation
  else if d.isZero then .ok { d with exponent := unit }
  else if (ledger.digits : Int) < d.leading - unit + 1 then .error .invalidOperation
  else
    let coefficient := rescaled mode unit d
    if ledger.digits < digitCount coefficient ∨
        ledger.largest < unit + digitCount coefficient - 1 then .error .invalidOperation
    else .ok ⟨d.negative, coefficient, unit⟩

/-- The smallest amount with the given number of decimals.  A number of
decimals far outside the bounds is refused; below the smallest power of ten the
amount is zero. -/
def smallestUnit (precision : Int) : Except Signal Decimal :=
  if 2 * (ledger.largest + ledger.digits) < precision.natAbs then .error .invalidOperation
  else round ledger ⟨false, 1, -precision⟩

/-- The sum of several numbers, from zero on, left to right. -/
def sum (numbers : List Decimal) : Except Signal Decimal :=
  numbers.foldlM add zero

end Decimal
end Daybook
