import Daybook.Text.Integer

namespace Daybook
namespace Json

/-!
# Binary numbers

A number with a fraction or an exponent is kept as the nearest binary number
with a significand of 53 bits; of two that are equally near, the one with the
even significand.  Numbers too large for that are infinite, and the least
exponent bounds how small a number other than zero can be.
-/

/-- A binary number: a significand times a power of two, an infinite number, or none. -/
inductive Binary where
  | finite (negative : Bool) (significand : Nat) (exponent : Int)
  | infinite (negative : Bool)
  | nan
  deriving DecidableEq, Repr

def significandBits : Nat := 53

def leastExponent : Int := -1074

def greatestExponent : Int := 971

/-- A quotient rounded to the nearest natural number, a half to the even one. -/
def roundedQuotient (numerator denominator : Nat) : Nat :=
  let quotient := numerator / denominator
  let remainder := 2 * (numerator % denominator)
  if remainder < denominator ∨ (remainder = denominator ∧ quotient % 2 = 0) then quotient
  else quotient + 1

namespace Binary

/-- A quotient divided by a power of two and rounded. -/
def scaled (numerator denominator : Nat) (exponent : Int) : Nat :=
  if exponent < 0 then roundedQuotient (numerator * Nat.pow 2 (-exponent).toNat) denominator
  else roundedQuotient numerator (denominator * Nat.pow 2 exponent.toNat)

def ofQuotient (negative : Bool) (numerator denominator : Nat) : Binary :=
  if numerator = 0 then .finite negative 0 0
  else
    let estimate : Int := (Nat.log2 numerator : Int) - Nat.log2 denominator - significandBits
    let least := max estimate leastExponent
    let fits (exponent : Int) : Bool :=
      scaled numerator denominator exponent < Nat.pow 2 significandBits
    let exponent :=
      if fits least then least
      else if fits (least + 1) then least + 1
      else least + 2
    if exponent > greatestExponent then .infinite negative
    else .finite negative (scaled numerator denominator exponent) exponent

/-- A decimal exponent from which on every number other than zero is infinite,
and the opposite of one from which on downwards every number is zero. -/
def decimalBound : Int := 400

/-- The binary number nearest to digits times a power of ten. -/
def ofDecimal (negative : Bool) (digits : Text) (exponent : Int) : Binary :=
  let trimmed := digits.dropWhile (· == '0')
  let value := (Text.digits? trimmed).getD 0
  let size : Int := trimmed.length + exponent
  if value = 0 ∨ size < -decimalBound then .finite negative 0 0
  else if size > decimalBound then .infinite negative
  else if exponent < 0 then ofQuotient negative value (Nat.pow 10 (-exponent).toNat)
  else ofQuotient negative (value * Nat.pow 10 exponent.toNat) 1

/-- Whether the number is zero, of either sign. -/
def isZero : Binary → Bool
  | .finite _ significand _ => significand == 0
  | _ => false

def truncated (negative : Bool) (significand : Nat) (exponent : Int) : Int :=
  let size :=
    if exponent < 0 then significand / Nat.pow 2 (-exponent).toNat
    else significand * Nat.pow 2 exponent.toNat
  if negative then -(size : Int) else size

end Binary
end Json
end Daybook
