import Daybook.Decimal.Basic

namespace Daybook
namespace Decimal

/-!
# Rounding to a bounded number of digits

Arithmetic keeps a bounded number of digits and a bounded exponent.  The bounds
are data, `Context`; the one value in use is `ledger`.  Every operation first
forms its exact result and then rounds it here, so that a result which fits is
never changed.
-/

/-- Why an operation on decimal numbers has no result.  `invalidOperation` says that it has no
meaning or that the result asks for more digits than are kept; `overflow` says that the result is
too large. -/
inductive Signal where
  | invalidOperation
  | divisionByZero
  | overflow
  deriving DecidableEq, Repr

/-- What happens to digits that are dropped: the nearest neighbour is taken and of two the even
one, or they are cut off. -/
inductive Rounding where
  | halfEven
  | down
  deriving DecidableEq, Repr

/-- The bounds that arithmetic keeps to: the number of digits, and the powers of ten of a first
digit.  `smallest` is the smallest one when all digits are kept. -/
structure Context where
  digits : Nat
  largest : Int
  smallest : Int
  deriving DecidableEq, Repr

/-- The bounds of all ledger arithmetic. -/
def ledger : Context := ⟨28, 999999, -999999⟩

namespace Context

/-- The smallest power of ten of any digit. -/
def tiniest (context : Context) : Int := context.smallest - (context.digits - 1)

end Context

/-- A coefficient without its last `count` digits. -/
def dropDigits (mode : Rounding) (coefficient count : Nat) : Nat :=
  let quotient := coefficient / Nat.pow 10 count
  let dropped := coefficient % Nat.pow 10 count
  match mode with
  | .down => quotient
  | .halfEven =>
    let unit := Nat.pow 10 count
    if unit < 2 * dropped ∨ (2 * dropped = unit ∧ quotient % 2 = 1) then quotient + 1 else quotient

/-- The coefficient of a number over the power of ten `unit`: zeros are
appended where the unit is finer, digits dropped where it is coarser. -/
def rescaled (mode : Rounding) (unit : Int) (d : Decimal) : Nat :=
  if unit ≤ d.exponent then magnitudeIn unit d
  else dropDigits mode d.coefficient (unit - d.exponent).toNat

/-- An exact result brought within the bounds: digits beyond the number kept
are dropped half-even, and so are digits below the smallest power of ten. -/
def round (context : Context) (d : Decimal) : Except Signal Decimal :=
  if d.coefficient = 0 then
    .ok { d with exponent := max context.tiniest (min d.exponent context.largest) }
  else
    let top := context.largest - context.digits + 1
    let kept := d.exponent + digitCount d.coefficient - context.digits
    if top < kept then .error .overflow
    else
      let unit := max kept context.tiniest
      if unit ≤ d.exponent then .ok d
      else
        let coefficient := rescaled .halfEven unit d
        if context.digits < digitCount coefficient then
          if top < unit + 1 then .error .overflow
          else .ok ⟨d.negative, coefficient / 10, unit + 1⟩
        else .ok ⟨d.negative, coefficient, unit⟩

end Decimal
end Daybook
