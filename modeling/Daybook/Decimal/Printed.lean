import Daybook.Decimal.Basic
import Daybook.Text.Integer

namespace Daybook
namespace Decimal

/-!
# Decimal numbers in text

Reading keeps every digit and the exponent.  There are two written forms: the
exact one, which shows the exponent and turns to scientific notation for large
and very small numbers, and the positional one, which never does.
-/

open Unicode

/-- The digits of a coefficient with a point after all but the last `places`. -/
def positional (places : Nat) (coefficient : Nat) : Text :=
  let digits := Text.padded (places + 1) coefficient
  if places = 0 then digits
  else digits.take (digits.length - places) ++ '.' :: digits.drop (digits.length - places)

/-- The number with its sign and no exponent. -/
def toPositional (d : Decimal) : Text :=
  let sign := if d.negative then ['-'] else []
  if 0 ≤ d.exponent then
    let zeros := if d.isZero then 0 else d.exponent.toNat
    sign ++ Text.ofNat d.coefficient ++ List.replicate zeros '0'
  else sign ++ positional (-d.exponent).toNat d.coefficient

/-- The exact written form.  An exponent above zero or a first digit below the
millionth's place is written with an exponent. -/
def toText (d : Decimal) : Text :=
  if d.exponent ≤ 0 ∧ -6 ≤ d.leading then d.toPositional
  else
    let sign := if d.negative then ['-'] else []
    let digits := Text.ofNat d.coefficient
    let mantissa :=
      match digits with
      | first :: second :: more => first :: '.' :: second :: more
      | short => short
    sign ++ mantissa ++ 'E' :: Text.ofSignedInt d.leading

/-- Reads digits with at most one point between or around them. -/
def ofDigits? (negative : Bool) (exponent : Int) (text : Text) : Option Decimal :=
  let (whole, fraction) := Text.cutAt '.' text
  let decimals := fraction.getD []
  (Text.digits? (whole ++ decimals)).map fun coefficient =>
    ⟨negative, coefficient, exponent - decimals.length⟩

/-- Reads a written number: a sign, digits with a point, and an exponent. -/
def ofText? (text : Text) : Option Decimal :=
  let (negative, body) := Text.takeSign ((Text.strip text).filter (· != '_'))
  let isExponentMark := fun c => c == 'e' || c == 'E'
  let mantissa := body.takeWhile fun c => !isExponentMark c
  match body.dropWhile fun c => !isExponentMark c with
  | [] => ofDigits? negative 0 mantissa
  | _ :: tail =>
    let (below, digits) := Text.takeSign tail
    (Text.digits? digits).bind fun size =>
      ofDigits? negative (if below then -(size : Int) else size) mantissa

end Decimal
end Daybook
