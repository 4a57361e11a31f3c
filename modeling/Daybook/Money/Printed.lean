import Daybook.Money.Literal

namespace Daybook
namespace Money

/-!
# Printed amounts

An amount is printed with exactly as many decimals as its currency shows,
rounded half-even, and with the designator where the style of the currency puts
it.  A minus stands first, and an amount that rounds to zero has none.
-/

/-- The magnitude of a number with a number of decimals. -/
def formatAmount (amount : Decimal) (precision : Int) : Outcome Text := do
  let unit ← unitExponent precision
  let magnitude ← Outcome.ofNumbers amount.abs
  let shown ← Outcome.ofNumbers (magnitude.quantize .halfEven unit)
  return shown.toPositional

def dress (style : Style) (negative : Bool) (designator number : Text) : Text :=
  let sign := if negative then ['-'] else []
  match style with
  | .before => sign ++ designator ++ number
  | .after => sign ++ number ++ designator
  | .code => sign ++ number ++ ' ' :: designator

def format (money : Money) (registry : Registry) : Outcome Text := do
  let currency := registry.currencyFor money.currency
  let unit ← unitExponent currency.precision
  let rounded ← Outcome.ofNumbers (money.amount.quantize .halfEven unit)
  let number ← formatAmount rounded currency.precision
  return dress currency.style rounded.isNegative currency.designator number

end Money
end Daybook
