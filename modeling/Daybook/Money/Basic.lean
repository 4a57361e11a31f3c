import Daybook.Error

namespace Daybook

/-!
# Amounts of money

An amount is a decimal number in one currency.  Amounts of two currencies are
neither added nor compared.
-/

/-- A signed amount in the currency of a designator. -/
structure Money where
  currency : Text
  amount : Decimal
  deriving DecidableEq, Repr

namespace Money

/-- Nothing of a currency. -/
def zero (currency : Text) : Money := ⟨currency, .zero⟩

/-- Whether two amounts have one currency and one value. -/
def same (left right : Money) : Bool :=
  left.currency == right.currency && left.amount.same right.amount

/-- An operation on the amounts of two moneys of one currency. -/
def combine (operation : Decimal → Decimal → Except Decimal.Signal Decimal) (left right : Money) :
    Outcome Money :=
  if left.currency = right.currency then
    (Outcome.ofNumbers (operation left.amount right.amount)).map fun amount =>
      ⟨left.currency, amount⟩
  else .error (.currencyMismatch left.currency right.currency)

def add : Money → Money → Outcome Money := combine Decimal.add

def sub : Money → Money → Outcome Money := combine Decimal.sub

/-- The amount with the other sign. -/
def neg (money : Money) : Outcome Money :=
  (Outcome.ofNumbers money.amount.neg).map fun amount => ⟨money.currency, amount⟩

/-- The exact number followed by the designator. -/
def toText (money : Money) : Text :=
  money.amount.toText ++ ' ' :: money.currency

end Money
end Daybook
