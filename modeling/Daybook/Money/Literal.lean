import Daybook.Currency.Registry
import Daybook.Money.Basic

namespace Daybook

/-!
# Written amounts

An amount is written in one of four forms: a symbol before the number with the
minus before or after it, a symbol after the number, or a code after the number
and a blank.  `Literal` holds what was written; which currency is meant is for
the registry to say.
-/

open Unicode

/-- An amount as it was written: whether with a minus, its number, its symbol or code, and where
that stood. -/
structure Literal where
  negative : Bool
  number : Text
  token : Text
  style : Style
  deriving DecidableEq, Repr

namespace Literal

def takeMinus : Text → Bool × Text
  | '-' :: rest => (true, rest)
  | text => (false, text)

/-- Whether a text has the characters of a number: a digit, then digits and
points. -/
def isNumeric : Text → Bool
  | [] => false
  | c :: rest => isDecimal c && rest.all fun d => isDecimal d || d == '.'

/-- The form with the symbol first.  The text is one of this form even when it
carries two signs, which is a fault of its own. -/
def symbolFirst? (text : Text) : Option (Except Cause Literal) :=
  let (outer, unsigned) := takeMinus text
  match unsigned with
  | [] => none
  | symbol :: rest =>
    let (inner, number) := takeMinus rest
    if isSymbolChar symbol && isNumeric number then
      if outer && inner then some (.error (.repeatedSign text))
      else some (.ok ⟨outer || inner, number, [symbol], .before⟩)
    else none

/-- The form with the symbol last. -/
def symbolLast? (text : Text) : Option Literal :=
  let (negative, unsigned) := takeMinus text
  match unsigned.getLast? with
  | none => none
  | some symbol =>
    let number := unsigned.dropLast
    if isSymbolChar symbol && isNumeric number then some ⟨negative, number, [symbol], .after⟩
    else none

def codeLast? (text : Text) : Option Literal :=
  let (negative, unsigned) := takeMinus text
  let number := unsigned.takeWhile (!isBlank ·)
  let tail := unsigned.dropWhile (!isBlank ·)
  let code := Text.stripStart tail
  if isNumeric number && !tail.isEmpty && !code.isEmpty && code.all isCodeLetter then
    some ⟨negative, number, code, .code⟩
  else none

def ofText (text : Text) : Except Cause Literal :=
  match symbolFirst? text with
  | some result => result
  | none =>
    match symbolLast? text with
    | some literal => .ok literal
    | none =>
      match codeLast? text with
      | some literal => .ok literal
      | none => .error (.malformedMoney text)

def value (literal : Literal) (text : Text) : Except Cause Decimal :=
  if 1 < literal.number.count '.' then .error (.repeatedPoint text)
  else if literal.number.getLast? = some '.' then .error (.missingFraction text)
  else
    match Decimal.ofDigits? false 0 literal.number with
    | some value => .ok value
    | none => .error (.malformedMoney text)

end Literal

namespace Money

/-- Reads a written amount and finds its currency, which an open registry may
bind on this occasion. -/
def ofText (text : Text) (registry : Registry) : Outcome Money × Registry :=
  let inner := Text.strip text
  match Literal.ofText inner with
  | .error cause => (.error (.ofCause cause), registry)
  | .ok literal =>
    match literal.value inner with
    | .error cause => (.error (.ofCause cause), registry)
    | .ok value =>
      match registry.resolve literal.token literal.style with
      | (.error cause, left) => (.error (.ofCause cause), left)
      | (.ok currency, left) =>
        let amount := if literal.negative then value.neg else .ok value
        ((Outcome.ofNumbers amount).map fun signed => ⟨currency.designator, signed⟩, left)

/-- The exponent of the smallest amount that a currency shows. -/
def unitExponent (precision : Int) : Outcome Int :=
  (Outcome.ofNumbers (Decimal.smallestUnit precision)).map (·.exponent)

/-- Refuses an amount with more decimals than its currency shows. -/
def checkPrecision (money : Money) (registry : Registry) : Outcome Money := do
  let currency := registry.currencyFor money.currency
  let unit ← unitExponent currency.precision
  let shown ← Outcome.ofNumbers (money.amount.quantize .halfEven unit)
  if money.amount.same shown then .ok money
  else
    .error (.ofCause (.excessDecimals money.amount currency.precision currency.designator))

end Money
end Daybook
