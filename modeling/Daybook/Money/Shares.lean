import Daybook.Money.Basic

namespace Daybook
namespace Money

/-!
# Even shares

An amount is divided into shares that add up to it.  Every share is the
quotient cut off at the precision; the whole units that are left over go one
each to the last shares, and a residue finer than the precision goes to the very
last one.
-/

open Decimal

/-- The places that receive a unit when `units` are handed out one by one up to
the last of `parts` places.  Units beyond the number of places start over from
the last place; twice as many as there are places cannot be handed out. -/
def receivers? (parts units : Nat) : Option (List Nat) :=
  if 2 * parts < units then none
  else some ((List.range' (2 * parts - units) units).map (· % parts))

/-- Adds a step to the share at each of the given places, in order. -/
def handOut (step : Decimal) : List Nat → List Decimal → Except Signal (List Decimal)
  | [], shares => .ok shares
  | place :: places, shares => do
    match shares[place]? with
    | some share => handOut step places (shares.set place (← share.add step))
    | none => handOut step places shares

/-- Adds to the last share. -/
def topUpLast (residue : Decimal) (shares : List Decimal) : Except Signal (List Decimal) :=
  match shares.getLast? with
  | some last => do return shares.dropLast ++ [← last.add residue]
  | none => .ok []

/-- The share that everyone gets: the quotient cut off at the unit. -/
def baseShare (amount unit : Decimal) (parts : Nat) : Except Signal Decimal := do
  (← amount.div (ofNat parts)).quantize .down unit.exponent

/-- The shares of an amount, in the order of the parties. -/
def splitEven (money : Money) (parts : Int) (precision : Int) : Outcome (List Money) :=
  if parts < 1 then .error (.noParts parts)
  else do
    let count := parts.toNat
    let amount := money.amount
    let unit ← Outcome.ofNumbers (smallestUnit precision)
    let base ← Outcome.ofNumbers (baseShare amount unit count)
    let remainder ← Outcome.ofNumbers (do amount.sub (← base.mul (ofNat count)))
    let step ← if remainder.isPositive then .ok unit else Outcome.ofNumbers unit.neg
    let units ← Outcome.ofNumbers (do wholeQuotient (← remainder.abs) unit)
    match receivers? count units with
    | none => .error .leftover
    | some places =>
      let stepped ← Outcome.ofNumbers (handOut step places (List.replicate count base))
      let residue ← Outcome.ofNumbers (do amount.sub (← sum stepped))
      let shares ← Outcome.ofNumbers (topUpLast residue stepped)
      .ok (shares.map fun share => ⟨money.currency, share⟩)

end Money
end Daybook
