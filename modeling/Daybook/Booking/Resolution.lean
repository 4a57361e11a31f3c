import Daybook.Booking.Basic
import Daybook.Currency.Registry
import Daybook.Money.Shares

namespace Daybook
namespace Booking

/-!
# Resolving bookings

A booking is resolved in two steps.  First its split is carried out: the one
amount given is distributed, and every contact gets a posting of its own.  Then
at most one omitted amount is inferred as what the others leave over.  A
resolved booking has no split and no omitted amount, and every currency adds up
to zero.
-/

/-- The posting for the share of a contact.  A positive share is owed by the
contact, any other one to the contact. -/
def contactPosting (contact : Text) (share : Money) : Posting :=
  { account :=
      if share.amount.isPositive then
        Account.ofContact AccountType.asset.word contact "receivable".toList
      else Account.ofContact AccountType.liability.word contact "payable".toList
    money := some share }

/-- A fault of a booking, in the line of its description. -/
def faultOf (booking : Booking) (cause : Cause) : Failure :=
  .ledger { cause, line := booking.line }

/-- Carries out the split of a booking.  The posting with an amount funds it;
what is distributed is that amount with the other sign. -/
def resolveSplit (booking : Booking) (registry : Registry) : Outcome Booking :=
  match booking.split with
  | none => .ok booking
  | some directive =>
    match directive.contacts, booking.moneys with
    | [], _ => .error (booking.faultOf (.splitAmongNobody booking.description))
    | first :: others, [funding] => do
      let total ← funding.neg
      match directive.mode with
      | .even => do
        let contacts := first :: others
        let precision := (registry.currencyFor total.currency).precision
        let shares ← total.splitEven (contacts.length + 1) precision
        let added := List.zipWith contactPosting contacts shares.tail
        .ok { booking with postings := booking.postings ++ added, split := none }
      | .charged =>
        .ok
          { booking with
            postings := booking.explicitPostings ++ [contactPosting first total]
            split := none }
    | _ :: _, moneys =>
      .error (booking.faultOf (.fundingPostings booking.description moneys.length))

/-- The line of a posting, or else the line of its booking. -/
def lineOf (booking : Booking) (posting : Posting) : Option Nat :=
  match posting.line with
  | none | some 0 => booking.line
  | some line => some line

/-- The amount that makes a total zero. -/
def balancing (total : Decimal) : Except Decimal.Signal Decimal :=
  if total.isZero then .ok .zero else total.neg

/-- Gives an amount to the postings that have none. -/
def fillBlanks (money : Money) (postings : List Posting) : List Posting :=
  postings.map fun posting =>
    if posting.isBlank then { posting with money := some money } else posting

/-- Infers the omitted amount of a booking whose split has been carried out, if
there is one, and refuses a booking that cannot come out balanced. -/
def infer (booking : Booking) : Outcome Booking :=
  match booking.blankPostings with
  | [] => booking.validate.map fun _ => booking
  | [blank] => do
    match ← booking.imbalance with
    | [(currency, total)] =>
      let amount ← Outcome.ofNumbers (balancing total)
      .ok { booking with postings := fillBlanks ⟨currency, amount⟩ booking.postings }
    | totals =>
      let cause :=
        if totals.isEmpty then Cause.noCurrency booking.description
        else .severalCurrencies booking.description totals.length
      .error (.ledger { cause, line := booking.lineOf blank })
  | blanks@(_ :: second :: _) =>
    .error (.ledger
      { cause := .severalBlanks booking.description blanks.length
        line := booking.lineOf second })

/-- Resolves a booking.  Faults without a place are placed on the line of the
description. -/
def resolve (booking : Booking) (registry : Registry) : Outcome Booking :=
  match (booking.resolveSplit registry).bind infer with
  | .ok resolved => .ok resolved
  | .error failure =>
    match booking.line with
    | some line => .error (failure.placedAt line 1)
    | none => .error failure

end Booking
end Daybook
