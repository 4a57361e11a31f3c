import Daybook.Ledger.Chapters
import Daybook.Unicode.Case

namespace Daybook

/-!
# Movements and their running totals

A ledger read posting by posting is a list of movements.  A listing picks some
of them and gives each a running total per currency, the currencies standing in
the order in which the listing first meets them.  The ledgers of contacts and
the register are both listings of this kind.
-/

open Calendar Unicode

/-- One posting of a booking with an amount, with the date, the description and the label of the
booking. -/
structure Movement where
  date : Date
  description : Text
  account : Account
  amount : Money
  label : Text
  deriving DecidableEq, Repr

/-- A movement in a listing, with the totals of the listing up to here. -/
structure Row where
  movement : Movement
  totals : List Money
  deriving DecidableEq, Repr

namespace Movement

def ofBooking (date : Date) (booking : Booking) : List Movement :=
  booking.postings.filterMap fun posting =>
    posting.money.map fun amount =>
      ⟨date, booking.description, posting.account, amount, booking.label⟩

def ofChapters (chapters : List Chapter) : List Movement :=
  (Chapter.entries chapters).flatMap fun (date, booking) => ofBooking date booking

/-- Whether two movements are the same up to the exponent of the amount. -/
def same (left right : Movement) : Bool :=
  left.date == right.date && left.description == right.description &&
    left.account == right.account && left.amount.same right.amount && left.label == right.label

end Movement

namespace Row

/-- The totals after one more amount. -/
def extend (running : Table Text Money) (amount : Money) : Outcome (Table Text Money) :=
  (((running.get? amount.currency).getD (.zero amount.currency)).add amount).map
    (running.put amount.currency)

def listFrom : Table Text Money → List Movement → Outcome (List Row)
  | _, [] => .ok []
  | running, movement :: rest => do
    let next ← extend running movement.amount
    return ⟨movement, next.values⟩ :: (← listFrom next rest)

/-- Lists movements with their running totals, from nothing on. -/
def list (movements : List Movement) : Outcome (List Row) := listFrom [] movements

/-- Whether two rows are the same up to the exponents of the amounts. -/
def same (left right : Row) : Bool :=
  left.movement.same right.movement && pairwiseSame Money.same left.totals right.totals

end Row

/-- Whether a description or an account contains a text in any letter case; no
text and the empty one are contained in all. -/
def isMatch (matcher : Option Text) (description : Text) (account : Account) : Bool :=
  match matcher with
  | none | some [] => true
  | some text =>
    let needle := lower text
    Text.hasPassage (lower description) needle || Text.hasPassage (lower account.name) needle

end Daybook
