import Daybook.Account
import Daybook.Money.Basic
import Daybook.Table

namespace Daybook

/-!
# Bookings

A booking is a description with postings; every posting moves an amount on an
account or leaves its amount to be inferred.  A booking may carry a split that
still has to be carried out and a number of days by which it is to be moved.
Lines and labels say where a booking comes from and how it is referred to; two
bookings with the same content may differ in them.
-/

/-- A movement on one account.  A posting without an amount is to have it inferred; `line` is the
line of the ledger, if it comes from one. -/
structure Posting where
  account : Account
  money : Option Money := none
  line : Option Nat := none
  deriving DecidableEq, Repr

/-- How a split distributes the amount of a booking: evenly among the payer and the contacts, or
all of it charged to one contact. -/
inductive SplitMode where
  | even
  | charged
  deriving DecidableEq, Repr

def SplitMode.word : SplitMode → Text
  | .even => "even".toList
  | .charged => "by".toList

/-- A split that is to be carried out, among contacts known by their names. -/
structure SplitDirective where
  mode : SplitMode
  contacts : List Text
  deriving DecidableEq, Repr

/-- A description with its postings, in order.  The split is still to be carried out, and the
booking is still to be moved by the offset, in days.  `line` is the line of the description;
`label` is what the booking is referred to by, empty while it has none. -/
structure Booking where
  description : Text
  postings : List Posting := []
  split : Option SplitDirective := none
  dateOffset : Int := 0
  line : Option Nat := none
  label : Text := []
  deriving DecidableEq, Repr

/-- The bookings of one date, in order. -/
structure Chapter where
  date : Calendar.Date
  bookings : List Booking := []
  deriving DecidableEq, Repr

namespace Posting

/-- Whether the amount is to be inferred. -/
def isBlank (posting : Posting) : Bool := posting.money.isNone

def same (left right : Posting) : Bool :=
  left.account == right.account &&
    match left.money, right.money with
    | none, none => true
    | some a, some b => a.same b
    | _, _ => false

end Posting

/-- Whether two lists have related elements at the same places. -/
def pairwiseSame {α : Type} (related : α → α → Bool) : List α → List α → Bool
  | [], [] => true
  | a :: as, b :: bs => related a b && pairwiseSame related as bs
  | _, _ => false

namespace Booking

def blankPostings (booking : Booking) : List Posting :=
  booking.postings.filter (·.isBlank)

def explicitPostings (booking : Booking) : List Posting :=
  booking.postings.filter (!·.isBlank)

def moneys (booking : Booking) : List Money :=
  booking.postings.filterMap (·.money)

/-- The contacts of the accounts, each once. -/
def contacts (booking : Booking) : List Text :=
  ((booking.postings.filterMap (·.account.contact?)).filter (!·.isEmpty)).eraseDups

/-- Adds amounts to the totals of their currencies, in order. -/
def addTotals : Table Text Decimal → List Money → Except Decimal.Signal (Table Text Decimal)
  | totals, [] => .ok totals
  | totals, money :: rest => do
    let total ← ((totals.get? money.currency).getD .zero).add money.amount
    addTotals (totals.put money.currency total) rest

/-- The totals of the amounts per currency, in the order in which the
currencies first occur. -/
def imbalance (booking : Booking) : Outcome (Table Text Decimal) :=
  Outcome.ofNumbers (addTotals [] booking.moneys)

/-- Whether no amount is missing and every currency adds up to zero. -/
def isBalanced (booking : Booking) : Outcome Bool :=
  if booking.blankPostings.isEmpty then
    booking.imbalance.map fun totals => totals.all fun entry => entry.2.isZero
  else .ok false

/-- Refuses a booking with a currency that does not add up to zero. -/
def validate (booking : Booking) : Outcome Unit := do
  match (← booking.imbalance).find? fun entry => !entry.2.isZero with
  | some (currency, total) =>
    .error (.ledger
      { cause := .unbalanced booking.description total currency, line := booking.line })
  | none => .ok ()

/-- Whether two bookings have the same content, wherever they come from and
however they are referred to. -/
def same (left right : Booking) : Bool :=
  left.description == right.description && pairwiseSame Posting.same left.postings right.postings &&
    left.split == right.split && left.dateOffset == right.dateOffset

end Booking

namespace Chapter

def same (left right : Chapter) : Bool :=
  left.date == right.date && pairwiseSame Booking.same left.bookings right.bookings

end Chapter
end Daybook
