import Daybook.Currency.Registry
import Daybook.Ledger.Movement

namespace Daybook

/-!
# The state of a resolved ledger

A snapshot holds the chapters of a ledger and three indices over them: the
balances of the accounts, the number of postings behind each balance, and the
ledgers of the contacts.  The indices are kept up to date booking by booking;
building a snapshot from its chapters gives the same ones.
-/

open Calendar

/-- The balances of accounts per currency. -/
abbrev Balances := Table Account (Table Text Money)

/-- The number of postings on an account in a currency. -/
abbrev Usage := Table (Account × Text) Nat

/-- The ledgers of one contact: the movements on accounts that hold debts, and all movements. -/
structure ContactLedger where
  debts : List Row
  everything : List Row
  deriving DecidableEq, Repr

/-- The chapters of a ledger, one a date and in order, and the indices over them.  `opened` lists
the accounts that were opened by name, and `usage` has the number of postings behind each
balance. -/
structure Snapshot where
  chapters : List Chapter := []
  registry : Registry := {}
  opened : List Account := []
  balances : Balances := []
  usage : Usage := []
  contacts : Table Text ContactLedger := []
  deriving DecidableEq, Repr

/-- Whether a booking is counted in or taken out. -/
inductive Direction where
  | entering
  | leaving
  deriving DecidableEq, Repr

namespace Snapshot

/-- Counts one posting in or out.  A currency stays with an account as long as
some posting stands behind it, and an account as long as it has a currency. -/
def applyPosting (direction : Direction) (account : Account) (money : Money) :
    Balances × Usage → Outcome (Balances × Usage)
  | (balances, usage) => do
    let change ← match direction with
      | .entering => .ok money
      | .leaving => money.neg
    let key := (account, money.currency)
    let before := (usage.get? key).getD 0
    let count := match direction with
      | .entering => before + 1
      | .leaving => before - 1
    let amounts := (balances.get? account).getD []
    if 0 < count then
      let current := (amounts.get? money.currency).getD (.zero money.currency)
      let updated ← current.add change
      return (balances.put account (amounts.put money.currency updated), usage.put key count)
    else
      let remaining := amounts.erase money.currency
      let kept :=
        if remaining.isEmpty then balances.erase account else balances.put account remaining
      return (kept, usage.erase key)

/-- Counts postings in or out, in order. -/
def applyPostings (direction : Direction) :
    List Posting → Balances × Usage → Outcome (Balances × Usage)
  | [], indices => .ok indices
  | posting :: rest, indices =>
    match posting.money with
    | none => applyPostings direction rest indices
    | some money => do
      applyPostings direction rest (← applyPosting direction posting.account money indices)

def contactLedger (name : Text) (chapters : List Chapter) : Outcome ContactLedger := do
  let movements := (Movement.ofChapters chapters).filter fun movement =>
    movement.account.contact? == some name
  let debts ← Row.list (movements.filter fun movement => movement.account.isDebt)
  let everything ← Row.list movements
  return { debts, everything }

/-- Renews the ledgers of the named contacts; a contact without movements has
none. -/
def indexContacts (chapters : List Chapter) :
    List Text → Table Text ContactLedger → Outcome (Table Text ContactLedger)
  | [], contacts => .ok contacts
  | name :: rest, contacts => do
    let ledger ← contactLedger name chapters
    indexContacts chapters rest
      (if ledger.everything.isEmpty then contacts.erase name else contacts.put name ledger)

/-- Counts in the postings of bookings, in order. -/
def applyBookings : List Booking → Balances × Usage → Outcome (Balances × Usage)
  | [], indices => .ok indices
  | booking :: rest, indices => do
    applyBookings rest (← applyPostings .entering booking.postings indices)

/-- The snapshot of chapters in any order, with the given currencies and opened
accounts. -/
def build (chapters : List Chapter) (registry : Registry) (opened : List Account) :
    Outcome Snapshot := do
  let merged := Chapter.merge chapters
  let bookings := merged.flatMap (·.bookings)
  let (balances, usage) ← applyBookings bookings ([], [])
  let names := Text.sort (bookings.flatMap (·.contacts)).eraseDups
  let contacts ← indexContacts merged names []
  return { chapters := merged, registry, opened := opened.eraseDups, balances, usage, contacts }

/-- The bookings with their dates, in order. -/
def entries (snapshot : Snapshot) : List (Date × Booking) :=
  Chapter.entries snapshot.chapters

/-- The snapshot with other chapters, after one booking was counted in or out. -/
def commit (snapshot : Snapshot) (chapters : List Chapter) (booking : Booking)
    (direction : Direction) : Outcome Snapshot := do
  let (balances, usage) ←
    applyPostings direction booking.postings (snapshot.balances, snapshot.usage)
  let contacts ← indexContacts chapters (Text.sort booking.contacts) snapshot.contacts
  return { snapshot with chapters, balances, usage, contacts }

/-- Adds a resolved booking at the end of its date. -/
def add (snapshot : Snapshot) (date : Date) (booking : Booking) : Outcome Snapshot := do
  if booking.blankPostings.isEmpty && booking.split.isNone then
    booking.validate
    snapshot.commit (Chapter.insert date booking snapshot.chapters) booking .entering
  else .error (.unresolved booking.description)

/-- Removes the booking with a label; the booking is part of the answer. -/
def remove (snapshot : Snapshot) (label : Text) : Outcome (Booking × Snapshot) :=
  match Chapter.find? label snapshot.chapters with
  | none => .error (.unknownBooking label)
  | some (_, booking) =>
    (snapshot.commit (Chapter.remove label snapshot.chapters) booking .leaving).map fun after =>
      (booking, after)

/-- Whether an account has postings or was opened. -/
def knows (snapshot : Snapshot) (account : Account) : Bool :=
  snapshot.opened.elem account || snapshot.balances.has account

/-- Opens an account; one that is known stays as it is. -/
def openAccount (snapshot : Snapshot) (account : Account) : Snapshot :=
  if snapshot.knows account then snapshot
  else { snapshot with opened := snapshot.opened ++ [account] }

def sameElements (left right : List Account) : Bool :=
  left.all right.elem && right.all left.elem

def sameLedger (left right : ContactLedger) : Bool :=
  pairwiseSame Row.same left.debts right.debts &&
    pairwiseSame Row.same left.everything right.everything

/-- Whether two numbers of postings agree for all accounts and currencies. -/
def sameUsage (left right : Snapshot) : Bool :=
  Table.agrees (· == ·) left.usage right.usage

/-- Whether two snapshots have the same content.  Exponents of amounts, the
order of tables, the registry and the origin of bookings do not matter. -/
def same (left right : Snapshot) : Bool :=
  pairwiseSame Chapter.same left.chapters right.chapters &&
    sameElements left.opened right.opened &&
    Table.agrees (Table.agrees Money.same) left.balances right.balances &&
    sameUsage left right &&
    Table.agrees sameLedger left.contacts right.contacts

end Snapshot
end Daybook
