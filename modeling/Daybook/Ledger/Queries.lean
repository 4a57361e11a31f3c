import Daybook.Ledger.Snapshot

namespace Daybook
namespace Snapshot

/-!
# Questions to a ledger

Accounts with their balances, contacts with their ledgers, and the register:
the movements that match a text and a date.  The bookings behind a register are
asked for separately.
-/

open Calendar

/-- The accounts with postings and the opened ones, in the order of their
names. -/
def accounts (snapshot : Snapshot) : List Account :=
  ((snapshot.balances.keys ++ snapshot.opened).eraseDups).mergeSort fun left right =>
    Text.precedes left.name right.name

/-- The balances of an account, currency by currency. -/
def balance (snapshot : Snapshot) (account : Account) : List Money :=
  ((snapshot.balances.get? account).getD []).values

/-- The contacts that movements or opened accounts name, in order. -/
def contactNames (snapshot : Snapshot) : List Text :=
  let named := (snapshot.opened.filterMap (·.contact?)).filter (!·.isEmpty)
  Text.sort (snapshot.contacts.keys ++ named).eraseDups

/-- The ledger of a contact, whose name may carry the mark: all movements, or
only those on accounts that hold debts. -/
def contactRows (snapshot : Snapshot) (name : Text) (all : Bool) : List Row :=
  match snapshot.contacts.get? (Account.dropMark name) with
  | none => []
  | some ledger => if all then ledger.everything else ledger.debts

/-- Whether a date is the one asked for, if any is. -/
def isOn (asked : Option Date) (date : Date) : Bool :=
  match asked with
  | none => true
  | some wanted => wanted == date

/-- The movements whose description or account matches, of one date if one is
given, with running totals. -/
def register (snapshot : Snapshot) (matcher : Option Text) (on : Option Date) :
    Outcome (List Row) :=
  Row.list ((Movement.ofChapters snapshot.chapters).filter fun movement =>
    isOn on movement.date && isMatch matcher movement.description movement.account)

/-- The labels in the order of their first occurrence. -/
def matching (snapshot : Snapshot) (matcher : Option Text) (on : Option Date) : List Text :=
  (((snapshot.entries.filter fun (date, booking) =>
    isOn on date && booking.postings.any fun posting =>
      isMatch matcher booking.description posting.account).map fun entry =>
        entry.2.label)).eraseDups

end Snapshot
end Daybook
