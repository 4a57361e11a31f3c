import Daybook.Ledger.Queries
import Daybook.Money.Printed

namespace Daybook

/-!
# Rows of reports

A report shows accounts, the register, or the ledger of a contact.  Its rows
hold texts only; the fields of a row stand in the order in which they are shown.
-/

open Calendar

/-- A row of a report: an account and its balance, a movement of the register, or one in the ledger
of a contact. -/
inductive ReportRow where
  | balance (account total : Text)
  | registered (date description account amount total : Text)
  | moved (date description account delta standing : Text)
  deriving DecidableEq, Repr

namespace ReportRow

def fields : ReportRow → List (Text × Text)
  | .balance account total => [("account".toList, account), ("balance".toList, total)]
  | .registered date description account amount total =>
    [("date".toList, date), ("description".toList, description), ("account".toList, account),
      ("amount".toList, amount), ("total".toList, total)]
  | .moved date description account delta standing =>
    [("date".toList, date), ("description".toList, description), ("account".toList, account),
      ("delta".toList, delta), ("balance".toList, standing)]

/-- The printed forms of amounts, in order. -/
def formatAll (registry : Registry) : List Money → Outcome (List Text)
  | [] => .ok []
  | money :: rest => do
    let text ← money.format registry
    return text :: (← formatAll registry rest)

def formatTotals (registry : Registry) (moneys : List Money) : Outcome Text := do
  let parts ← formatAll registry moneys
  return if parts.isEmpty then ['0'] else Text.join ", ".toList parts

def ofAccounts (snapshot : Snapshot) : List Account → Outcome (List ReportRow)
  | [] => .ok []
  | account :: rest => do
    let total ← formatTotals snapshot.registry (snapshot.balance account)
    return .balance account.name total :: (← ofAccounts snapshot rest)

def accounts (snapshot : Snapshot) : Outcome (List ReportRow) :=
  ofAccounts snapshot snapshot.accounts

/-- The rows of a listing, each made by the given constructor. -/
def ofRows (make : Text → Text → Text → Text → Text → ReportRow) (registry : Registry) :
    List Row → Outcome (List ReportRow)
  | [] => .ok []
  | row :: rest => do
    let movement := row.movement
    let amount ← movement.amount.format registry
    let total ← formatTotals registry row.totals
    return make movement.date.toText movement.description movement.account.name amount total ::
      (← ofRows make registry rest)

def ofRegister (registry : Registry) (rows : List Row) : Outcome (List ReportRow) :=
  ofRows .registered registry rows

def ofContact (registry : Registry) (rows : List Row) : Outcome (List ReportRow) :=
  ofRows .moved registry rows

end ReportRow
end Daybook
