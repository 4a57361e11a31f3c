import Daybook.Ledger.Line
import Daybook.Ledger.Entry
import Daybook.Ledger.Snapshot
import Daybook.Money.Printed

namespace Daybook

/-!
# Printed ledgers

A ledger is printed in one canonical form: the currencies in the order of their
designators, then the chapters, with a blank line between the blocks.  Postings
are indented, and their amounts end in one column unless an account is too long
for it.
-/

def indentation : Text := List.replicate 4 ' '

/-- The least number of spaces between an account and its amount. -/
def leastGap : Int := 2

/-- The column in which amounts end unless another one is asked for. -/
def defaultAmountColumn : Int := 72

namespace Currency

def entryLine (currency : Currency) : Text :=
  let code := (currency.code.filter (!·.isEmpty)).toList
  let precision :=
    if currency.precision = defaultPrecision then [] else [Text.ofInt currency.precision]
  let style := if currency.isSymbol && currency.style == .after then [afterWord] else []
  let entry :=
    indentation ++ Text.join [' '] (currency.designator :: code ++ precision ++ style)
  match currency.name.filter (!·.isEmpty) with
  | some name => entry ++ ' ' :: commentMark :: ' ' :: name
  | none => entry

end Currency

namespace Registry

/-- The lines of the currency block, none if no currency is known. -/
def blockLines (registry : Registry) : List Text :=
  if registry.currencies.isEmpty then []
  else
    let header :=
      if registry.closed then headerWord ++ ' ' :: closedWord else headerWord
    header :: registry.toList.map (·.entryLine)

end Registry

namespace Posting

/-- The line of a posting; its amount ends in the given column if there is
room. -/
def toLine (posting : Posting) (registry : Registry) (column : Int) : Outcome Text :=
  let account := indentation ++ posting.account.name
  match posting.money with
  | none => .ok account
  | some money =>
    (money.format registry).map fun amount =>
      let gap := max leastGap (column - account.length - amount.length)
      account ++ List.replicate gap.toNat ' ' ++ amount

end Posting

namespace Booking

/-- The lines of postings, in order. -/
def postingLines (registry : Registry) (column : Int) : List Posting → Outcome (List Text)
  | [] => .ok []
  | posting :: rest => do
    let line ← posting.toLine registry column
    return line :: (← postingLines registry column rest)

def toLines (booking : Booking) (registry : Registry) (column : Int) : Outcome (List Text) :=
  (postingLines registry column booking.postings).map (booking.description :: ·)

end Booking

namespace Chapter

/-- The lines of bookings, in order. -/
def bookingLines (registry : Registry) (column : Int) : List Booking → Outcome (List Text)
  | [] => .ok []
  | booking :: rest => do
    let lines ← booking.toLines registry column
    return lines ++ (← bookingLines registry column rest)

def toLines (chapter : Chapter) (registry : Registry) (column : Int) : Outcome (List Text) :=
  (bookingLines registry column chapter.bookings).map (chapter.date.toText :: ·)

/-- The blocks of chapters, in order. -/
def blocks (registry : Registry) (column : Int) : List Chapter → Outcome (List (List Text))
  | [] => .ok []
  | chapter :: rest => do
    let lines ← chapter.toLines registry column
    return lines :: (← blocks registry column rest)

end Chapter

namespace Snapshot

/-- The canonical text of a ledger, empty if there is nothing in it. -/
def format (snapshot : Snapshot) (column : Int) : Outcome Text := do
  let chapters ← Chapter.blocks snapshot.registry column snapshot.chapters
  let currencies := snapshot.registry.blockLines
  let blocks := if currencies.isEmpty then chapters else currencies :: chapters
  if blocks.isEmpty then return []
  else return Text.join ['\n', '\n'] (blocks.map (Text.join ['\n'])) ++ ['\n']

end Snapshot
end Daybook
