import Daybook.Command.Basic
import Daybook.Ledger.Printed
import Daybook.Report.Row
import Daybook.Storage.Device

namespace Daybook

/-!
# Sessions

A session holds a ledger, the current date, what the last question selected,
whether there are unsaved changes, and a bounded history.  Every command that
may change the ledger leaves an entry in the history, with the state that held
right before it; taking a command back restores that state.

Where a ledger is saved to is not part of the session: it is a `Device` that
the caller brings, together with the state of the device.
-/

open Calendar

/-- What the last question asked for, and the labels of the bookings that it selected, in order. -/
structure Selection where
  matcher : Option Text := none
  on : Option Date := none
  labels : List Text := []
  deriving DecidableEq, Repr

/-- The state of a session right before a command that may change it. -/
structure HistoryEntry where
  snapshot : Snapshot
  dirty : Bool
  selection : Selection
  currentDate : Date
  command : CommandName
  deriving DecidableEq, Repr

def HistoryEntry.same (left right : HistoryEntry) : Bool :=
  left.snapshot.same right.snapshot && left.dirty == right.dirty &&
    left.selection == right.selection && left.currentDate == right.currentDate &&
    left.command == right.command

/-- A session.  Commands refer to the current date.  The history is kept oldest first and has a
largest number of entries; saved amounts end in the column, and `issued` labels were given to
bookings so far. -/
structure Session where
  snapshot : Snapshot
  today : Date
  currentDate : Date
  selection : Selection := {}
  dirty : Bool := false
  history : List HistoryEntry := []
  historyLimit : Nat
  amountColumn : Int
  issued : Nat
  deriving DecidableEq, Repr

/-- Why a command has no result.  `lostEntry` says that the entry which a failed command left is no
longer in the history; the limits are those of a history with fewer than no entries, or with more
than can be counted. -/
inductive SessionFailure where
  | command (fault : CommandFault)
  | write (fault : WriteFault)
  | ledger (failure : Failure)
  | lostEntry
  | negativeLimit
  | hugeLimit
  deriving DecidableEq, Repr

def SessionFailure.message : SessionFailure → Text
  | .command fault => fault.message
  | .write fault => fault.message
  | .ledger failure => failure.message
  | .lostEntry => "Undo entry of the failed command not found".toList
  | .negativeLimit => "maxlen must be non-negative".toList
  | .hugeLimit => "History limit out of range".toList

/-- The bound of the numbers that count the entries of a history. -/
def countBound : Int := Int.ofNat (1 <<< 63)

/-- The result of a command: what it has to say, the rows that it lists, the booking that it
calculated or deleted, and what was out of order. -/
structure Reply where
  command : CommandName
  message : Text := []
  rows : List ReportRow := []
  booking : Option Booking := none
  warnings : List Text := []
  deriving DecidableEq, Repr

namespace Session

def start (snapshot : Snapshot) (today : Date) (historyLimit amountColumn : Int) :
    Except SessionFailure Session :=
  if historyLimit < -countBound ∨ countBound ≤ historyLimit then .error .hugeLimit
  else if historyLimit < 0 then .error .negativeLimit
  else
    .ok
      { snapshot
        today
        currentDate := today
        historyLimit := historyLimit.toNat
        amountColumn
        issued := snapshot.entries.length }

/-- The last elements of a list, at most so many. -/
def keepLast {α : Type} (limit : Nat) (entries : List α) : List α :=
  entries.drop (entries.length - limit)

def entryFor (session : Session) (command : CommandName) : HistoryEntry :=
  { snapshot := session.snapshot
    dirty := session.dirty
    selection := session.selection
    currentDate := session.currentDate
    command }

/-- The session with an entry for a command; the oldest entry makes room for it
if need be. -/
def push (session : Session) (command : CommandName) : Session :=
  { session with
    history := keepLast session.historyLimit (session.history ++ [session.entryFor command]) }

/-- A list without the first element that is like the given one; absent when
none is. -/
def dropFirst? {α : Type} (related : α → α → Bool) (wanted : α) : List α → Option (List α)
  | [] => none
  | entry :: rest =>
    if related entry wanted then some rest
    else (dropFirst? related wanted rest).map (entry :: ·)

/-- Adds a booking under a label of its own; the label is part of the answer. -/
def enter (session : Session) (date : Date) (booking : Booking) : Outcome (Text × Session) :=
  let label := Chapter.labelOf session.issued
  (session.snapshot.add date { booking with label }).map fun snapshot =>
    (label, { session with snapshot, issued := session.issued + 1 })

def withSnapshot (session : Session) (snapshot : Snapshot) : Session :=
  { session with snapshot }

end Session
end Daybook
