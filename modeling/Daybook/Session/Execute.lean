import Daybook.Booking.Resolution
import Daybook.Command.Reading
import Daybook.Session.Basic

namespace Daybook
namespace Session

/-!
# Carrying out commands

Every command answers with its result and with the session that it leaves
behind, also when it fails: a question whose rows cannot be shown has made its
selection already, and a booking that cannot be removed has left its entry in the
history.
-/

open Calendar

/-- The result of a command and the session after it. -/
abbrev Answer := Except SessionFailure Reply × Session

/-- An operation on the ledger as part of a command. -/
def ofOutcome {α : Type} : Outcome α → Except SessionFailure α
  | .ok value => .ok value
  | .error failure => .error (.ledger failure)

/-- An operation of the split calculator: a fault of the ledger is one of the
command. -/
def ofCalculation {α : Type} : Outcome α → Except SessionFailure α
  | .ok value => .ok value
  | .error (.ledger fault) => .error (.command (.ledger fault.cause))
  | .error failure => .error (.ledger failure)

/-- The booking of a split request, resolved, and the registry it is printed
with. -/
def calculate (registry : Registry) (request : SplitRequest) : Outcome (Booking × Registry) :=
  match Money.ofText request.money registry with
  | (.error failure, _) => .error failure
  | (.ok parsed, known) => do
    let money ← parsed.checkPrecision known
    let funding ← money.neg
    let description :=
      if request.description.isEmpty then CommandName.split.word else request.description
    let booking : Booking :=
      { description
        postings :=
          [{ account := request.payer, money := some funding }, { account := request.expense }]
        split := some ⟨request.mode, request.contacts⟩ }
    return (← booking.resolve known, known)

/-- Calculates a split without entering it into the ledger. -/
def split (session : Session) (request : SplitRequest) : Except SessionFailure Reply := do
  let (booking, registry) ← ofCalculation (calculate session.snapshot.registry request)
  let lines ← ofOutcome (booking.toLines registry session.amountColumn)
  return { command := .split, message := Text.join ['\n'] lines, booking := some booking }

/-- Lists the postings that match and selects their bookings. -/
def register (session : Session) (matcher : Option Text) : Answer :=
  match session.snapshot.register matcher none with
  | .error failure => (.error (.ledger failure), session)
  | .ok rows =>
    let labels := session.snapshot.matching matcher none
    let after := { session with selection := { matcher, labels } }
    ((ofOutcome (ReportRow.ofRegister session.snapshot.registry rows)).map fun rows =>
        { command := .register
          message := Text.ofNat labels.length ++ " bookings matched".toList
          rows },
      after)

/-- Lists the postings of a date and selects their bookings. -/
def showDate (session : Session) (date : Date) : Answer :=
  let labels := session.snapshot.matching none (some date)
  let after := { session with currentDate := date, selection := { on := some date, labels } }
  ((ofOutcome (do
      ReportRow.ofRegister session.snapshot.registry
        (← session.snapshot.register none (some date)))).map
      fun rows => { command := .date, message := date.toText, rows },
    after)

/-- Moves to the date that is referred to, if one is, and shows it. -/
def date (session : Session) (argument : Option (Text × Reference)) : Answer :=
  match argument with
  | none => session.showDate session.currentDate
  | some (text, reference) =>
    match reference.resolve? session.currentDate session.today with
    | some date => session.showDate date
    | none => (.error (.command (.dateRange text)), session)

def openAccount (session : Session) (account : Account) : Answer :=
  let pushed := session.push .openAccount
  if session.snapshot.knows account then
    (.ok
        { command := .openAccount
          message := account.name
          warnings := ["Account ".toList ++ account.name ++ " already exists".toList] },
      pushed)
  else
    (.ok { command := .openAccount, message := "Opened ".toList ++ account.name },
      { pushed with snapshot := session.snapshot.openAccount account, dirty := true })

/-- Writes the ledger.  When that fails, the first entry of the history that is
like the one just made is taken out again. -/
def save {σ : Type} (session : Session) (device : Option (Device σ)) (state : σ) : Answer × σ :=
  match device with
  | none => ((.error (.command .noTarget), session), state)
  | some device =>
    match session.snapshot.format session.amountColumn with
    | .error failure => ((.error (.ledger failure), session), state)
    | .ok text =>
      let pushed := session.push .save
      match device.write state text with
      | (.ok (), written) =>
        ((.ok { command := .save, message := "Saved to ".toList ++ device.target },
            { pushed with dirty := false }),
          written)
      | (.error fault, attempted) =>
        match dropFirst? HistoryEntry.same (session.entryFor .save) pushed.history with
        | some history => ((.error (.write fault), { pushed with history }), attempted)
        | none => ((.error .lostEntry, pushed), attempted)

/-- Deletes the booking selected last. -/
def delete (session : Session) : Answer :=
  match session.selection.labels.getLast? with
  | none => (.error (.command .noSelection), session)
  | some label =>
    match Chapter.find? label session.snapshot.chapters with
    | none => (.error (.command .lostSelection), session)
    | some (date, booking) =>
      let pushed := session.push .delete
      match session.snapshot.remove label with
      | .error failure => (.error (.ledger failure), pushed)
      | .ok (_, snapshot) =>
        (.ok
            { command := .delete
              message :=
                "Deleted ".toList ++ Text.quoted booking.description ++ " on ".toList ++ date.toText
              booking := some booking },
          { pushed with
            snapshot
            selection := { session.selection with labels := session.selection.labels.dropLast }
            dirty := true })

/-- Takes back the last command that is in the history. -/
def undo (session : Session) : Reply × Session :=
  match session.history.getLast? with
  | none => ({ command := .undo, warnings := ["Nothing to undo".toList] }, session)
  | some entry =>
    ({ command := .undo, message := "Undid ".toList ++ entry.command.word },
      { session with
        snapshot := entry.snapshot
        dirty := entry.dirty
        selection := entry.selection
        currentDate := entry.currentDate
        history := session.history.dropLast })

/-- A text, or a hyphen in place of none and of the empty one. -/
def orHyphen (text : Option Text) : Text :=
  match text with
  | none | some [] => ['-']
  | some shown => shown

def inspect (session : Session) (target : Option Text) : Reply :=
  { command := .inspect
    message :=
      Text.join ['\n']
        ["date: ".toList ++ session.currentDate.toText,
          "file: ".toList ++ target.getD ['-'],
          "dirty: ".toList ++ (if session.dirty then "yes".toList else "no".toList),
          "history: ".toList ++ Text.ofNat session.history.length ++
            '/' :: Text.ofNat session.historyLimit,
          "matcher: ".toList ++ orHyphen session.selection.matcher,
          "on: ".toList ++ orHyphen (session.selection.on.map (·.toText)),
          "selected: ".toList ++ Text.ofNat session.selection.labels.length ++
            " bookings".toList] }

def run {σ : Type} (session : Session) (device : Option (Device σ)) (state : σ) :
    Command → Answer × σ
  | .split request => ((session.split request, session), state)
  | .register matcher => (session.register matcher, state)
  | .date argument => (session.date argument, state)
  | .accounts =>
    (((ofOutcome (ReportRow.accounts session.snapshot)).map fun rows =>
        { command := .accounts, rows }, session), state)
  | .openAccount account => (session.openAccount account, state)
  | .save => session.save device state
  | .delete => (session.delete, state)
  | .undo =>
    let (reply, after) := session.undo
    ((.ok reply, after), state)
  | .inspect => ((.ok (session.inspect (device.map (·.target))), session), state)

def execute {σ : Type} (session : Session) (device : Option (Device σ)) (state : σ) (line : Text) :
    Answer × σ :=
  match Command.ofText line with
  | .ok command => session.run device state command
  | .error fault => ((.error (.command fault), session), state)

end Session
end Daybook
