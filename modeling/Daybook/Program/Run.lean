import Daybook.Ledger.Load
import Daybook.Program.Conversation
import Daybook.Program.Invocation

namespace Daybook
namespace Program

/-!
# Running the program

The program reads its settings, loads the ledger and carries out one action.  A
fault of the ledger or of its file is reported with status 1; failures of other
kinds, and all faults of the settings, end the program as they are.
-/

open Calendar

variable {m : Type → Type} [Monad m]

/-- What an action works with. -/
structure Workplace where
  path : Path
  settings : Settings
  format : ReportRow.Format
  today : Date
  snapshot : Snapshot

/-- The wording for the case that no ledger is named. -/
def noLedger : Text :=
  ("No ledger file. Pass --ledger, set COINJAR_LEDGER " ++
    "or add ledger_path to the config file").toList

/-- The line that reports a failure of the ledger at a path; absent for one that is
not reported. -/
def failureLine? (path : Path) : Failure → Option Text
  | .ledger fault =>
    some
      (Terminal.ledgerErrorLine path.toText (fault.line.map Text.ofNat)
        (fault.column.map Text.ofNat) fault.cause.message)
  | .arithmetic _ | .dateRange | .leftover | .unknownBooking _ => none
  | failure => some (Terminal.errorLine failure.message)

/-- The result of an operation on the ledger whose failure is reported. -/
def orReport {α : Type} (host : Host m) (path : Path) (outcome : Outcome α) : Task m α :=
  match outcome with
  | .ok value => pure value
  | .error failure =>
    match failureLine? path failure with
    | some line => host.fail line
    | none => throw (.escaped (.ledger failure))

def settings (host : Host m) : Task m Settings := do
  let environment ← host.environment
  let content ← match Settings.filePath environment with
    | .ok path => host.read path
    | .error _ => pure (.error .missing)
  match Settings.load environment fun _ => content with
  | .ok settings => return settings
  | .error fault => throw (.escaped (.settings fault))

def ledgerText (host : Host m) (path : Path) : Task m Text := do
  match ← host.read path with
  | .error fault => host.fail (Terminal.errorLine (fault.message path))
  | .ok bytes =>
    match Encoding.readText bytes with
    | .ok text => return text
    | .error defect => host.fail (Terminal.errorLine defect.message)

/-- The present day, as it is given or as the host has it. -/
def presentDay (host : Host m) (given : Option Date) : Task m Date :=
  match given with
  | some date => pure date
  | none => host.today

def openLedger (host : Host m) (invocation : Invocation) (settings : Settings) :
    Task m Workplace := do
  match invocation.ledger.or settings.ledger with
  | none => host.fail (Terminal.errorLine noLedger)
  | some path =>
    let text ← ledgerText host path
    let today ← presentDay host invocation.today
    let snapshot ← orReport host path (Snapshot.load text (some today) settings.strict)
    return { path, settings, format := invocation.format, today, snapshot }

/-- Prints the ledger in its canonical form, or writes it. -/
def formatLedger (host : Host m) (place : Workplace) (write : Bool) : Task m Unit := do
  let text ← Host.orEscape (place.snapshot.format place.settings.amountColumn)
  if write then
    match ← host.save place.path text with
    | .ok () => host.out (Terminal.successLine ("Formatted ".toList ++ place.path.toText))
    | .error fault => host.fail (Terminal.errorLine fault.message)
  else host.out (Terminal.dropCommands text)

def reportContact (host : Host m) (place : Workplace) (operand : Text) (all : Bool) :
    Task m Unit := do
  let name := Account.dropMark operand
  if !place.snapshot.contactNames.contains name then
    host.fail (Terminal.errorLine ("Unknown contact: ".toList ++ name))
  let rows := place.snapshot.contactRows name all
  if rows.isEmpty then
    host.out
      (Terminal.infoLine
        ("No debt movements for ".toList ++ name ++ "; use --all to see everything.".toList))
  else
    let shown ← Host.orEscape (ReportRow.ofContact place.snapshot.registry rows)
    host.out (ReportRow.render place.format (some (Account.contactMark :: name)) shown)

def reportAccounts (host : Host m) (place : Workplace) : Task m Unit := do
  let shown ← Host.orEscape (ReportRow.accounts place.snapshot)
  host.out (ReportRow.render place.format (some "Accounts".toList) shown)

def reportRegister (host : Host m) (place : Workplace) (matcher : Option Text) : Task m Unit := do
  let rows ← Host.orEscape (place.snapshot.register matcher none)
  let shown ← Host.orEscape (ReportRow.ofRegister place.snapshot.registry rows)
  host.out (ReportRow.render place.format (some "Register".toList) shown)

/-- How a conversation is held: from its beginning to its end. -/
abbrev Talk (m : Type → Type) := Conversation → Task m Conversation

def converse (host : Host m) (talk : Talk m) (place : Workplace) : Task m Unit := do
  match
    Session.start place.snapshot place.today place.settings.historyLimit
      place.settings.amountColumn
  with
  | .error failure => throw (.escaped (.session failure))
  | .ok session =>
    let ended ← talk { session, path := place.path, format := place.format }
    ended.close host

def act (host : Host m) (talk : Talk m) (place : Workplace) : Action → Task m Unit
  | .format write => formatLedger host place write
  | .contact name all => reportContact host place name all
  | .accounts => reportAccounts host place
  | .register matcher => reportRegister host place matcher
  | .converse => converse host talk place

/-- The first words of every answer to a command line that is refused or asks for
help. -/
def usage : Text :=
  "Usage: coinjar [OPTIONS] fmt|contact|accns|reg|repl [ARGS]...\n".toList

/-- The words of a command line as they were read, unless they are refused. -/
def orUsage {α : Type} (host : Host m) : Except UsageFault (Option α) → Task m α
  | .ok (some value) => pure value
  | .ok none => do
    host.out usage
    throw (.status 0)
  | .error _ => do
    host.err usage
    throw (.status usageStatus)

/-- The whole program for the words of a command line. -/
def task (host : Host m) (talk : Talk m) (words : List Text) : Task m Unit := do
  let invocation ← orUsage host (Invocation.ofWords words)
  let settings ← settings host
  let action ← orUsage host (Action.ofWords invocation.verb invocation.words)
  act host talk (← openLedger host invocation settings) action

def run (host : Host m) (talk : Talk m) (words : List Text) : m Ending := do
  match ← (task host talk words).run with
  | .ok () => return .status 0
  | .error ending => return ending

end Program
end Daybook
