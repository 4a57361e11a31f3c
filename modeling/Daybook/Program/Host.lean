import Daybook.Session.Basic
import Daybook.Settings.File

namespace Daybook

/-!
# What the program works in

The program reads and saves files, writes to two outputs and asks for the
environment and the present day.  A host says what these are: the machine that the
program runs on, or one that is only a value.  Nothing else of the program depends
on it.
-/

open Calendar

/-- The surroundings of the program: the variables of the environment, the present day, files, and
the outputs for answers and for errors. -/
structure Host (m : Type → Type) where
  environment : m Environment
  today : m Date
  read : Path → m (Except AccessFault Bytes)
  save : Path → Text → m (Except WriteFault Unit)
  out : Text → m Unit
  err : Text → m Unit

/-- A failure that the program does not report in its own words: there are no settings, or an
operation on the ledger or a session fails. -/
inductive Escape where
  | settings (fault : SettingsFault)
  | ledger (failure : Failure)
  | session (failure : SessionFailure)
  deriving DecidableEq, Repr

def Escape.message : Escape → Text
  | .settings fault => fault.message
  | .ledger failure => failure.message
  | .session failure => failure.message

/-- How the program ends: with a status, zero when all went well, or with a failure. -/
inductive Ending where
  | status (code : Nat)
  | escaped (cause : Escape)
  deriving DecidableEq, Repr

/-- A part of the program; it may end the whole. -/
abbrev Task (m : Type → Type) := ExceptT Ending m

/-- The status after a fault that was reported. -/
def faultStatus : Nat := 1

/-- The status after a command line that is refused. -/
def usageStatus : Nat := 2

namespace Host

variable {m : Type → Type} [Monad m] {α : Type}

/-- Writes to the output for errors and ends the program. -/
def fail (host : Host m) (line : Text) : Task m α := do
  host.err line
  throw (.status faultStatus)

/-- The result of an operation whose failure is not reported. -/
def orEscape (outcome : Outcome α) : Task m α :=
  match outcome with
  | .ok value => pure value
  | .error failure => throw (.escaped (.ledger failure))

end Host
end Daybook
