import Daybook.Program.Host
import Daybook.Report.Grid
import Daybook.Session.Execute

namespace Daybook

/-!
# Conversations

In a conversation the program asks for a line, carries out the command on it and
shows the result, until a line asks to leave or there are no more lines.  Faults of
a command are reported and do not end the conversation.
-/

open Calendar

/-- A session that is talked to, with the path that it saves to and the format of its reports. -/
structure Conversation where
  session : Session
  path : Path
  format : ReportRow.Format
  deriving Repr

namespace Conversation

/-- What is shown when a line is asked for. -/
def prompt : Text := "coinjar> ".toList

def leavingWords : List Text := ["quit".toList, "q".toList, "exit".toList]

/-- Whether the message of a command says that something was done. -/
def announces : CommandName → Bool
  | .save | .openAccount | .delete | .undo => true
  | .split | .register | .date | .accounts | .inspect => false

def messageLines (command : CommandName) (message : Text) : Text :=
  if message.isEmpty then []
  else if announces command then Terminal.successLine message
  else Terminal.printedPlain message ++ ['\n']

def replyLines (format : ReportRow.Format) (reply : Reply) : Text :=
  reply.warnings.flatMap Terminal.warningLine ++ messageLines reply.command reply.message ++
    if reply.rows.isEmpty then [] else ReportRow.render format none reply.rows

/-- The wording of a fault that is reported; absent for one that ends the program. -/
def reported? : SessionFailure → Option Text
  | .command fault => some fault.message
  | .write fault => some fault.message
  | .ledger failure@(.ledger _) | .ledger failure@(.currencyMismatch ..) => some failure.message
  | .ledger _ | .lostEntry | .negativeLimit | .hugeLimit => none

variable {m : Type → Type} [Monad m]

/-- Carries out a command line.  A command writes at most once: what it would
write is found by giving it a device that takes everything, and then it is carried
out with the answer that writing gave. -/
def carryOut (host : Host m) (talk : Conversation) (line : Text) : m Session.Answer := do
  let target := talk.path.toText
  let attempt (result : Except WriteFault Unit) :=
    talk.session.execute (some (Device.answering target result)) none line
  match attempt (.ok ()) with
  | (answer, none) => return answer
  | (_, some text) =>
    let result ← host.save talk.path text
    return (attempt result).1

/-- Answers a line; none when it asks to leave. -/
def answer (host : Host m) (talk : Conversation) (line : Text) : Task m (Option Conversation) := do
  let command := Text.strip line
  if command.isEmpty then return some talk
  if leavingWords.contains command then return none
  let (result, session) ← (carryOut host talk command : m Session.Answer)
  match result with
  | .ok reply => host.out (replyLines talk.format reply)
  | .error failure =>
    match reported? failure with
    | some message => host.err (Terminal.errorLine message)
    | none => throw (.escaped (.session failure))
  return some { talk with session }

def close (host : Host m) (talk : Conversation) : Task m Unit := do
  if talk.session.dirty then host.out (Terminal.infoLine "Unsaved changes discarded.".toList)

/-- Answers lines until one asks to leave or none is left. -/
def answerAll (host : Host m) (talk : Conversation) : List Text → Task m Conversation
  | [] => do
    host.out prompt
    return talk
  | line :: rest => do
    host.out prompt
    match ← answer host talk line with
    | none => return talk
    | some next => answerAll host next rest

end Conversation
end Daybook
