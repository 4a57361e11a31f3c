import Daybook.Booking.Basic
import Daybook.Calendar.Reference
import Daybook.Command.Words

namespace Daybook

/-!
# Commands

The commands of a session: questions about the ledger, a calculator for splits,
and the commands that open an account, delete a booking, save and undo.  What is
wrong with a command line is a cause with the name of the command, if one was
recognised.
-/

open Calendar

/-- The names of commands. -/
inductive CommandName where
  | split
  | register
  | date
  | accounts
  | openAccount
  | save
  | delete
  | undo
  | inspect
  deriving DecidableEq, Repr

namespace CommandName

def word : CommandName → Text
  | .split => "split".toList
  | .register => "reg".toList
  | .date => "date".toList
  | .accounts => "accns".toList
  | .openAccount => "open".toList
  | .save => "save".toList
  | .delete => "del".toList
  | .undo => "undo".toList
  | .inspect => "inspect".toList

def all : List CommandName :=
  [.split, .register, .date, .accounts, .openAccount, .save, .delete, .undo, .inspect]

/-- The command that a word stands for; some have other words too. -/
def ofWord? (typed : Text) : Option CommandName :=
  if typed = "register".toList then some .register
  else if typed = "write".toList ∨ typed = "w".toList then some .save
  else if typed = "ins".toList then some .inspect
  else all.find? fun name => name.word == typed

end CommandName

/-- A split to be calculated, with the amount as it was typed. -/
structure SplitRequest where
  money : Text
  payer : Account
  expense : Account
  description : Text
  mode : SplitMode
  contacts : List Text
  deriving DecidableEq, Repr

/-- A command with its arguments.  A register is asked for what matches a text, if one is given.  A
date is shown if none is given, and otherwise changed; the reference is kept with its text. -/
inductive Command where
  | split (request : SplitRequest)
  | register (matcher : Option Text)
  | date (argument : Option (Text × Reference))
  | accounts
  | openAccount (account : Account)
  | save
  | delete
  | undo
  | inspect
  deriving DecidableEq, Repr

def Command.name : Command → CommandName
  | .split _ => .split
  | .register _ => .register
  | .date _ => .date
  | .accounts => .accounts
  | .openAccount _ => .openAccount
  | .save => .save
  | .delete => .delete
  | .undo => .undo
  | .inspect => .inspect

/-- What is wrong with one argument.  A contact lacks its mark or its name. -/
inductive ArgumentFault where
  | required
  | emptyText
  | emptyList
  | account (cause : Cause)
  | contact (item : Text)
  | date (fault : ReferenceFault)
  deriving DecidableEq, Repr

namespace ArgumentFault

def referenceMessage : ReferenceFault → Text
  | .offset fault => fault.message
  | .malformed text => "Invalid date: ".toList ++ Text.quoted text

/-- The beginning of the wording when an argument has no acceptable value. -/
def valueError : Text := "Value error, ".toList

def message : ArgumentFault → Text
  | .required => "Field required".toList
  | .emptyText => "String should have at least 1 character".toList
  | .emptyList => "List should have at least 1 item after validation, not 0".toList
  | .account cause => valueError ++ cause.message
  | .contact item =>
    valueError ++ "Contact ".toList ++ Text.quoted item ++ " must start with ".toList ++
      Text.quoted [Account.contactMark]
  | .date fault => valueError ++ referenceMessage fault

end ArgumentFault

/-- Why a command line is refused.  A line has no words if its quotation is at fault.
`severalArguments` is about a command that takes one, `anyArguments` about a command that takes
none; `oneContact` is about a charged split that names none or several.  With `lostSelection` the
selected booking is gone. -/
inductive CommandFault where
  | words (line : Text) (fault : WordFault)
  | empty
  | unknown (typed : Text)
  | severalArguments (name : CommandName) (typed : Text)
  | anyArguments (name : CommandName) (typed : Text)
  | missingAccount
  | repeatedKeyword (keyword : Text)
  | bothModes
  | oneContact
  | arguments (name : CommandName) (faults : List ArgumentFault)
  | ledger (cause : Cause)
  | dateRange (argument : Text)
  | noTarget
  | noSelection
  | lostSelection
  deriving DecidableEq, Repr

namespace CommandFault

/-- The name of the command, as far as it is known. -/
def command? : CommandFault → Option Text
  | .words .. | .empty => none
  | .unknown typed => some typed
  | .severalArguments name _ | .anyArguments name _ | .arguments name _ => some name.word
  | .missingAccount => some CommandName.openAccount.word
  | .repeatedKeyword _ | .bothModes | .oneContact | .ledger _ => some CommandName.split.word
  | .dateRange _ => some CommandName.date.word
  | .noTarget => some CommandName.save.word
  | .noSelection | .lostSelection => some CommandName.delete.word

def message : CommandFault → Text
  | .words line fault =>
    "Cannot tokenize ".toList ++ Text.quoted line ++ ": ".toList ++ fault.message
  | .empty => "Empty command".toList
  | .unknown typed => "Unknown command ".toList ++ Text.quoted typed
  | .severalArguments _ typed => typed ++ " takes at most one argument".toList
  | .anyArguments _ typed => typed ++ " takes no arguments".toList
  | .missingAccount => "open needs an account".toList
  | .repeatedKeyword keyword =>
    "Keyword ".toList ++ Text.quoted keyword ++ " given twice".toList
  | .bothModes => "Use either \x27with\x27 or \x27by\x27, not both".toList
  | .oneContact => "\x27by\x27 takes exactly one contact".toList
  | .arguments name faults =>
    "Invalid ".toList ++ name.word ++ " arguments: ".toList ++
      Text.join "; ".toList (faults.map (·.message))
  | .ledger cause => cause.message
  | .dateRange argument => "Date out of range: ".toList ++ argument
  | .noTarget => "No ledger file to save to".toList
  | .noSelection => "No booking selected; use reg or date first".toList
  | .lostSelection => "Selected booking no longer exists".toList

end CommandFault
end Daybook
