import Daybook.Calendar.Reference
import Daybook.Program.Arguments
import Daybook.Report.Grid
import Daybook.Storage.Path

namespace Daybook

/-!
# What a command line asks for

A command line names a command, with preferences in front of it and the command's
own words behind it.  The words behind are read only after the settings, because
a fault of the settings comes first.
-/

open Unicode

/-- The options in front of the command. -/
inductive Preference where
  | ledger
  | verbose
  | format
  | today
  | help
  deriving DecidableEq, Repr

/-- The commands of the program. -/
inductive Verb where
  | format
  | contact
  | accounts
  | register
  | converse
  deriving DecidableEq, Repr

/-- The options of commands: to write the ledger instead of printing it, to report on all
movements, and to show how the command is used. -/
inductive VerbOption where
  | write
  | all
  | help
  deriving DecidableEq, Repr

/-- A command with its operands.  The ledger is printed in its canonical form or written; a report
is on the debts of a contact or on all its movements, on the accounts, or on the register or what
matches a text in it. -/
inductive Action where
  | format (write : Bool)
  | contact (name : Text) (all : Bool)
  | accounts
  | register (matcher : Option Text)
  | converse
  deriving DecidableEq, Repr

/-- What a command line asks for: the preferences, the command and its words. -/
structure Invocation where
  ledger : Option Path := none
  format : ReportRow.Format := .grid
  today : Option Calendar.Date := none
  verb : Verb
  words : List Text := []
  deriving Repr

namespace Verb

def all : List (Text × Verb) :=
  [("fmt".toList, .format), ("contact".toList, .contact), ("accns".toList, .accounts),
    ("reg".toList, .register), ("repl".toList, .converse)]

def ofWord? (word : Text) : Option Verb :=
  (all.find? fun entry => entry.1 == word).map (·.2)

def helpWord : Text := "--help".toList

def options : Verb → List (KnownOption VerbOption)
  | .format =>
    [{ meaning := .write, long := "--write".toList, letter := some 'w' },
      { meaning := .help, long := helpWord }]
  | .contact =>
    [{ meaning := .all, long := "--all".toList, letter := some 'a' },
      { meaning := .help, long := helpWord }]
  | .accounts | .register | .converse => [{ meaning := .help, long := helpWord }]

end Verb

namespace Action

def ofArguments (verb : Verb) (arguments : Arguments VerbOption) : Except UsageFault Action :=
  match verb, arguments.operands with
  | .format, [] => .ok (.format (arguments.has .write))
  | .contact, [] => .error .missingOperand
  | .contact, [name] => .ok (.contact name (arguments.has .all))
  | .accounts, [] => .ok .accounts
  | .register, [] => .ok (.register none)
  | .register, [matcher] => .ok (.register (some matcher))
  | .converse, [] => .ok .converse
  | _, _ => .error .extraOperands

/-- The action of a command with its words; none when they ask for help. -/
def ofWords (verb : Verb) (words : List Text) : Except UsageFault (Option Action) := do
  let arguments ← Arguments.ofWords verb.options true words
  if arguments.has .help then return none
  return some (← ofArguments verb arguments)

end Action

namespace Invocation

def preferences : List (KnownOption Preference) :=
  [{ meaning := .ledger, long := "--ledger".toList, letter := some 'f', takesValue := true },
    { meaning := .verbose, long := "--verbose".toList, letter := some 'v' },
    { meaning := .format, long := "--format".toList, letter := some 'o', takesValue := true },
    { meaning := .today, long := "--today".toList, takesValue := true },
    { meaning := .help, long := Verb.helpWord }]

def formats : List (Text × ReportRow.Format) :=
  [("table".toList, .grid), ("json".toList, .json), ("csv".toList, .records)]

/-- A text in which letters that differ only in case, or in the shape of the letter
s, are the same. -/
def folded (text : Text) : Text :=
  (lower text).map fun c => if c == 'ſ' then 's' else c

/-- The format that a value names, in any letter case. -/
def formatOf : Option Text → Except UsageFault ReportRow.Format
  | none => .ok .grid
  | some value =>
    match formats.find? fun entry => entry.1 == folded value with
    | some (_, format) => .ok format
    | none => .error (.badValue value)

def todayOf : Option Text → Except UsageFault (Option Calendar.Date)
  | none => .ok none
  | some value =>
    match Calendar.Reference.absolute? '-' value with
    | some date => .ok (some date)
    | none => .error (.badValue value)

/-- What the words of a command line ask for; none when they ask for help. -/
def ofWords (words : List Text) : Except UsageFault (Option Invocation) := do
  let arguments ← Arguments.ofWords preferences false words
  if arguments.has .help then return none
  let format ← formatOf (arguments.value? .format)
  let today ← todayOf (arguments.value? .today)
  match arguments.operands with
  | [] => throw .missingCommand
  | name :: rest =>
    match Verb.ofWord? name with
    | none => throw (.unknownCommand name)
    | some verb =>
      return some
        { ledger := (arguments.value? .ledger).map Path.ofText
          format
          today
          verb
          words := rest }

end Invocation
end Daybook
