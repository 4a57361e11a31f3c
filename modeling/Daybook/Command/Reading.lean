import Daybook.Command.Basic

namespace Daybook
namespace Command

/-!
# Reading command lines

The first word of a line names the command.  The words of a split are grouped by
the keyword that precedes them; then every argument is judged by itself, and all
faults are told together in the order of the arguments.
-/

open Calendar

/-- The words that group the arguments of a split.  An even split has contacts, and one of them may
be charged instead. -/
inductive Keyword where
  | payer
  | expense
  | purpose
  | contacts
  | charged
  deriving DecidableEq, Repr

namespace Keyword

def word : Keyword → Text
  | .payer => "on".toList
  | .expense => "to".toList
  | .purpose => "for".toList
  | .contacts => "with".toList
  | .charged => "by".toList

def ofWord? (typed : Text) : Option Keyword :=
  [payer, expense, purpose, contacts, charged].find? fun keyword => keyword.word == typed

end Keyword

/-- The words of a split in groups: those before any keyword, and those behind each. -/
structure Groups where
  money : List Text := []
  behind : Table Keyword (List Text) := []

namespace Groups

/-- The groups with one more word at the end of the given one. -/
def addWord (groups : Groups) (current : Option Keyword) (word : Text) : Groups :=
  match current with
  | none => { groups with money := groups.money ++ [word] }
  | some keyword =>
    let words := (groups.behind.get? keyword).getD []
    { groups with behind := groups.behind.put keyword (words ++ [word]) }

/-- Groups words, given the keyword behind which they stand. -/
def ofWords (groups : Groups) (current : Option Keyword) : List Text → Except CommandFault Groups
  | [] => .ok groups
  | word :: rest =>
    match Keyword.ofWord? word with
    | none => ofWords (groups.addWord current word) current rest
    | some keyword =>
      if groups.behind.has keyword then .error (.repeatedKeyword word)
      else ofWords { groups with behind := groups.behind.put keyword [] } (some keyword) rest

/-- The words behind a keyword as one text. -/
def phrase? (groups : Groups) (keyword : Keyword) : Option Text :=
  (groups.behind.get? keyword).map (Text.join [' '])

end Groups

def readAccount (text : Text) : Except ArgumentFault Account :=
  match Account.ofText text with
  | .ok account => .ok account
  | .error fault => .error (.account fault.cause)

/-- The names of contacts with their marks; commas behind them are dropped. -/
def readContacts : List Text → Except ArgumentFault (List Text)
  | [] => .ok []
  | item :: rest =>
    let bare := ((Text.strip item).reverse.dropWhile (· == ',')).reverse
    match Account.markedName? bare with
    | some (c :: name) => (readContacts rest).map ((c :: name) :: ·)
    | _ => .error (.contact bare)

def readSomeContacts (items : List Text) : Except ArgumentFault (List Text) :=
  if items.isEmpty then .error .emptyList else readContacts items

/-- The amount of a split, which may not be empty. -/
def readMoney (text : Text) : Except ArgumentFault Text :=
  if text.isEmpty then .error .emptyText else .ok text

/-- The fault of an argument, if it has one. -/
def faultOf? {α : Type} : Except ArgumentFault α → Option ArgumentFault
  | .ok _ => none
  | .error fault => some fault

/-- The account of the expense when none is given. -/
def defaultExpense : Account := ⟨"expense".toList⟩

def judgeSplit (groups : Groups) (mode : SplitMode) (items : List Text) :
    Except CommandFault Command :=
  let money := readMoney (Text.join [' '] groups.money)
  let payer := match groups.phrase? .payer with
    | some text => readAccount text
    | none => .error .required
  let expense := match groups.phrase? .expense with
    | some text => readAccount text
    | none => .ok defaultExpense
  let contacts := readSomeContacts items
  match money, payer, expense, contacts with
  | .ok money, .ok payer, .ok expense, .ok contacts =>
    let description := (groups.phrase? .purpose).getD []
    .ok (.split { money, payer, expense, description, mode, contacts })
  | money, payer, expense, contacts =>
    .error (.arguments .split
      ([faultOf? money, faultOf? payer, faultOf? expense, faultOf? contacts].filterMap id))

def readSplit (words : List Text) : Except CommandFault Command := do
  let groups ← Groups.ofWords {} none words
  match groups.behind.get? .contacts, groups.behind.get? .charged with
  | some _, some _ => .error .bothModes
  | _, some [item] => judgeSplit groups .charged [item]
  | _, some _ => .error .oneContact
  | contacts, none => judgeSplit groups .even (contacts.getD [])

/-- Reads the argument of a command that changes the date. -/
def readDate (text : Text) : Except CommandFault Command :=
  match Reference.ofText text with
  | .ok reference => .ok (.date (some (text, reference)))
  | .error fault => .error (.arguments .date [.date fault])

/-- Reads the arguments of a command that takes at most one. -/
def readOptional (name : CommandName) (typed : Text) (read : Option Text → Except CommandFault Command) :
    List Text → Except CommandFault Command
  | [] => read none
  | [word] => read (some word)
  | _ => .error (.severalArguments name typed)

/-- Refuses the arguments of a command that takes none. -/
def readBare (command : Command) (typed : Text) : List Text → Except CommandFault Command
  | [] => .ok command
  | _ => .error (.anyArguments command.name typed)

/-- Reads the arguments of a command whose name was typed in a certain way. -/
def readArguments (name : CommandName) (typed : Text) (words : List Text) :
    Except CommandFault Command :=
  match name with
  | .split => readSplit words
  | .register => readOptional name typed (fun matcher => .ok (.register matcher)) words
  | .date =>
    readOptional name typed
      (fun
        | none => .ok (.date none)
        | some text => readDate text)
      words
  | .openAccount =>
    if words.isEmpty then .error .missingAccount
    else
      match readAccount (Text.join [' '] words) with
      | .ok account => .ok (.openAccount account)
      | .error fault => .error (.arguments name [fault])
  | .accounts => readBare .accounts typed words
  | .save => readBare .save typed words
  | .delete => readBare .delete typed words
  | .undo => readBare .undo typed words
  | .inspect => readBare .inspect typed words

def ofText (line : Text) : Except CommandFault Command :=
  match CommandLine.words line with
  | .error fault => .error (.words line fault)
  | .ok [] => .error .empty
  | .ok (typed :: words) =>
    match CommandName.ofWord? typed with
    | some name => readArguments name typed words
    | none => .error (.unknown typed)

end Command
end Daybook
