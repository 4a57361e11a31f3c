import Daybook.Error
import Daybook.Unicode.Case
import Daybook.Unicode.Word

namespace Daybook

/-!
# Accounts

An account is a path of segments.  A segment is made of words with one space
between neighbours; its first word may carry the mark of a contact.  The first
segment of a path says what kind of account it is, and accounts of two of the
kinds hold debts.
-/

open Unicode

/-- An account, known by its path: the segments with a stroke between neighbours. -/
structure Account where
  name : Text
  deriving DecidableEq, Repr

/-- The kinds of accounts. -/
inductive AccountType where
  | asset
  | liability
  | equity
  | income
  | expense
  deriving DecidableEq, Repr

def AccountType.word : AccountType → Text
  | .asset => "asset".toList
  | .liability => "liability".toList
  | .equity => "equity".toList
  | .income => "income".toList
  | .expense => "expense".toList

/-- The kind of account that a first segment names, in any letter case; three
of the kinds may stand in the plural. -/
def AccountType.ofRoot? (root : Text) : Option AccountType :=
  lookupWord
    [("asset", .asset), ("assets", .asset), ("liability", .liability),
      ("liabilities", .liability), ("equity", .equity), ("income", .income),
      ("expense", .expense), ("expenses", .expense)]
    (lower root)
where
  lookupWord (words : List (String × AccountType)) (wanted : Text) : Option AccountType :=
    (words.find? fun entry => entry.1.toList == wanted).map (·.2)

namespace Account

def stroke : Char := '/'

def contactMark : Char := '@'

/-- Whether a character may stand in a word of a segment. -/
def isNameChar (c : Char) : Bool := isWord c || c == '-'

def isNameWord (word : Text) : Bool := !word.isEmpty && word.all isNameChar

/-- A text without one leading mark of a contact. -/
def dropMark : Text → Text
  | [] => []
  | c :: rest => if c == contactMark then rest else c :: rest

def isSegment : List Text → Bool
  | [] => false
  | first :: rest => isNameWord (dropMark first) && rest.all isNameWord

/-- Reads the segments of a path, of which the first begins at the given
column. -/
def readSegments (path : Text) (line : Option Nat) : Nat → List Text → Except LedgerFault (List Text)
  | _, [] => .ok []
  | column, raw :: rest =>
    let words := Text.words raw
    if isSegment words then
      (readSegments path line (column + raw.length + 1) rest).map fun segments =>
        Text.join [' '] words :: segments
    else
      .error
        { cause := .malformedSegment (Text.strip raw) (Text.strip path)
          line
          column := some (column + (raw.takeWhile isBlank).length) }

/-- The account of a path; outer blanks of its segments are removed and inner
ones made one space.  The text begins at the given place. -/
def ofText (text : Text) (line : Option Nat := none) (column : Nat := 1) :
    Except LedgerFault Account :=
  (readSegments text line column (Text.splitOn stroke text)).map fun segments =>
    ⟨Text.join [stroke] segments⟩

/-- The account of a contact between a first and a last segment. -/
def ofContact (root contact leaf : Text) : Account :=
  ⟨Text.join [stroke] [root, contactMark :: contact, leaf]⟩

def segments (account : Account) : List Text :=
  Text.splitOn stroke account.name

def markedName? : Text → Option Text
  | [] => none
  | c :: rest => if c == contactMark then some rest else none

/-- The contact that the first marked segment names. -/
def contact? (account : Account) : Option Text :=
  account.segments.findSome? markedName?

/-- The kind of the account, if its first segment names one. -/
def type? (account : Account) : Option AccountType :=
  account.segments.head?.bind AccountType.ofRoot?

/-- Whether the account holds a debt, in either direction. -/
def isDebt (account : Account) : Bool :=
  match account.type? with
  | some .asset | some .liability => true
  | _ => false

end Account
end Daybook
