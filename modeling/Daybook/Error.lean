import Daybook.Calendar.Date
import Daybook.Decimal.Arithmetic
import Daybook.Decimal.Printed

namespace Daybook

/-!
# What can go wrong with a ledger

A fault of a ledger is a cause, given with the texts and numbers it is about,
and the place in the text where it shows, if one is known.  The wording is a
function of the cause.  Besides faults, an operation can fail for reasons that
no ledger line explains: arithmetic without a result, a date outside the
calendar, a number too long to read.
-/

/-- The tags that a description may carry. -/
inductive Tag where
  | split
  | date
  deriving DecidableEq, Repr

def Tag.word : Tag → Text
  | .split => "split".toList
  | .date => "date".toList

/-- The families of ledger faults: `parse` is about dates, accounts, tags and lines, `money` about
amounts, and `conflict` about declarations that disagree. -/
inductive FaultKind where
  | parse
  | money
  | balance
  | inference
  | split
  | conflict
  deriving DecidableEq, Repr

/-- Why a ledger is refused.  An amount is `malformedMoney` if it has no accepted form at all.  A
currency is `redeclared` with other attributes; `designatorTaken` says that its code is the alias
of another currency, and `codeTaken` that its alias is in use. -/
inductive Cause where
  | malformedSegment (segment path : Text)
  | postingOutsideBooking
  | malformedHeader
  | relativeDate (word : Text)
  | malformedDate (line : Text)
  | impossibleDate (line : Text) (fault : Calendar.DateFault)
  | malformedDesignator (designator : Text)
  | unexpectedToken (token : Text)
  | bookingBeforeDate
  | missingDescription
  | missingPostings (description : Text)
  | repeatedTag (tag : Tag)
  | malformedOffset (argument : Option Text)
  | unknownTag (name : Text)
  | malformedMoney (text : Text)
  | repeatedSign (text : Text)
  | repeatedPoint (text : Text)
  | missingFraction (text : Text)
  | unknownCurrency (token : Text)
  | excessDecimals (amount : Decimal) (precision : Int) (designator : Text)
  | unbalanced (description : Text) (total : Decimal) (currency : Text)
  | severalBlanks (description : Text) (count : Nat)
  | noCurrency (description : Text)
  | severalCurrencies (description : Text) (count : Nat)
  | malformedParticipant (item : Text)
  | oneContact
  | noContacts
  | repeatedContact
  | splitAmongNobody (description : Text)
  | fundingPostings (description : Text) (count : Nat)
  | redeclared (designator : Text)
  | designatorTaken (designator owner : Text)
  | codeTaken (code owner designator : Text)
  deriving DecidableEq, Repr

namespace Cause

def kind : Cause → FaultKind
  | malformedMoney _ | repeatedSign _ | repeatedPoint _ | missingFraction _
  | unknownCurrency _ | excessDecimals .. => .money
  | unbalanced .. => .balance
  | severalBlanks .. | noCurrency _ | severalCurrencies .. => .inference
  | malformedParticipant _ | oneContact | noContacts | repeatedContact
  | splitAmongNobody _ | fundingPostings .. => .split
  | redeclared _ | designatorTaken .. | codeTaken .. => .conflict
  | _ => .parse

def money? : Cause → Option Text
  | malformedMoney text | repeatedSign text | repeatedPoint text | missingFraction text
  | unknownCurrency text => some text
  | excessDecimals amount .. => some amount.toText
  | _ => none

/-- The currency that does not balance and what is left over of it. -/
def imbalance? : Cause → Option (Text × Decimal)
  | unbalanced _ total currency => some (currency, total)
  | _ => none

/-- The designator whose declaration is in conflict. -/
def designator? : Cause → Option Text
  | redeclared designator | designatorTaken designator _ | codeTaken _ _ designator =>
    some designator
  | _ => none

/-- The beginning of the wording of a fault of inference. -/
def cannotInfer (description : Text) : Text :=
  "Cannot infer amount on ".toList ++ Text.quoted description ++ ": ".toList

def message : Cause → Text
  | malformedSegment segment path =>
    "Malformed account segment ".toList ++ Text.quoted segment ++ " in ".toList ++ Text.quoted path
  | postingOutsideBooking => "Posting outside of a booking".toList
  | malformedHeader => "Malformed currency header".toList
  | relativeDate word =>
    "Relative date ".toList ++ Text.quoted word ++ " needs a reference date".toList
  | malformedDate line =>
    "Malformed date ".toList ++ Text.quoted line ++ ", expected YYYY-MM-DD".toList
  | impossibleDate line fault =>
    "Malformed date ".toList ++ Text.quoted line ++ ": ".toList ++ fault.message
  | malformedDesignator designator =>
    "Malformed currency designator ".toList ++ Text.quoted designator
  | unexpectedToken token =>
    "Unexpected token ".toList ++ Text.quoted token ++ " in currency entry".toList
  | bookingBeforeDate => "Booking before any date line".toList
  | missingDescription => "Booking has no description".toList
  | missingPostings description =>
    "Booking ".toList ++ Text.quoted description ++ " has no postings".toList
  | repeatedTag tag => "Duplicate ".toList ++ tag.word ++ " annotation".toList
  | malformedOffset argument =>
    "date annotation expects a day offset, got ".toList ++
      (match argument with
        | some text => Text.quoted text
        | none => "None".toList)
  | unknownTag name => "Unknown annotation ".toList ++ Text.quoted name
  | malformedMoney text => "Not a money literal: ".toList ++ Text.quoted text
  | repeatedSign text => "Sign given twice in ".toList ++ Text.quoted text
  | repeatedPoint text => "Multiple decimal separators in ".toList ++ Text.quoted text
  | missingFraction text => "Missing fractional digits in ".toList ++ Text.quoted text
  | unknownCurrency token => "Unknown currency ".toList ++ Text.quoted token
  | excessDecimals amount precision designator =>
    "Amount ".toList ++ amount.toText ++ " has more than ".toList ++ Text.ofInt precision ++
      " decimals for currency ".toList ++ Text.quoted designator
  | unbalanced description total currency =>
    "Booking ".toList ++ Text.quoted description ++ " does not balance: ".toList ++
      total.toText ++ ' ' :: currency ++ " left over".toList
  | severalBlanks description count =>
    cannotInfer description ++ Text.ofNat count ++ " postings are missing a value".toList
  | noCurrency description => cannotInfer description ++ "no currency in play".toList
  | severalCurrencies description count =>
    cannotInfer description ++ Text.ofNat count ++ " currencies in play".toList
  | malformedParticipant item => "Malformed split participant ".toList ++ Text.quoted item
  | oneContact => "split(by ...) needs exactly one contact".toList
  | noContacts => "Split references no contacts".toList
  | repeatedContact => "Split lists a contact twice".toList
  | splitAmongNobody description =>
    "Split on ".toList ++ Text.quoted description ++ " references no contacts".toList
  | fundingPostings description count =>
    "Split on ".toList ++ Text.quoted description ++
      " needs exactly one funding posting, found ".toList ++ Text.ofNat count
  | redeclared designator =>
    "Currency ".toList ++ Text.quoted designator ++
      " already declared with different attributes".toList
  | designatorTaken designator owner =>
    "Currency code ".toList ++ Text.quoted designator ++ " already used by ".toList ++
      Text.quoted owner
  | codeTaken code owner _ =>
    "Currency code ".toList ++ Text.quoted code ++ " already used by ".toList ++ Text.quoted owner

end Cause

/-- A cause with the place where it shows; lines and columns count from one. -/
structure LedgerFault where
  cause : Cause
  line : Option Nat := none
  column : Option Nat := none
  deriving DecidableEq, Repr

namespace LedgerFault

/-- The fault at a place, unless it has one already. -/
def placedAt (fault : LedgerFault) (line column : Nat) : LedgerFault :=
  match fault.line with
  | some _ => fault
  | none => { fault with line := some line, column := some column }

def placeText (fault : LedgerFault) : Text :=
  match fault.line, fault.column with
  | none, _ => []
  | some line, none => " (line ".toList ++ Text.ofNat line ++ ")".toList
  | some line, some column =>
    " (line ".toList ++ Text.ofNat line ++ ", column ".toList ++ Text.ofNat column ++ ")".toList

def toText (fault : LedgerFault) : Text :=
  fault.cause.message ++ fault.placeText

end LedgerFault

/-- Why an operation on a ledger fails.  Apart from faults of the ledger, a computation with
numbers or dates may have no result, and a booking may be put to a use that it is not fit for:
amounts of two currencies are combined, an amount is divided into fewer than one part or with more
units left over than there are shares, a booking still has omitted amounts or a split, or no
booking has a label. -/
inductive Failure where
  | ledger (fault : LedgerFault)
  | arithmetic (signal : Decimal.Signal)
  | dateRange
  | integer (fault : IntegerFault)
  | currencyMismatch (left right : Text)
  | noParts (parts : Int)
  | leftover
  | unresolved (description : Text)
  | unknownBooking (label : Text)
  deriving DecidableEq, Repr

namespace Failure

/-- A failure for a cause whose place is not known. -/
def ofCause (cause : Cause) : Failure := .ledger { cause }

/-- The failure with a place, if it is a fault of the ledger without one. -/
def placedAt (line column : Nat) : Failure → Failure
  | .ledger fault => .ledger (fault.placedAt line column)
  | other => other

end Failure

/-- The greatest length of a quoted text in the wording of a fault of a number. -/
def quotationLimit : Nat := 200

/-- The wording of a fault of a number.  A long quotation is cut off, with its
closing mark. -/
def IntegerFault.message : IntegerFault → Text
  | .malformed text =>
    "invalid literal for int() with base 10: ".toList ++ (Text.quoted text).take quotationLimit
  | .tooLong digits =>
    "Exceeds the limit (4300 digits) for integer string conversion: value has ".toList ++
      Text.ofNat digits ++
      " digits; use sys.set_int_max_str_digits() to increase the limit".toList

def Failure.message : Failure → Text
  | .ledger fault => fault.cause.message
  | .integer fault => fault.message
  | .currencyMismatch left right =>
    "Cannot combine money in ".toList ++ Text.quoted left ++ " with money in ".toList ++
      Text.quoted right
  | .noParts parts => "Cannot split into ".toList ++ Text.ofInt parts ++ " parts".toList
  | .unresolved description =>
    "Booking ".toList ++ Text.quoted description ++ " must be resolved before it is added".toList
  | .unknownBooking label => "No booking with id ".toList ++ Text.quoted label
  | .arithmetic _ => "Amount out of range".toList
  | .dateRange => "Date out of range".toList
  | .leftover => "More units left over than there are shares".toList

/-- The result of an operation on a ledger. -/
abbrev Outcome (α : Type) := Except Failure α

/-- The result of an operation on numbers as a result of one on a ledger. -/
def Outcome.ofNumbers {α : Type} : Except Decimal.Signal α → Outcome α
  | .ok value => .ok value
  | .error signal => .error (.arithmetic signal)

end Daybook
