import Daybook.Calendar.Date

namespace Daybook
namespace Calendar

/-!
# References to a date

The argument of the `date` command names a date in one of three ways: it gives
the date, a number of days from the current date, or a word relative to the
present day.
-/

/-- A way to name a date: the date itself, a number of days from the current date, or a word
relative to the present day. -/
inductive Reference where
  | absolute (date : Date)
  | offset (days : Int)
  | relative (day : RelativeDay)
  deriving DecidableEq, Repr

/-- Why a text refers to no date: its number of days cannot be read, or it has none of the accepted
forms. -/
inductive ReferenceFault where
  | offset (fault : IntegerFault)
  | malformed (text : Text)
  deriving DecidableEq, Repr

namespace Reference

open Unicode

/-- Whether a text is a signed run of decimal digits. -/
def isOffset (text : Text) : Bool :=
  let (_, digits) := Text.takeSign text
  !digits.isEmpty && digits.all isDecimal

/-- Takes a month number in front of a text: two digits if they name a month,
otherwise one. -/
def takeMonth : Text → Option (Nat × Text)
  | '1' :: '0' :: rest => some (10, rest)
  | '1' :: '1' :: rest => some (11, rest)
  | '1' :: '2' :: rest => some (12, rest)
  | '0' :: c :: rest => if '1' ≤ c ∧ c ≤ '9' then some (c.toNat - 48, rest) else none
  | c :: rest => if '1' ≤ c ∧ c ≤ '9' then some (c.toNat - 48, rest) else none
  | [] => none

/-- Takes a day number of one digit, which a space may precede. -/
def takeShortDay : Text → Option (Nat × Text)
  | ' ' :: c :: rest => if '1' ≤ c ∧ c ≤ '9' then some (c.toNat - 48, rest) else none
  | c :: rest => if '1' ≤ c ∧ c ≤ '9' then some (c.toNat - 48, rest) else none
  | [] => none

/-- Takes a day number in front of a text: two digits if they name a day,
otherwise one. -/
def takeDay : Text → Option (Nat × Text)
  | '3' :: '0' :: rest => some (30, rest)
  | '3' :: '1' :: rest => some (31, rest)
  | '0' :: c :: rest => if '1' ≤ c ∧ c ≤ '9' then some (c.toNat - 48, rest) else none
  | tens :: c :: rest =>
    if tens = '1' ∨ tens = '2' then
      match decimalValue? c with
      | some unit => some (10 * (tens.toNat - 48) + unit, rest)
      | none => takeShortDay (tens :: c :: rest)
    else takeShortDay (tens :: c :: rest)
  | text => takeShortDay text

/-- Reads year, month and day with the given separator; leading zeros of the
month and the day are optional. -/
def absolute? (separator : Char) (text : Text) : Option Date := do
  let year ← Text.digits? (text.take 4)
  let afterYear ← if (text.take 4).length = 4 then some (text.drop 4) else none
  let (month, afterMonth) ← takeMonth (← dropMark afterYear)
  let (day, rest) ← takeDay (← dropMark afterMonth)
  if rest.isEmpty then (Date.ofParts year month day).toOption else none
where
  dropMark : Text → Option Text
    | [] => none
    | c :: rest => if c == separator then some rest else none

def ofText (text : Text) : Except ReferenceFault Reference :=
  let inner := Text.strip text
  if isOffset inner then
    match Text.toInteger inner with
    | .ok days => .ok (.offset days)
    | .error fault => .error (.offset fault)
  else
    match RelativeDay.ofWord? inner with
    | some day => .ok (.relative day)
    | none =>
      match (absolute? '-' inner).orElse fun _ => absolute? '/' inner with
      | some date => .ok (.absolute date)
      | none => .error (.malformed inner)

/-- The date that a reference names; absent when it lies outside the calendar. -/
def resolve? (current today : Date) : Reference → Option Date
  | .absolute date => some date
  | .offset days => current.shift? days
  | .relative day => today.shift? day.days

def toText : Reference → Text
  | .absolute date => date.toText
  | .offset days => Text.ofSignedInt days
  | .relative day => day.word

end Reference
end Calendar
end Daybook
