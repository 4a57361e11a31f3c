import Daybook.Text.Integer
import Daybook.Text.Quoted

namespace Daybook
namespace Calendar

/-!
# Calendar dates

A date is a year from 1 to 9999, a month and a day of the Gregorian calendar,
carried back before its introduction; validity is a field, so every date can be
printed and read back.  Moving a date by a number of days goes through the
number of the day, counted from the first day of the year 1.
-/

def isLeap (year : Nat) : Bool :=
  year % 4 == 0 && (year % 100 != 0 || year % 400 == 0)

def daysInMonth (year month : Nat) : Nat :=
  if month = 2 then (if isLeap year then 29 else 28)
  else if month = 4 ∨ month = 6 ∨ month = 9 ∨ month = 11 then 30
  else 31

/-- The last year. -/
def lastYear : Nat := 9999

def IsDate (year month day : Nat) : Prop :=
  (1 ≤ year ∧ year ≤ lastYear) ∧ (1 ≤ month ∧ month ≤ 12) ∧
    (1 ≤ day ∧ day ≤ daysInMonth year month)

instance (year month day : Nat) : Decidable (IsDate year month day) :=
  inferInstanceAs (Decidable (_ ∧ _))

/-- A calendar date.  All three numbers count from one. -/
structure Date where
  year : Nat
  month : Nat
  day : Nat
  valid : IsDate year month day
  deriving DecidableEq, Repr

/-- Why a text is no date: it does not have the form of one, or there is no such year, no such
month, or no such day in the month. -/
inductive DateFault where
  | malformed (text : Text)
  | yearOutOfRange (year : Nat)
  | monthOutOfRange
  | dayOutOfRange
  deriving DecidableEq, Repr

namespace DateFault

def message : DateFault → Text
  | .malformed text => "Invalid isoformat string: ".toList ++ Text.quoted text
  | .yearOutOfRange year => "year ".toList ++ Text.ofNat year ++ " is out of range".toList
  | .monthOutOfRange => "month must be in 1..12".toList
  | .dayOutOfRange => "day is out of range for month".toList

end DateFault

namespace Date

/-- The date that three numbers name, or the first of them that is wrong. -/
def ofParts (year month day : Nat) : Except DateFault Date :=
  if valid : IsDate year month day then .ok ⟨year, month, day, valid⟩
  else if ¬ (1 ≤ year ∧ year ≤ lastYear) then .error (.yearOutOfRange year)
  else if ¬ (1 ≤ month ∧ month ≤ 12) then .error .monthOutOfRange
  else .error .dayOutOfRange

/-- The parts of a date name that date. -/
theorem ofParts_parts (date : Date) : ofParts date.year date.month date.day = .ok date := by
  simp [ofParts, date.valid]

/-- Whether a date comes before another or is the same. -/
def notAfter (left right : Date) : Bool :=
  left.year < right.year ||
    (left.year == right.year &&
      (left.month < right.month || (left.month == right.month && left.day ≤ right.day)))

def isBefore (left right : Date) : Bool := !notAfter right left

/-- The number of days before the first of January. -/
def daysBeforeYear (year : Nat) : Nat :=
  365 * (year - 1) + (year - 1) / 4 - (year - 1) / 100 + (year - 1) / 400

/-- The number of days of the year before the first of a month. -/
def daysBeforeMonth (year month : Nat) : Nat :=
  ((List.range' 1 (month - 1)).map (daysInMonth year)).foldl (· + ·) 0

/-- The number of a day, one for the first day of the year 1. -/
def ordinal (date : Date) : Nat :=
  daysBeforeYear date.year + daysBeforeMonth date.year date.month + date.day

/-- The year of the day with the given distance from the first day of the
year 1: whole periods of 400, 100 and 4 years and of one year are counted off,
and the last day of a leap year does not begin another one. -/
def yearOf (distance : Nat) : Nat :=
  let inEra := distance % 146097
  let centuries := min (inEra / 36524) 3
  let inCentury := inEra - centuries * 36524
  let inPeriod := inCentury % 1461
  400 * (distance / 146097) + 100 * centuries + 4 * (inCentury / 1461) + min (inPeriod / 365) 3 + 1

/-- Counts off whole months from the given month on; what is left counts the
days of the month that is reached. -/
def monthAndDay (year : Nat) : Nat → Nat → Nat → Nat × Nat
  | 0, month, day => (month, day)
  | fuel + 1, month, day =>
    if daysInMonth year month < day then
      monthAndDay year fuel (month + 1) (day - daysInMonth year month)
    else (month, day)

/-- The date of a numbered day. -/
def ofOrdinal? (number : Int) : Option Date :=
  if number < 1 then none
  else
    let distance := number.toNat - 1
    let year := yearOf distance
    let (month, day) := monthAndDay year 11 1 (distance - daysBeforeYear year + 1)
    (ofParts year month day).toOption

/-- The largest number of days that a date may be moved by. -/
def shiftLimit : Nat := 999999999

/-- The date a number of days later, or earlier for a negative number; absent
when it lies outside the calendar. -/
def shift? (date : Date) (days : Int) : Option Date :=
  if shiftLimit < days.natAbs then none
  else ofOrdinal? (date.ordinal + days)

/-- The written form: year, month and day with hyphens. -/
def toText (date : Date) : Text :=
  Text.padded 4 date.year ++ '-' :: Text.padded 2 date.month ++ '-' :: Text.padded 2 date.day

/-- The number that digits zero to nine spell. -/
def plainDigits? (text : Text) : Option Nat :=
  if text.all Char.isDigit then Text.digits? text else none

def ofText (text : Text) : Except DateFault Date :=
  match text with
  | [y₁, y₂, y₃, y₄, '-', m₁, m₂, '-', d₁, d₂] =>
    match plainDigits? [y₁, y₂, y₃, y₄], plainDigits? [m₁, m₂], plainDigits? [d₁, d₂] with
    | some year, some month, some day => ofParts year month day
    | _, _, _ => .error (.malformed text)
  | _ => .error (.malformed text)

end Date

/-- A day named by its relation to the present one. -/
inductive RelativeDay where
  | yesterday
  | today
  | tomorrow
  deriving DecidableEq, Repr

namespace RelativeDay

def days : RelativeDay → Int
  | .yesterday => -1
  | .today => 0
  | .tomorrow => 1

def word : RelativeDay → Text
  | .yesterday => "yesterday".toList
  | .today => "today".toList
  | .tomorrow => "tomorrow".toList

def ofWord? (text : Text) : Option RelativeDay :=
  [yesterday, today, tomorrow].find? fun day => day.word == text

end RelativeDay
end Calendar
end Daybook
