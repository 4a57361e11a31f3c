import Daybook.Text.Basic
import Daybook.Unicode.Digit

namespace Daybook

/-!
# Whole numbers in text

A whole number is written with decimal digits of any script after an optional
sign; single low lines may stand between digits and blanks around the whole.
Numbers of more than 4300 digits are refused before they are read.
-/

/-- Why a text is no whole number: it is not written like one, or it has too many digits. -/
inductive IntegerFault where
  | malformed (text : Text)
  | tooLong (digits : Nat)
  deriving DecidableEq, Repr

namespace Text

open Unicode

/-- The largest number of digits that is read. -/
def digitLimit : Nat := 4300

/-- The number that decimal digits spell when the digits before them spell
`value`; absent when a character is no decimal digit. -/
def digitsFrom? : Nat → Text → Option Nat
  | value, [] => some value
  | value, c :: rest =>
    match decimalValue? c with
    | some digit => digitsFrom? (10 * value + digit) rest
    | none => none

def digits? (text : Text) : Option Nat :=
  if text.isEmpty then none else digitsFrom? 0 text

/-- The sign in front of a text and the rest: true for a minus. -/
def takeSign : Text → Bool × Text
  | '-' :: rest => (true, rest)
  | '+' :: rest => (false, rest)
  | text => (false, text)

/-- The separators between the fields of a record are no blanks around a
number. -/
def isNumberBlank (c : Char) : Bool :=
  isBlank c && !(28 ≤ c.toNat && c.toNat ≤ 31)

/-- Digits without the single low lines between them; absent when a low line
does not stand between two digits. -/
def dropLowLines? (text : Text) : Option Text :=
  let groups := splitOn '_' text
  if groups.any (·.isEmpty) then none else some groups.flatten

/-- Reads a whole number.  The length of the leading digits is judged before
what follows them. -/
def toInteger (text : Text) : Except IntegerFault Int :=
  let inner := ((text.dropWhile isNumberBlank).reverse.dropWhile isNumberBlank).reverse
  let (negative, body) := takeSign inner
  let run := body.takeWhile fun c => isDecimal c || c == '_'
  match dropLowLines? run with
  | none => .error (.malformed text)
  | some digits =>
    if digits.length > digitLimit then .error (.tooLong digits.length)
    else if run.length < body.length then .error (.malformed text)
    else
      match digits? digits with
      | some value => .ok (if negative then -(value : Int) else value)
      | none => .error (.malformed text)

def ofNat (value : Nat) : Text :=
  Nat.toDigits 10 value

def ofInt : Int → Text
  | .ofNat value => ofNat value
  | .negSucc value => '-' :: ofNat (value + 1)

/-- A whole number that always shows its sign. -/
def ofSignedInt (value : Int) : Text :=
  if value < 0 then ofInt value else '+' :: ofInt value

/-- A natural number with leading zeros up to a width. -/
def padded (width value : Nat) : Text :=
  let digits := ofNat value
  List.replicate (width - digits.length) '0' ++ digits

end Text
end Daybook
