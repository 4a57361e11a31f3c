import Daybook.Text.Basic

namespace Daybook
namespace Json

/-!
# JSON tokens

A JSON text is cut into tokens: six marks, three words, three names of numbers
that have no digits, numbers and texts.  Cutting stops at the first place where
no token begins, and leaves a token there that no value accepts.
-/

/-- A number as it is written. -/
structure Numeral where
  negative : Bool
  whole : Text
  fraction : Option Text
  exponent : Option (Bool × Text)
  deriving DecidableEq, Repr

/-- The words that are values.  The last three are no number, one above all others and one below
all others. -/
inductive Word where
  | null
  | true
  | false
  | nan
  | infinity
  | negativeInfinity
  deriving DecidableEq, Repr

/-- A token, or `bad` where none begins. -/
inductive Token where
  | openObject
  | closeObject
  | openList
  | closeList
  | colon
  | comma
  | word (word : Word)
  | numeral (numeral : Numeral)
  | text (content : Text)
  | bad
  deriving DecidableEq, Repr

def wordSpellings : List (Word × Text) :=
  [(.null, "null".toList), (.true, "true".toList), (.false, "false".toList),
    (.nan, "NaN".toList), (.infinity, "Infinity".toList),
    (.negativeInfinity, "-Infinity".toList)]

/-- Whether a character may stand between tokens. -/
def isGap (c : Char) : Bool := c == ' ' || c == '\t' || c == '\n' || c == '\r'

def isDigit (c : Char) : Bool := '0' ≤ c && c ≤ '9'

def hexValue? (c : Char) : Option Nat :=
  if '0' ≤ c ∧ c ≤ '9' then some (c.toNat - 48)
  else if 'a' ≤ c ∧ c ≤ 'f' then some (c.toNat - 87)
  else if 'A' ≤ c ∧ c ≤ 'F' then some (c.toNat - 55)
  else none

/-- The number that four digits in base sixteen spell. -/
def hexUnit? (a b c d : Char) : Option Nat := do
  return 4096 * (← hexValue? a) + 256 * (← hexValue? b) + 16 * (← hexValue? c) + (← hexValue? d)

/-- The character that an escape of one letter stands for. -/
def escaped? (c : Char) : Option Char :=
  if c == '\x22' || c == '\x5c' || c == '/' then some c
  else if c == 'b' then some '\x08'
  else if c == 'f' then some '\x0c'
  else if c == 'n' then some '\n'
  else if c == 'r' then some '\r'
  else if c == 't' then some '\t'
  else none

/-- The rest of a text behind its closing mark, and the code units in front of
it.  Control characters must be escaped. -/
def takeUnits? : Text → Option (List Nat × Text)
  | [] => none
  | '\x5c' :: 'u' :: a :: b :: c :: d :: rest =>
    match hexUnit? a b c d with
    | some unit => (takeUnits? rest).map fun (units, after) => (unit :: units, after)
    | none => none
  | '\x5c' :: c :: rest =>
    match escaped? c with
    | some char => (takeUnits? rest).map fun (units, after) => (char.toNat :: units, after)
    | none => none
  | c :: rest =>
    if c == '\x22' then some ([], rest)
    else if c == '\x5c' || c.toNat < 32 then none
    else (takeUnits? rest).map fun (units, after) => (c.toNat :: units, after)

/-- Whether a code unit is the first half of a pair. -/
def isFirstHalf (unit : Nat) : Bool := 55296 ≤ unit && unit ≤ 56319

def isSecondHalf (unit : Nat) : Bool := 56320 ≤ unit && unit ≤ 57343

/-- The character in place of half a pair on its own. -/
def replacement : Char := '\ufffd'

/-- The character of a code unit on its own. -/
def charOfUnit (unit : Nat) : Char :=
  if isFirstHalf unit || isSecondHalf unit then replacement else Char.ofNat unit

/-- The characters of code units; two halves next to each other are one. -/
def textOfUnits : List Nat → Text
  | [] => []
  | [unit] => [charOfUnit unit]
  | first :: second :: rest =>
    if isFirstHalf first && isSecondHalf second then
      Char.ofNat (65536 + 1024 * (first - 55296) + (second - 56320)) :: textOfUnits rest
    else charOfUnit first :: textOfUnits (second :: rest)

def takeDigits (text : Text) : Text × Text :=
  (text.takeWhile isDigit, text.dropWhile isDigit)

/-- The digits in front of a point or an exponent: without a zero before others. -/
def takeWhole? (text : Text) : Option (Text × Text) :=
  match text with
  | '0' :: rest => some (['0'], rest)
  | _ =>
    match takeDigits text with
    | ([], _) => none
    | found => some found

/-- A point with digits behind it, if it is there, and the rest. -/
def takeFraction (text : Text) : Option Text × Text :=
  match text with
  | '.' :: rest =>
    match takeDigits rest with
    | ([], _) => (none, text)
    | (digits, after) => (some digits, after)
  | _ => (none, text)

/-- A sign, true for a minus, and the rest. -/
def takeExponentSign : Text → Bool × Text
  | '-' :: rest => (true, rest)
  | '+' :: rest => (false, rest)
  | text => (false, text)

/-- An exponent, if it is there, and the rest. -/
def takeExponent (text : Text) : Option (Bool × Text) × Text :=
  match text with
  | c :: rest =>
    if c == 'e' || c == 'E' then
      let (negative, body) := takeExponentSign rest
      match takeDigits body with
      | ([], _) => (none, text)
      | (digits, after) => (some (negative, digits), after)
    else (none, text)
  | [] => (none, text)

/-- A number in front of a text, and the rest. -/
def takeNumeral? (text : Text) : Option (Numeral × Text) :=
  let (negative, body) :=
    match text with
    | '-' :: rest => (true, rest)
    | _ => (false, text)
  match takeWhole? body with
  | none => none
  | some (whole, afterWhole) =>
    let (fraction, afterFraction) := takeFraction afterWhole
    let (exponent, rest) := takeExponent afterFraction
    some (⟨negative, whole, fraction, exponent⟩, rest)

/-- A word in front of a text, and the rest. -/
def takeWord? (text : Text) : Option (Word × Text) :=
  (wordSpellings.find? fun entry => entry.2.isPrefixOf text).map fun entry =>
    (entry.1, text.drop entry.2.length)

def mark? (c : Char) : Option Token :=
  if c == '\x7b' then some .openObject
  else if c == '\x7d' then some .closeObject
  else if c == '[' then some .openList
  else if c == ']' then some .closeList
  else if c == ':' then some .colon
  else if c == ',' then some .comma
  else none

/-- The token in front of a text that begins with the given character, and the
rest. -/
def takeToken? (c : Char) (rest : Text) : Option (Token × Text) :=
  match mark? c with
  | some token => some (token, rest)
  | none =>
    if c == '\x22' then
      (takeUnits? rest).map fun (units, after) => (.text (textOfUnits units), after)
    else
      match takeWord? (c :: rest) with
      | some (word, after) => some (.word word, after)
      | none => (takeNumeral? (c :: rest)).map fun (numeral, after) => (.numeral numeral, after)

/-- The tokens of a text, at most so many of them. -/
def tokensWithin : Nat → Text → List Token
  | 0, _ => []
  | bound + 1, text =>
    match text.dropWhile isGap with
    | [] => []
    | c :: rest =>
      match takeToken? c rest with
      | some (token, after) => token :: tokensWithin bound after
      | none => [.bad]

/-- The tokens of a text.  A token has at least one character, so there are not
more tokens than characters. -/
def tokens (text : Text) : List Token :=
  tokensWithin text.length text

end Json
end Daybook
