import Daybook.Unicode.Blank

namespace Daybook

/-!
# Texts

A text is the list of its code points, so that a position is a number of list
elements and a rule on texts is a recursion on lists.  This module holds the
operations that know no more about characters than whether they are blank:
stripping, splitting at characters, collapsing runs of blanks, splitting into
lines, and searching for a passage.
-/

/-- A text: its code points in order. -/
abbrev Text := List Char

namespace Text

open Unicode

def stripStart (text : Text) : Text :=
  text.dropWhile isBlank

def stripEnd (text : Text) : Text :=
  (text.reverse.dropWhile isBlank).reverse

def strip (text : Text) : Text :=
  stripEnd (stripStart text)

/-- Whether nothing but blanks is there. -/
def isBlankText (text : Text) : Bool :=
  text.all isBlank

/-- The pieces between the separators, at least one; two neighbouring
separators have an empty piece between them. -/
def splitWhen (separates : Char → Bool) : Text → List Text
  | [] => [[]]
  | c :: rest =>
    if separates c then [] :: splitWhen separates rest
    else
      match splitWhen separates rest with
      | [] => [[c]]
      | piece :: pieces => (c :: piece) :: pieces

/-- The pieces between the occurrences of one character. -/
def splitOn (separator : Char) (text : Text) : List Text :=
  splitWhen (· == separator) text

/-- The texts one after the other with a separator between neighbours. -/
def join (separator : Text) : List Text → Text
  | [] => []
  | [text] => text
  | text :: rest => text ++ separator ++ join separator rest

/-- The maximal runs of characters that are not blank. -/
def words (text : Text) : List Text :=
  (splitWhen isBlank text).filter (!·.isEmpty)

/-- Outer blanks removed, every inner run of blanks made one space. -/
def collapse (text : Text) : Text :=
  join [' '] (words text)

/-- Places each piece at its offset, the first at the given one; a separator
of one character stands between neighbours. -/
def placed : Nat → List Text → List (Nat × Text)
  | _, [] => []
  | offset, piece :: pieces => (offset, piece) :: placed (offset + piece.length + 1) pieces

/-- The words of a text, each with its offset. -/
def wordsAt (text : Text) : List (Nat × Text) :=
  (placed 0 (splitWhen isBlank text)).filter (!·.2.isEmpty)

/-- The part before the first occurrence of a character and the part after
it; the second part is absent when the character is. -/
def cutAt (separator : Char) : Text → Text × Option Text
  | [] => ([], none)
  | c :: rest =>
    if c == separator then ([], some rest)
    else
      let (before, after) := cutAt separator rest
      (c :: before, after)

def isLineBreak (c : Char) : Bool :=
  c == '\n' || c == '\r' || c == '\x0b' || c == '\x0c' || c == '\x1c' || c == '\x1d' ||
    c == '\x1e' || c == '\u0085' || c == '\u2028' || c == '\u2029'

/-- The lines that remain when the given characters, last one first, of the
current line have been read.  A carriage return with a line feed ends one line,
and a last line needs no end. -/
def linesFrom : Text → Text → List Text
  | current, [] => if current.isEmpty then [] else [current.reverse]
  | current, '\r' :: '\n' :: rest => current.reverse :: linesFrom [] rest
  | current, c :: rest =>
    if isLineBreak c then current.reverse :: linesFrom [] rest
    else linesFrom (c :: current) rest

def lines (text : Text) : List Text :=
  linesFrom [] text

/-- Every end of line made a line feed. -/
def unifyLineEnds : Text → Text
  | [] => []
  | '\r' :: '\n' :: rest => '\n' :: unifyLineEnds rest
  | '\r' :: rest => '\n' :: unifyLineEnds rest
  | c :: rest => c :: unifyLineEnds rest

/-- The offset of the first occurrence of a passage. -/
def find? (passage : Text) : Text → Option Nat
  | [] => if passage.isEmpty then some 0 else none
  | c :: rest =>
    if passage.isPrefixOf (c :: rest) then some 0
    else (find? passage rest).map (· + 1)

def hasPassage (text passage : Text) : Bool :=
  (find? passage text).isSome

/-- Order by code points, a beginning before what continues it. -/
def precedes (left right : Text) : Bool :=
  !decide (right < left)

def sort (texts : List Text) : List Text :=
  texts.mergeSort precedes

/-- A recogniser that looks for the end of a text also finds it before one
final line feed: whether the text, or the text without that line feed, passes. -/
def endsLoosely (recognises : Text → Bool) (text : Text) : Bool :=
  recognises text ||
    match text.reverse with
    | '\n' :: rest => recognises rest.reverse
    | _ => false

/-- A text splits into at least one piece. -/
theorem splitWhen_ne_nil (separates : Char → Bool) (text : Text) :
    splitWhen separates text ≠ [] := by
  cases text with
  | nil => simp [splitWhen]
  | cons c rest =>
    rw [splitWhen]
    split
    · simp
    · split <;> simp

end Text
end Daybook
