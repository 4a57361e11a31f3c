import Daybook.Text.Basic
import Daybook.Unicode.Printable

namespace Daybook
namespace Text

/-!
# Quoted texts

Messages show a text between quotation marks: single ones, unless the text
holds a single mark and no double one.  The mark in use, the backslash and every
unprintable character are escaped, so the quoted form is one line.
-/

open Unicode

/-- A number in base sixteen with leading zeros up to a width. -/
def hexadecimal (width value : Nat) : Text :=
  let digits := Nat.toDigits 16 value
  List.replicate (width - digits.length) '0' ++ digits

/-- The mark around most quoted texts. -/
def singleMark : Char := '\x27'

/-- The mark around a quoted text that holds the single mark and not this one. -/
def doubleMark : Char := '\x22'

def escapeMark : Char := '\x5c'

def quotationMark (text : Text) : Char :=
  if text.elem singleMark && !text.elem doubleMark then doubleMark else singleMark

def quotedChar (mark c : Char) : Text :=
  if c == mark || c == escapeMark then [escapeMark, c]
  else if c == '\n' then [escapeMark, 'n']
  else if c == '\t' then [escapeMark, 't']
  else if c == '\r' then [escapeMark, 'r']
  else if isPrintable c then [c]
  else if c.toNat < 256 then escapeMark :: 'x' :: hexadecimal 2 c.toNat
  else if c.toNat < 65536 then escapeMark :: 'u' :: hexadecimal 4 c.toNat
  else escapeMark :: 'U' :: hexadecimal 8 c.toNat

def quoted (text : Text) : Text :=
  let mark := quotationMark text
  mark :: text.flatMap (quotedChar mark) ++ [mark]

end Text
end Daybook
