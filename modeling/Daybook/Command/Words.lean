import Daybook.Text.Quoted

namespace Daybook

/-!
# Words of a command line

A command line is split at blanks into words.  Between quotation marks blanks
are part of a word, and neighbouring quoted and plain parts make one word; a
backslash takes the next character as it is, between double marks only in front
of the mark itself and of another backslash.
-/

/-- Why a command line has no words: a quotation mark is not closed, or nothing follows a
backslash. -/
inductive WordFault where
  | openQuotation
  | openEscape
  deriving DecidableEq, Repr

def WordFault.message : WordFault → Text
  | .openQuotation => "No closing quotation".toList
  | .openEscape => "No escaped character".toList

namespace CommandLine

/-- Where in a word the next character stands: outside of quotation marks, after one, or after a
backslash outside or inside of them. -/
inductive Place where
  | plain
  | quoted (mark : Char)
  | escaped
  | quotedEscape (mark : Char)
  deriving DecidableEq, Repr

def isSeparator (c : Char) : Bool :=
  c == ' ' || c == '\t' || c == '\r' || c == '\n'

def isMark (c : Char) : Bool := c == Text.singleMark || c == Text.doubleMark

/-- The words that remain, given the word begun, if any, with its last character
first. -/
def wordsFrom : Place → Option Text → Text → Except WordFault (List Text)
  | .plain, current, [] => .ok (current.map List.reverse).toList
  | .quoted _, _, [] => .error .openQuotation
  | .escaped, _, [] => .error .openEscape
  | .quotedEscape _, _, [] => .error .openEscape
  | .plain, current, c :: rest =>
    if isSeparator c then
      match current with
      | some word => (wordsFrom .plain none rest).map (word.reverse :: ·)
      | none => wordsFrom .plain none rest
    else if isMark c then wordsFrom (.quoted c) (some (current.getD [])) rest
    else if c = Text.escapeMark then wordsFrom .escaped (some (current.getD [])) rest
    else wordsFrom .plain (some (c :: current.getD [])) rest
  | .quoted mark, current, c :: rest =>
    if c = mark then wordsFrom .plain current rest
    else if c = Text.escapeMark ∧ mark = Text.doubleMark then
      wordsFrom (.quotedEscape mark) current rest
    else wordsFrom (.quoted mark) (some (c :: current.getD [])) rest
  | .escaped, current, c :: rest => wordsFrom .plain (some (c :: current.getD [])) rest
  | .quotedEscape mark, current, c :: rest =>
    let word := current.getD []
    let kept := if c = mark ∨ c = Text.escapeMark then word else Text.escapeMark :: word
    wordsFrom (.quoted mark) (some (c :: kept)) rest

def words (line : Text) : Except WordFault (List Text) :=
  wordsFrom .plain none line

end CommandLine
end Daybook
