import Daybook.Calendar.Date

namespace Daybook

/-!
# Lines of a ledger

A ledger is made of lines.  What a line is shows from its own text and from its
neighbours: an indented line belongs to what is open above it, an unindented one
is a currency header, a date or a description.  A header counts as one only
after a break, and a word for a relative day is a description when a posting
follows it.  Comments begin at a semicolon; a line with nothing else is passed
over.  Classifying lines never fails; what is wrong with a line is found when it
is read.
-/

open Calendar Unicode

def commentMark : Char := ';'

def headerWord : Text := "currency".toList

def closedWord : Text := "closed".toList

/-- What a line of a ledger is.  A gap is blank and ends what is open.  A header says so many times
that the registry is closed, and a date may only look like one.  An indented line is told by what
precedes its comment, and by the comment. -/
inductive Line where
  | gap
  | header (closings : Nat)
  | date (text : Text)
  | relative (day : RelativeDay)
  | description (text : Text)
  | indented (content comment : Text)
  deriving DecidableEq, Repr

/-- A line with its number, counted from one. -/
structure NumberedLine where
  number : Nat
  line : Line
  deriving DecidableEq, Repr

namespace Line

/-- What precedes the comment of a line, and the comment. -/
def cutComment (raw : Text) : Text × Text :=
  let (content, comment) := Text.cutAt commentMark raw
  (content, comment.getD [])

/-- Whether a text has so many decimal digits, at least and at most. -/
def isDigits (least most : Nat) (text : Text) : Bool :=
  least ≤ text.length && text.length ≤ most && text.all isDecimal

def isDate (line : Text) : Bool :=
  match Text.splitOn '-' line with
  | [year, month, day] => isDigits 4 4 year && isDigits 2 2 month && isDigits 2 2 day
  | _ => false

/-- Whether a line is made of three numbers like a date, possibly in another
order or with other separators. -/
def isDateLike (line : Text) : Bool :=
  match Text.splitWhen (fun c => c == '-' || c == '/' || c == '.') line with
  | [first, second, third] => isDigits 1 4 first && isDigits 1 2 second && isDigits 1 4 third
  | _ => false

/-- Whether the words of a line make a currency header. -/
def isHeader : List Text → Bool
  | [] => false
  | first :: rest => first == headerWord && rest.all (· == closedWord)

/-- Whether the next line with content is indented; a blank line before it says
no. -/
def postingFollows : List Text → Bool
  | [] => false
  | raw :: rest =>
    if Text.isBlankText raw then false
    else
      match (cutComment raw).1 with
      | [] => postingFollows rest
      | c :: more =>
        if Text.isBlankText (c :: more) then postingFollows rest else isBlank c

/-- What an unindented line is, given whether it follows a break and which
lines follow it. -/
def ofUnindented (afterGap : Bool) (text : Text) (following : List Text) : Line :=
  let words := Text.words text
  if afterGap && isHeader words then .header (words.length - 1)
  else if isDate text || isDateLike text then .date text
  else
    match RelativeDay.ofWord? text with
    | some day => if postingFollows following then .description text else .relative day
    | none => .description text

/-- The lines of a ledger from a number on, given whether they begin after a
break. -/
def classifyFrom : Bool → Nat → List Text → List NumberedLine
  | _, _, [] => []
  | afterGap, number, raw :: following =>
    let (content, comment) := cutComment raw
    if Text.isBlankText raw then ⟨number, .gap⟩ :: classifyFrom true (number + 1) following
    else if Text.isBlankText content then classifyFrom afterGap (number + 1) following
    else
      let line :=
        if (content.head?.map isBlank).getD false then .indented content comment
        else ofUnindented afterGap (Text.stripEnd content) following
      ⟨number, line⟩ :: classifyFrom false (number + 1) following

def classify (raws : List Text) : List NumberedLine :=
  classifyFrom true 1 raws

end Line
end Daybook
