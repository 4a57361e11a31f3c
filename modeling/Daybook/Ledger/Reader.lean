import Daybook.Booking.Tags
import Daybook.Ledger.Entry

namespace Daybook

/-!
# Reading a ledger

Reading goes over the classified lines with a state that holds what is open: a
chapter, a booking in it, a currency block.  A description opens a booking, a
date opens a chapter, a header opens a block; each closes what was open before,
and so does a blank line, which leaves only the chapter open.  At the end every
amount is checked against the final currencies, since a declaration may follow
the first use of a currency.
-/

open Calendar

/-- What reading a ledger gives: bookings whose splits and omitted amounts are
as they were written. -/
structure Reading where
  registry : Registry
  chapters : List Chapter
  deriving DecidableEq, Repr

/-- The state of reading.  The present day may be unknown.  What is open, a chapter, a booking with
the postings so far or a currency block, is kept apart from the chapters that are closed.  The
columns of amounts are kept under the lines that they stand in. -/
structure Reader where
  today : Option Date
  registry : Registry
  closedChapters : List Chapter := []
  chapter : Option Chapter := none
  booking : Option Booking := none
  inBlock : Bool := false
  amountColumns : Table Nat Nat := []
  deriving DecidableEq, Repr

namespace Reader

def faultAt (cause : Cause) (line column : Nat) : Failure :=
  .ledger { cause, line := some line, column := some column }

/-- The state with the open booking added to its chapter. -/
def closeBooking (reader : Reader) : Outcome Reader :=
  match reader.booking with
  | none => .ok reader
  | some booking =>
    if booking.postings.isEmpty then
      .error (.ledger
        { cause := .missingPostings booking.description
          line := booking.line
          column := some 1 })
    else
      .ok
        { reader with
          booking := none
          chapter := reader.chapter.map fun chapter =>
            { chapter with bookings := chapter.bookings ++ [booking] } }

def closeChapter (reader : Reader) : Reader :=
  { reader with
    closedChapters := reader.closedChapters ++ reader.chapter.toList
    chapter := none }

def openChapter (reader : Reader) (date : Date) : Reader :=
  { reader.closeChapter with chapter := some ⟨date, []⟩ }

/-- Reads a line that looks like a date. -/
def readDate (text : Text) (number : Nat) : Outcome Date :=
  if Line.isDate text then
    match Date.ofText text with
    | .ok date => .ok date
    | .error fault => .error (faultAt (.impossibleDate text fault) number 1)
  else .error (faultAt (.malformedDate text) number 1)

def openBooking (reader : Reader) (text : Text) (number : Nat) : Outcome Reader := do
  let reader ← reader.closeBooking
  if reader.chapter.isNone then .error (faultAt .bookingBeforeDate number 1)
  else
    let annotated ← Annotated.ofText text (some number)
    if annotated.description.isEmpty then .error (faultAt .missingDescription number 1)
    else
      return { reader with
        booking := some
          { description := annotated.description
            split := annotated.split
            dateOffset := annotated.dateOffset
            line := some number } }

/-- Reads the amount of a posting and notes its column. -/
def readMoney (reader : Reader) (text : Text) (number column : Nat) :
    Outcome (Money × Reader) :=
  match Money.ofText text reader.registry with
  | (.ok money, registry) =>
    .ok (money,
      { reader with registry, amountColumns := reader.amountColumns.put number column })
  | (.error failure, _) => .error (failure.placedAt number column)

/-- Adds the posting of an indented line to the open booking. -/
def readPosting (reader : Reader) (booking : Booking) (content : Text) (number : Nat) :
    Outcome Reader := do
  let indent := (content.takeWhile Unicode.isBlank).length
  let parts := PostingText.ofText (Text.strip content)
  match Account.ofText parts.account (some number) (indent + 1) with
  | .error fault => .error (.ledger fault)
  | .ok account =>
    let (money, reader) ← match parts.money with
      | none => .ok (none, reader)
      | some text =>
        (reader.readMoney text number (indent + parts.offset + 1)).map fun (money, reader) =>
          (some money, reader)
    let posting : Posting := { account, money, line := some number }
    return { reader with
      booking := some { booking with postings := booking.postings ++ [posting] } }

def readEntry (reader : Reader) (content comment : Text) (number : Nat) : Outcome Reader := do
  let (declaration, column) ← Declaration.ofEntry content comment number
  match reader.registry.declare declaration with
  | (.ok _, registry) => .ok { reader with registry }
  | (.error cause, _) => .error (faultAt cause number column)

def readIndented (reader : Reader) (content comment : Text) (number : Nat) : Outcome Reader :=
  if reader.inBlock then reader.readEntry content comment number
  else
    match reader.booking with
    | some booking => reader.readPosting booking content number
    | none =>
      let indent := (content.takeWhile Unicode.isBlank).length
      .error (faultAt .postingOutsideBooking number (indent + 1))

def openBlock (reader : Reader) (closings number : Nat) : Outcome Reader :=
  if 1 < closings then .error (faultAt .malformedHeader number 1)
  else do
    let reader ← reader.closeBooking
    return { reader with
      inBlock := true
      registry :=
        if closings = 1 then reader.registry.withClosed true else reader.registry }

def openRelative (reader : Reader) (day : RelativeDay) (number : Nat) : Outcome Reader :=
  match reader.today with
  | none => .error (faultAt (.relativeDate day.word) number 1)
  | some today => do
    let reader ← reader.closeBooking
    match today.shift? day.days with
    | some date => .ok (reader.openChapter date)
    | none => .error .dateRange

def step (reader : Reader) (numbered : NumberedLine) : Outcome Reader :=
  let number := numbered.number
  match numbered.line with
  | .gap => do
    let reader ← reader.closeBooking
    return { reader with inBlock := false }
  | .indented content comment => reader.readIndented content comment number
  | .header closings => { reader with inBlock := false }.openBlock closings number
  | .date text => do
    let reader ← { reader with inBlock := false }.closeBooking
    return reader.openChapter (← readDate text number)
  | .relative day => { reader with inBlock := false }.openRelative day number
  | .description text => { reader with inBlock := false }.openBooking text number

def steps : Reader → List NumberedLine → Outcome Reader
  | reader, [] => .ok reader
  | reader, line :: rest => do steps (← reader.step line) rest

/-- Checks the amount of a posting against the final currencies. -/
def checkPosting (reader : Reader) (posting : Posting) : Outcome Unit :=
  match posting.money with
  | none => .ok ()
  | some money =>
    match money.checkPrecision reader.registry with
    | .ok _ => .ok ()
    | .error failure =>
      match posting.line with
      | some line =>
        .error (failure.placedAt line ((reader.amountColumns.get? line).getD 1))
      | none => .error failure

/-- Checks the amounts of postings, in order. -/
def checkPostings (reader : Reader) : List Posting → Outcome Unit
  | [] => .ok ()
  | posting :: rest => do
    reader.checkPosting posting
    checkPostings reader rest

/-- Closes what is open and checks all amounts. -/
def finish (reader : Reader) : Outcome Reading := do
  let reader := (← reader.closeBooking).closeChapter
  let bookings := reader.closedChapters.flatMap (·.bookings)
  reader.checkPostings (bookings.flatMap (·.postings))
  return ⟨reader.registry, reader.closedChapters⟩

end Reader

namespace Reading

/-- Reads a ledger into a registry.  With `strict` only declared currencies are
accepted. -/
def ofText (text : Text) (today : Option Date) (registry : Registry) (strict : Bool) :
    Outcome Reading := do
  let registry := if strict then registry.withClosed true else registry
  let reader ← Reader.steps { today, registry } (Line.classify (Text.lines text))
  reader.finish

def bookings (reading : Reading) : List Booking :=
  reading.chapters.flatMap (·.bookings)

end Reading
end Daybook
