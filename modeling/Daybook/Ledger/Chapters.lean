import Daybook.Booking.Basic

namespace Daybook
namespace Chapter

/-!
# Chapters of a ledger

A ledger keeps its bookings in chapters: one chapter a date, in the order of the
dates, none of them empty.  Within a date, bookings stand in the order in which
they came.  Merging brings any list of chapters into this shape; inserting and
removing one booking keep it.
-/

open Calendar

/-- Adds bookings at the end of what is gathered for a date. -/
def gather (gathered : Table Date (List Booking)) (chapter : Chapter) :
    Table Date (List Booking) :=
  gathered.put chapter.date ((gathered.get? chapter.date).getD [] ++ chapter.bookings)

/-- One chapter for every date that has bookings, in the order of the dates. -/
def merge (chapters : List Chapter) : List Chapter :=
  let gathered := (chapters.foldl gather []).filter fun entry => !entry.2.isEmpty
  (gathered.mergeSort fun left right => left.1.notAfter right.1).map fun entry =>
    ⟨entry.1, entry.2⟩

/-- The bookings with their dates, in order. -/
def entries (chapters : List Chapter) : List (Date × Booking) :=
  chapters.flatMap fun chapter => chapter.bookings.map fun booking => (chapter.date, booking)

/-- Adds a booking at the end of its date. -/
def insert (date : Date) (booking : Booking) : List Chapter → List Chapter
  | [] => [⟨date, [booking]⟩]
  | chapter :: rest =>
    if chapter.date = date then
      { chapter with bookings := chapter.bookings ++ [booking] } :: rest
    else if date.isBefore chapter.date then ⟨date, [booking]⟩ :: chapter :: rest
    else chapter :: insert date booking rest

def find? (label : Text) (chapters : List Chapter) : Option (Date × Booking) :=
  (entries chapters).find? fun entry => entry.2.label == label

/-- Takes the bookings with a label out of the first chapter that has one; a
chapter left without bookings goes too. -/
def remove (label : Text) : List Chapter → List Chapter
  | [] => []
  | chapter :: rest =>
    if chapter.bookings.any fun booking => booking.label == label then
      match chapter.bookings.filter fun booking => booking.label != label with
      | [] => rest
      | remaining => { chapter with bookings := remaining } :: rest
    else chapter :: remove label rest

def labelOf (number : Nat) : Text := 'b' :: Text.ofNat number

/-- Labels bookings in order, from a number on. -/
def numberBookings : Nat → List Booking → List Booking
  | _, [] => []
  | number, booking :: rest =>
    { booking with label := labelOf number } :: numberBookings (number + 1) rest

/-- Labels the bookings of chapters in order, from a number on. -/
def number : Nat → List Chapter → List Chapter
  | _, [] => []
  | start, chapter :: rest =>
    { chapter with bookings := numberBookings start chapter.bookings } ::
      number (start + chapter.bookings.length) rest

end Chapter
end Daybook
