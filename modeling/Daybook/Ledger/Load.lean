import Daybook.Booking.Resolution
import Daybook.Ledger.Reader
import Daybook.Ledger.Snapshot

namespace Daybook

/-!
# Loading a ledger

Loading reads a text, resolves every booking against the final currencies,
moves it to the date that its offset asks for, and builds a snapshot of the
result.  The bookings are labelled in the order in which the snapshot has them.
-/

open Calendar

namespace Booking

/-- The booking on the date that it is to be moved to. -/
def onItsDate (date : Date) (booking : Booking) : Outcome Chapter :=
  if booking.dateOffset = 0 then .ok ⟨date, [booking]⟩
  else
    match date.shift? booking.dateOffset with
    | some shifted => .ok ⟨shifted, [{ booking with dateOffset := 0 }]⟩
    | none => .error .dateRange

end Booking

namespace Chapter

/-- Resolves bookings with their dates, in order; each gets a chapter of its
own. -/
def resolveEntries (registry : Registry) : List (Date × Booking) → Outcome (List Chapter)
  | [] => .ok []
  | (date, booking) :: rest => do
    let resolved ← booking.resolve registry
    let chapter ← resolved.onItsDate date
    return chapter :: (← resolveEntries registry rest)

def resolveAll (registry : Registry) (chapters : List Chapter) : Outcome (List Chapter) :=
  resolveEntries registry (entries chapters)

end Chapter

namespace Snapshot

/-- The snapshot of chapters whose bookings are labelled in order. -/
def ofChapters (chapters : List Chapter) (registry : Registry) (opened : List Account) :
    Outcome Snapshot :=
  build (Chapter.number 0 (Chapter.merge chapters)) registry opened

/-- Loads a ledger.  With `strict` only declared currencies are accepted. -/
def load (text : Text) (today : Option Date) (strict : Bool) : Outcome Snapshot := do
  let reading ← Reading.ofText text today {} strict
  let chapters ← Chapter.resolveAll reading.registry reading.chapters
  ofChapters chapters reading.registry []

end Snapshot
end Daybook
