import Daybook.Proofs.Ledger.FixedPoint
import Daybook.Proofs.Ledger.Preserved
import Daybook.Proofs.Session.Undo

namespace Daybook
namespace Session

/-!
# Loading what a session shows

A session changes the bookings of its ledger by removing some and by going back to
bookings that were there before, and it leaves the currencies alone.  So every ledger
that it shows is part of the one it was started on, and comes back from its canonical
text if nothing in it is in the way.
-/

variable {σ : Type} {device : Option (Device σ)}

/-- A run shows parts of the ledger that it was started on only. -/
theorem Reached.partOf {snapshot : Snapshot} (settled : snapshot.Settled) (sound : snapshot.Sound)
    {day : Calendar.Date} {limit column : Int} {initial : Session} {start : σ} {run : Session × σ}
    (started : Session.start snapshot day limit column = .ok initial)
    (reached : Reached device (initial, start) run) : snapshot.PartOf run.1.snapshot := by
  have everywhere := reached.throughout (sound_start sound started)
    (throughout_start (Snapshot.PartOf.refl settled) started)
    (fun _ account part => part.openAccount account)
    (fun _ _ _ _ part removed => part.remove removed)
  exact everywhere.now

/-- Printing and loading preserve the ledger.  Take any state that command lines lead to
on a session over a loaded ledger, whatever the device.  If its ledger can be printed, no
description looks like a date, every currency can be declared again, and no booking
moves as much of a currency as the digits hold, then the ledger can be printed for any
column, and the text can be loaded on any day, strictly or not.  This gives chapters of
the same content and the same currencies, and, if there is a currency to tell it by, a
registry that is closed as it was or because only declared currencies were accepted. -/
theorem printed_ledger_comes_back {text : Text} {today : Option Calendar.Date} {strict : Bool}
    {snapshot : Snapshot} {day : Calendar.Date} {limit column : Int} {initial : Session} {start : σ}
    {run : Session × σ} {anywhere : Int} {shown : Text}
    (loaded : Snapshot.load text today strict = .ok snapshot)
    (started : Session.start snapshot day limit column = .ok initial)
    (reached : Reached device (initial, start) run)
    (printed : run.1.snapshot.format anywhere = .ok shown)
    (told : ∀ booking ∈ Chapter.bookingsOf run.1.snapshot.chapters, booking.IsTold)
    (readable : ∀ currency ∈ run.1.snapshot.registry.toList, currency.Readable)
    (bounded : ∀ booking ∈ Chapter.bookingsOf run.1.snapshot.chapters, ∀ currency,
      booking.turnover currency < run.1.snapshot.registry.capacity currency) :
    ∀ (width : Int) (present : Option Calendar.Date) (declaredOnly : Bool), ∃ canonical again,
      run.1.snapshot.format width = .ok canonical ∧
        Snapshot.load canonical present declaredOnly = .ok again ∧
        pairwiseSame Chapter.same run.1.snapshot.chapters again.chapters = true ∧
        again.registry.toList = run.1.snapshot.registry.toList ∧
        (run.1.snapshot.registry.currencies ≠ [] →
          again.registry.closed = (declaredOnly || run.1.snapshot.registry.closed)) := by
  intro width present declaredOnly
  have part := reached.partOf (Snapshot.settled_of_load loaded) (Snapshot.sound_of_load loaded) started
  obtain ⟨canonical, again, ok, same, chapters, restored⟩ :=
    part.exists_loaded loaded printed told readable bounded width present declaredOnly
  exact ⟨canonical, again, ok, same, chapters, restored.listed, restored.closed⟩

/-! ## A short session -/

/-- A closed ledger with two bookings in a currency that is declared in full. -/
def eatingText : Text :=
  Text.ofLines ["currency closed".toList, "    $ usd 3 suffix ; dollar".toList, [],
    "2024-01-05".toList, "lunch #[split(@bob)]".toList, "    expense/food".toList,
    "    asset/cash  -10$".toList, "taxi".toList, "    expense/taxi  12.5$".toList,
    "    asset/cash".toList]

/-- A session over it. -/
def eating : Session :=
  { small with snapshot := Snapshot.loadedFrom eatingText false, issued := 2 }

/-- The session after the second booking was deleted and an account was opened. -/
def eaten : Session × Option Text :=
  executeAll (some keeping) (eating, none) ["reg @bob".toList, "del".toList, "open asset/bank".toList]

theorem eaten_comes_back :
    eaten.1.snapshot.entries.length = 1 ∧
      ∀ (width : Int) (present : Option Calendar.Date) (declaredOnly : Bool), ∃ canonical again,
        eaten.1.snapshot.format width = .ok canonical ∧
          Snapshot.load canonical present declaredOnly = .ok again ∧
          pairwiseSame Chapter.same eaten.1.snapshot.chapters again.chapters = true ∧
          again.registry.toList = eaten.1.snapshot.registry.toList ∧
          (eaten.1.snapshot.registry.currencies ≠ [] →
            again.registry.closed = (declaredOnly || eaten.1.snapshot.registry.closed)) := by
  have loaded : Snapshot.load eatingText none false = .ok (Snapshot.loadedFrom eatingText false) := by
    decide +kernel
  have started : start (Snapshot.loadedFrom eatingText false) ⟨2024, 1, 5, by decide⟩ 2 72 =
      .ok eating := by
    decide +kernel
  have reached : Reached (some keeping) (eating, none) eaten := Reached.start.executeAll _
  have facts : eaten.1.snapshot.entries.length = 1 ∧
      eaten.1.snapshot.format 72 = .ok (eaten.1.snapshot.canonicalText 72) ∧
      (∀ booking ∈ Chapter.bookingsOf eaten.1.snapshot.chapters, booking.IsTold) ∧
      (∀ currency ∈ eaten.1.snapshot.registry.toList, currency.Readable) ∧
      ∀ booking ∈ Chapter.bookingsOf eaten.1.snapshot.chapters, ∀ money ∈ booking.moneys,
        booking.turnover money.currency < eaten.1.snapshot.registry.capacity money.currency := by
    decide +kernel
  rcases facts with ⟨one_left, printed, told, readable, bounded⟩
  refine ⟨one_left, printed_ledger_comes_back loaded started reached printed told readable ?_⟩
  exact fun booking member => booking.turnover_lt_capacity (bounded booking member)

end Session
end Daybook
