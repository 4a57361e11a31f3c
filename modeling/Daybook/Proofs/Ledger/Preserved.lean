import Daybook.Proofs.Ledger.Balanced
import Daybook.Proofs.Ledger.Listed
import Daybook.Proofs.Ledger.Reload

namespace Daybook

/-!
# What printing and loading preserve

A ledger that is readable comes back from its canonical text with its chapters and its
currencies.  The text may be printed for any column, since the column decides on spaces
only, and it may be loaded on any day, since it names no relative day.  A loaded ledger
from which bookings were removed is still readable if it does not move too much of a
currency in one booking.
-/

/-! ## Printing -/

section Printing

variable {registry : Registry} {column : Int}

theorem Posting.exists_toLine {posting : Posting} :
    (∃ line, posting.toLine registry column = .ok line) ↔
      ∀ money, posting.money = some money → ∃ shown, money.format registry = .ok shown := by
  unfold toLine
  cases posting.money with
  | none => exact iff_of_true ⟨_, rfl⟩ fun money given => by cases given
  | some money =>
      dsimp only
      rw [Outcome.exists_map]
      simp only [Option.some.injEq, forall_eq']

theorem Booking.exists_postingLines {postings : List Posting} :
    (∃ lines, postingLines registry column postings = .ok lines) ↔
      ∀ posting ∈ postings, ∀ money, posting.money = some money →
        ∃ shown, money.format registry = .ok shown := by
  induction postings with
  | nil => exact iff_of_true ⟨[], rfl⟩ fun posting member => by cases member
  | cons posting rest ih =>
      rw [postingLines, Outcome.exists_both, ih, Posting.exists_toLine, List.forall_mem_cons]

theorem Chapter.exists_bookingLines {bookings : List Booking} :
    (∃ lines, bookingLines registry column bookings = .ok lines) ↔
      ∀ booking ∈ bookings, ∀ posting ∈ booking.postings, ∀ money, posting.money = some money →
        ∃ shown, money.format registry = .ok shown := by
  induction bookings with
  | nil => exact iff_of_true ⟨[], rfl⟩ fun booking member => by cases member
  | cons booking rest ih =>
      rw [bookingLines, Outcome.exists_both, ih, Booking.toLines, Outcome.exists_map,
        Booking.exists_postingLines, List.forall_mem_cons]

theorem Chapter.exists_blocks {chapters : List Chapter} :
    (∃ printed, blocks registry column chapters = .ok printed) ↔
      ∀ booking ∈ bookingsOf chapters, ∀ posting ∈ booking.postings, ∀ money,
        posting.money = some money → ∃ shown, money.format registry = .ok shown := by
  induction chapters with
  | nil => exact iff_of_true ⟨[], rfl⟩ fun booking member => by cases member
  | cons chapter rest ih =>
      rw [blocks, Outcome.exists_both, ih, Chapter.toLines, Outcome.exists_map, exists_bookingLines,
        bookingsOf_eq, bookingsOf_eq, List.flatMap_cons, List.forall_mem_append]

/-- A ledger can be printed exactly when each of its amounts can. -/
theorem Snapshot.exists_format {snapshot : Snapshot} :
    (∃ text, snapshot.format column = .ok text) ↔
      ∀ booking ∈ Chapter.bookingsOf snapshot.chapters, ∀ posting ∈ booking.postings, ∀ money,
        posting.money = some money → ∃ shown, money.format snapshot.registry = .ok shown := by
  rw [format_eq, Outcome.exists_map, Chapter.exists_blocks]

end Printing

/-! ## Content -/

section Content

variable {registry : Registry}

theorem Posting.Rereads.same {posting back : Posting} (rereads : posting.Rereads registry back) :
    posting.same back = true := by
  rcases rereads.money with ⟨written, shown, given, money, shown_given⟩
  rw [Posting.same, rereads.account, beq_self_eq_true, Bool.true_and, given, shown_given]
  dsimp only
  rw [Money.same, money.currency, beq_self_eq_true, Bool.true_and, Decimal.same_iff]
  exact money.value.symm

/-- A booking with nothing left to do has the content of what is read back of it. -/
theorem Booking.Rereads.same {booking back : Booking} (rereads : booking.Rereads registry back)
    (no_split : booking.split = none) (on_date : booking.dateOffset = 0) : booking.same back = true := by
  have postings := pairwiseSame_of_forall₂ rereads.postings fun _ _ _ posting => posting.same
  rw [Booking.same, postings, rereads.description, rereads.split, rereads.dateOffset, no_split, on_date]
  simp

theorem Chapter.same_of_rereads {chapters reread : List Chapter}
    (related : List.Forall₂ (Chapter.Rereads registry) chapters reread)
    (plain : ∀ booking ∈ bookingsOf chapters, booking.split = none ∧ booking.dateOffset = 0) :
    pairwiseSame Chapter.same chapters reread = true := by
  apply pairwiseSame_of_forall₂ related
  intro chapter member back rereads
  have bookings := pairwiseSame_of_forall₂ rereads.bookings fun booking among _ here => by
    have inside : booking ∈ bookingsOf chapters := by
      rw [bookingsOf_eq]
      exact List.mem_flatMap.mpr ⟨chapter, member, among⟩
    exact here.same (plain booking inside).1 (plain booking inside).2
  rw [Chapter.same, rereads.date, bookings, beq_self_eq_true]
  rfl

end Content

namespace Snapshot

variable {snapshot origin : Snapshot}

/-! ## Removing bookings -/

/-- Whether a ledger is what is left of another one when bookings are removed. -/
structure PartOf (origin snapshot : Snapshot) : Prop where
  registry : snapshot.registry = origin.registry
  shape : Chapter.InShape snapshot.chapters
  bookings : ∀ booking ∈ Chapter.bookingsOf snapshot.chapters,
    booking ∈ Chapter.bookingsOf origin.chapters

theorem PartOf.refl (settled : snapshot.Settled) : snapshot.PartOf snapshot :=
  ⟨rfl, settled.shape, fun _ member => member⟩

theorem PartOf.openAccount (part : origin.PartOf snapshot) (account : Account) :
    origin.PartOf (snapshot.openAccount account) := by
  have chapters := snapshot.openAccount_chapters account
  refine ⟨?_, chapters ▸ part.shape, chapters ▸ part.bookings⟩
  rw [snapshot.openAccount_registry account]
  exact part.registry

theorem PartOf.remove (part : origin.PartOf snapshot) {label : Text} {booking : Booking}
    {after : Snapshot} (ok : snapshot.remove label = .ok (booking, after)) : origin.PartOf after := by
  rcases remove_eq_ok ok with ⟨date, -, committed⟩
  rcases commit_eq_ok committed with ⟨balances, usage, contacts, -, -, rfl⟩
  refine ⟨part.registry, part.shape.remove label, fun other member => part.bookings other ?_⟩
  exact ((Chapter.entries_remove_sublist label snapshot.chapters).map _).subset member

theorem PartOf.settled (part : origin.PartOf snapshot) (settled : origin.Settled) : snapshot.Settled where
  registry := part.registry ▸ settled.registry
  shape := part.shape
  bookings := fun booking member => part.registry ▸ settled.bookings booking (part.bookings booking member)

/-! ## Coming back -/

variable {text : Text} {today : Option Calendar.Date} {strict : Bool}

/-- What is left of a loaded ledger comes back from its canonical text. -/
theorem PartOf.exists_loaded (loaded : load text today strict = .ok origin)
    (part : origin.PartOf snapshot) {width : Int} {shown : Text}
    (printed : snapshot.format width = .ok shown)
    (told : ∀ booking ∈ Chapter.bookingsOf snapshot.chapters, booking.IsTold)
    (readable : ∀ currency ∈ snapshot.registry.toList, currency.Readable)
    (bounded : ∀ booking ∈ Chapter.bookingsOf snapshot.chapters, ∀ currency,
      booking.turnover currency < snapshot.registry.capacity currency)
    (column : Int) (day : Option Calendar.Date) (closed : Bool) :
    ∃ canonical again, snapshot.format column = .ok canonical ∧ load canonical day closed = .ok again ∧
      pairwiseSame Chapter.same snapshot.chapters again.chapters = true ∧
      snapshot.registry.Restored closed again.registry := by
  have settled := part.settled (settled_of_load loaded)
  have balanced : ∀ booking ∈ Chapter.bookingsOf snapshot.chapters, booking.isBalanced = .ok true := by
    intro booking member
    apply isBalanced_of_load loaded (part.bookings booking member)
    intro currency
    rw [← part.registry]
    exact (bounded booking member currency).le
  have plain : ∀ booking ∈ Chapter.bookingsOf snapshot.chapters,
      booking.split = none ∧ booking.dateOffset = 0 := by
    intro booking member
    rcases exists_written loaded (part.bookings booking member) with ⟨-, -, -, -, -, -, on_date⟩
    exact ⟨(settled.bookings booking member).split, on_date⟩
  rcases exists_format.mpr (exists_format.mp ⟨shown, printed⟩) with ⟨canonical, ok⟩
  obtain ⟨again, same, -, restored, related⟩ :=
    settled.exists_loaded ⟨readable, told, balanced⟩ ok day closed
  exact ⟨canonical, again, ok, same, Chapter.same_of_rereads related plain, restored⟩

end Snapshot
end Daybook
