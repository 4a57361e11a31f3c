import Daybook.Proofs.Booking.Balance
import Daybook.Proofs.Ledger.Checked
import Daybook.Proofs.Ledger.Loaded
import Daybook.Proofs.Ledger.Reread

namespace Daybook

/-!
# Loading a canonical text

What was printed is read back as it was shown, and what was shown is printed as
before.  Three things can prevent this: a currency whose designator or alias is not
accepted by the entry that declares it, a description that looks like a date, and a
booking whose amounts add up to zero only up to rounding.
-/

variable {registry again : Registry} {chapters reread : List Chapter}

/-! ## What is read back -/

theorem Chapter.bookingsOf_rereads (related : List.Forall₂ (Chapter.Rereads registry) chapters reread) :
    List.Forall₂ (Booking.Rereads registry) (bookingsOf chapters) (bookingsOf reread) := by
  rw [bookingsOf_eq, bookingsOf_eq]
  exact List.rel_flatMap related fun _ _ rereads => rereads.bookings

/-- Whether a registry lists the currencies of another one.  It is closed if that one
was, which an empty block of currencies cannot tell, or if only declared currencies were
accepted. -/
structure Registry.Restored (registry : Registry) (strict : Bool) (again : Registry) : Prop where
  listed : again.toList = registry.toList
  closed : registry.currencies ≠ [] → again.closed = (strict || registry.closed)

theorem Registry.Restored.isEmpty_eq {strict : Bool} (restored : registry.Restored strict again) :
    again.currencies.isEmpty = registry.currencies.isEmpty := by
  have length := congrArg List.length restored.listed
  rw [length_toList, length_toList] at length
  rw [Bool.eq_iff_iff, List.isEmpty_iff_length_eq_zero, List.isEmpty_iff_length_eq_zero, length]

/-- The block of currencies is printed as before. -/
theorem Registry.Restored.blockLines_eq (restored : registry.Restored false again) :
    again.blockLines = registry.blockLines := by
  cases empty : registry.currencies.isEmpty with
  | true => rw [blockLines_of_empty empty, blockLines_of_empty (restored.isEmpty_eq.trans empty)]
  | false =>
      have closed := restored.closed fun nothing => by
        rw [nothing] at empty
        cases empty
      rw [blockLines_of_filled empty, blockLines_of_filled (restored.isEmpty_eq.trans empty), headerLine,
        headerLine, restored.listed, closed, Bool.false_or]

theorem Registry.Stands.currencyFor (stands : registry.Stands again) (designator : Text) :
    again.currencyFor designator = registry.currencyFor designator := by
  rw [Registry.currencyFor, stands.same]
  rfl

/-! ## Lines -/

section Lines

variable {column : Int} {lines : List Text}

theorem Posting.Settled.isLine {posting : Posting} (settled : posting.Settled registry)
    (proper : registry.Proper) {line : Text} (ok : posting.toLine registry column = .ok line) :
    Text.IsLine line := by
  rcases settled.line proper ok with ⟨-, shown, currency, gap, -, -, -, -, -, known, rfl⟩
  exact isLine_bodyOf settled.account gap shown.amount known.suits.isDesignator

theorem Booking.isLine_postingLines (proper : registry.Proper) {postings : List Posting}
    (settled : ∀ posting ∈ postings, posting.Settled registry)
    (ok : postingLines registry column postings = .ok lines) : ∀ line ∈ lines, Text.IsLine line := by
  induction postings generalizing lines with
  | nil =>
      rcases Except.ok.inj ok with rfl
      exact fun _ member => by cases member
  | cons posting rest ih =>
      rcases Outcome.bind_eq_ok.mp ok with ⟨first, printed, ok⟩
      rcases Outcome.bind_eq_ok.mp ok with ⟨others, later, ok⟩
      rcases Except.ok.inj ok with rfl
      intro line member
      rcases List.mem_cons.mp member with rfl | inside
      · exact (settled posting List.mem_cons_self).isLine proper printed
      · exact ih (fun other among => settled other (List.mem_cons_of_mem _ among)) later line inside

theorem Chapter.isLine_bookingLines (proper : registry.Proper) {bookings : List Booking}
    (settled : ∀ booking ∈ bookings, booking.Settled registry)
    (ok : bookingLines registry column bookings = .ok lines) : ∀ line ∈ lines, Text.IsLine line := by
  induction bookings generalizing lines with
  | nil =>
      rcases Except.ok.inj ok with rfl
      exact fun _ member => by cases member
  | cons booking rest ih =>
      rcases Outcome.bind_eq_ok.mp ok with ⟨here, printed, ok⟩
      rcases Outcome.bind_eq_ok.mp ok with ⟨others, later, ok⟩
      rcases Except.ok.inj ok with rfl
      rcases Outcome.map_eq_ok.mp printed with ⟨postings, each, rfl⟩
      have known := settled booking List.mem_cons_self
      intro line member
      rcases List.mem_append.mp member with inside | inside
      · rcases List.mem_cons.mp inside with rfl | among
        · exact known.description.collapsed ▸ Text.isLine_collapse _
        · exact Booking.isLine_postingLines proper (fun _ => known.posting) each line among
      · exact ih (fun other among => settled other (List.mem_cons_of_mem _ among)) later line inside

theorem Chapter.isLine_blocks (proper : registry.Proper)
    (settled : ∀ booking ∈ bookingsOf chapters, booking.Settled registry) {blocks : List (List Text)}
    (ok : Chapter.blocks registry column chapters = .ok blocks) :
    ∀ block ∈ blocks, ∀ line ∈ block, Text.IsLine line := by
  induction chapters generalizing blocks with
  | nil =>
      rcases Except.ok.inj ok with rfl
      exact fun _ member => by cases member
  | cons chapter rest ih =>
      rcases Outcome.bind_eq_ok.mp ok with ⟨here, printed, ok⟩
      rcases Outcome.bind_eq_ok.mp ok with ⟨others, later, ok⟩
      rcases Except.ok.inj ok with rfl
      rcases Outcome.map_eq_ok.mp printed with ⟨behind, bookings, rfl⟩
      rw [bookingsOf_eq, List.flatMap_cons, ← bookingsOf_eq] at settled
      intro block member line inside
      rcases List.mem_cons.mp member with rfl | among
      · rcases List.mem_cons.mp inside with rfl | among
        · exact chapter.date.isSolid_toText.isLine
        · exact isLine_bookingLines proper
            (fun booking member => settled booking (List.mem_append_left _ member)) bookings line among
      · exact ih (fun booking member => settled booking (List.mem_append_right _ member)) later block
          among line inside

theorem Registry.Proper.isLine_blockLines (proper : registry.Proper) :
    ∀ line ∈ registry.blockLines, Text.IsLine line := by
  intro line member
  cases empty : registry.currencies.isEmpty with
  | true =>
      rw [Registry.blockLines_of_empty empty] at member
      cases member
  | false =>
      rw [Registry.blockLines_of_filled empty] at member
      rcases List.mem_cons.mp member with rfl | inside
      · unfold Registry.headerLine
        cases registry.closed with
        | false => exact (by decide : Text.IsLine headerWord)
        | true => exact (by decide : Text.IsLine (headerWord ++ ' ' :: closedWord))
      · rcases List.mem_map.mp inside with ⟨currency, listed, rfl⟩
        exact Currency.isLine_entryLine
          (proper.listed _ currency (proper.coherent.mem_toList.mp listed)).2

/-- The lines of a canonical text are the lines of its blocks. -/
theorem Snapshot.Settled.lines_format {snapshot : Snapshot} (settled : snapshot.Settled) {text : Text}
    (ok : snapshot.format column = .ok text) :
    ∃ blocks, Chapter.blocks snapshot.registry column snapshot.chapters = .ok blocks ∧
      Text.lines text = linesOf (blocksOf snapshot.registry blocks) := by
  rw [format_eq] at ok
  rcases Outcome.map_eq_ok.mp ok with ⟨blocks, printed, rfl⟩
  refine ⟨blocks, printed, Text.lines_ofLines ?_⟩
  have chapters := Chapter.isLine_blocks settled.registry settled.bookings printed
  have each : ∀ block ∈ blocksOf snapshot.registry blocks, ∀ line ∈ block, Text.IsLine line := by
    intro block member
    unfold blocksOf at member
    split at member
    · exact chapters block member
    · rcases List.mem_cons.mp member with rfl | inside
      · exact settled.registry.isLine_blockLines
      · exact chapters block inside
  intro line member
  rcases mem_linesOf member with rfl | ⟨block, among, inside⟩
  · exact Text.isLine_nil
  · exact each block among line inside

end Lines

/-! ## Reading -/

namespace Reader

/-- What was shown passes the final check. -/
theorem checkPrecision_of_rereads (stands : registry.Stands again) {money shown : Money}
    (rereads : money.Rereads registry shown) : shown.checkPrecision again = .ok shown := by
  rcases rereads.printed with ⟨unit, smallest, printed⟩
  rcases shown with ⟨currency, amount⟩
  have same : currency = money.currency := rereads.currency
  exact Money.checkPrecision_of_isPrinted (by rw [stands.currencyFor, same]; exact smallest) printed

/-- At the end, the chapters that were printed have been read. -/
theorem Ready.finish (stands : registry.Stands again) {reader : Reader}
    (ready : Ready registry again chapters reader) :
    ∃ reread, reader.finish = .ok ⟨again, reread⟩ ∧
      List.Forall₂ (Chapter.Rereads registry) chapters reread := by
  rcases ready with ⟨closed, ended, holds⟩
  have checked : Chapter.Checked closed.registry closed.chapters := by
    intro posting member money given
    rcases List.mem_flatMap.mp member with ⟨booking, inside, member⟩
    have related := Chapter.bookingsOf_rereads holds.chapters
    rw [Chapter.bookingsOf_eq (_ ++ _)] at related
    rcases exists_of_forall₂ related inside with ⟨old, -, rereads⟩
    rcases exists_of_forall₂ rereads.postings member with ⟨written, -, posting_rereads⟩
    rcases posting_rereads.money with ⟨amount, shown, -, money_rereads, shown_given⟩
    rcases Option.some.inj (given.symm.trans shown_given) with rfl
    rw [holds.currencies]
    exact checkPrecision_of_rereads stands money_rereads
  refine ⟨closed.chapters, ?_, holds.chapters⟩
  exact finish_eq_ok_iff.mpr ⟨closed, ended, by rw [holds.currencies], checked⟩

end Reader

namespace Snapshot

variable {snapshot : Snapshot}

/-- In a ledger without currencies there are no bookings. -/
theorem Settled.chapters_eq_nil (settled : snapshot.Settled) (none_listed : snapshot.registry.currencies = []) :
    snapshot.chapters = [] := by
  cases shape : snapshot.chapters with
  | nil => rfl
  | cons chapter rest =>
      have nonempty := settled.shape.nonempty chapter (by rw [shape]; exact List.mem_cons_self)
      rcases List.exists_cons_of_ne_nil nonempty with ⟨booking, others, bookings⟩
      have known := settled.bookings booking (by
        rw [shape, Chapter.bookingsOf_eq, List.flatMap_cons, bookings]
        simp)
      rcases List.exists_cons_of_ne_nil known.filled with ⟨posting, more, postings⟩
      rcases known.complete posting (by rw [postings]; exact List.mem_cons_self) with ⟨money, given⟩
      have listed := (known.settled posting (by rw [postings]; exact List.mem_cons_self) money given).known
      rw [Registry.has, Table.has, none_listed] at listed
      cases listed

/-- Reading the lines of a ledger gives its currencies and its chapters. -/
theorem Settled.exists_ready (settled : snapshot.Settled)
    (readable : ∀ currency ∈ snapshot.registry.toList, currency.Readable)
    (told : ∀ booking ∈ Chapter.bookingsOf snapshot.chapters, booking.IsTold) {column : Int}
    {blocks : List (List Text)}
    (ok : Chapter.blocks snapshot.registry column snapshot.chapters = .ok blocks) {strict : Bool}
    {reader : Reader} (starting : reader.Starting strict) :
    ∃ next again, reader.steps (Line.classify (linesOf (blocksOf snapshot.registry blocks))) = .ok next ∧
      snapshot.registry.Stands again ∧ snapshot.registry.Restored strict again ∧
      Reader.Ready snapshot.registry again snapshot.chapters next := by
  have proper := settled.registry
  have can_read : ∀ designator currency,
      snapshot.registry.currencies.get? designator = some currency → currency.Readable := by
    intro designator currency found
    apply readable currency
    rw [proper.coherent.mem_toList, (proper.listed designator currency found).1]
    exact found
  cases empty : snapshot.registry.currencies.isEmpty with
  | true =>
      have none_listed := List.isEmpty_iff.mp empty
      rw [settled.chapters_eq_nil none_listed] at ok ⊢
      rcases Except.ok.inj ok with rfl
      rw [blocksOf, Registry.blockLines_of_empty empty]
      refine ⟨reader, { closed := strict }, rfl, ⟨proper, ?_, can_read⟩, ⟨?_, ?_⟩, starting.ready⟩
      · intro designator
        rw [none_listed]
      · rw [Registry.toList, Registry.toList, none_listed]
      · exact fun filled => absurd none_listed filled
  | false =>
      obtain ⟨middle, declaring, run⟩ := Reader.reads_block proper empty readable strict 1
        (blocks.flatMap ([] :: ·)) reader starting
      have redeclares := declaring.currencies
      have stands : snapshot.registry.Stands middle.registry :=
        ⟨proper, redeclares.currencies_get? (proper.withClosed _), can_read⟩
      obtain ⟨next, after, rest⟩ := Reader.reads_chapters stands settled.bookings told ok []
        (1 + snapshot.registry.blockLines.length) [] middle declaring.ready
      refine ⟨next, middle.registry, ?_, stands, ⟨redeclares.toList_eq, fun _ => redeclares.closed⟩, after⟩
      rw [List.append_nil, Line.classifyFrom] at rest
      rw [linesOf_blocksOf empty, Line.classify, run]
      exact rest

/-- What lets a ledger come back from its canonical text. -/
structure Readable (snapshot : Snapshot) : Prop where
  currencies : ∀ currency ∈ snapshot.registry.toList, currency.Readable
  descriptions : ∀ booking ∈ Chapter.bookingsOf snapshot.chapters, booking.IsTold
  balanced : ∀ booking ∈ Chapter.bookingsOf snapshot.chapters, booking.isBalanced = .ok true

/-- Reading the canonical text of a ledger. -/
theorem Settled.exists_reading (settled : snapshot.Settled)
    (readable : ∀ currency ∈ snapshot.registry.toList, currency.Readable)
    (told : ∀ booking ∈ Chapter.bookingsOf snapshot.chapters, booking.IsTold) {column : Int} {text : Text}
    (ok : snapshot.format column = .ok text) (today : Option Calendar.Date) (strict : Bool) :
    ∃ again reread, Reading.ofText text today {} strict = .ok ⟨again, reread⟩ ∧
      snapshot.registry.Stands again ∧ snapshot.registry.Restored strict again ∧
      List.Forall₂ (Chapter.Rereads snapshot.registry) snapshot.chapters reread := by
  rcases settled.lines_format ok with ⟨blocks, printed, lines⟩
  obtain ⟨next, again, run, stands, restored, ready⟩ := @Settled.exists_ready _ settled readable told column
    blocks printed strict { today, registry := { closed := strict } } ⟨rfl, rfl, rfl, rfl⟩
  rcases ready.finish stands with ⟨reread, finished, related⟩
  refine ⟨again, reread, ?_, stands, restored, related⟩
  rw [← lines] at run
  unfold Reading.ofText
  rw [Registry.withClosed_empty]
  dsimp only
  rw [run]
  exact finished

end Snapshot

/-! ## Resolving -/

section Content

variable (stands : registry.Stands again)
include stands

theorem Money.Settled.ofRereads {power : Int} {money shown : Money} (settled : money.Settled registry power)
    (rereads : money.Rereads registry shown) : shown.Settled again power := by
  have same := rereads.value
  refine ⟨?_, ?_, ?_⟩
  · rw [rereads.currency, Registry.has, Table.has, stands.same]
    exact settled.known
  · intro unit smallest
    rw [rereads.currency, stands.currencyFor] at smallest
    rcases settled.bounds unit smallest with ⟨grid, within⟩
    exact ⟨same ▸ grid, by rw [Decimal.Within, same]; exact within⟩
  · rw [Decimal.Within, same]
    exact settled.within

/-- What is read back of a settled booking is settled. -/
theorem Booking.Settled.ofRereads {booking back : Booking} (settled : booking.Settled registry)
    (rereads : booking.Rereads registry back) : back.Settled again := by
  have posting : ∀ posting ∈ back.postings, ∃ old ∈ booking.postings, old.Rereads registry posting :=
    fun _ => exists_of_forall₂ rereads.postings
  refine ⟨⟨rereads.description ▸ settled.description, rereads.split, ?_, ?_, ?_⟩, ?_⟩
  · intro nothing
    have length := rereads.postings.length_eq
    rw [nothing, List.length_nil, List.length_eq_zero_iff] at length
    exact settled.filled length
  · intro other member
    rcases posting other member with ⟨old, inside, same⟩
    exact same.account ▸ settled.accounts old inside
  · intro other member money given
    rcases posting other member with ⟨old, inside, same⟩
    rcases same.money with ⟨written, shown, written_given, money_rereads, shown_given⟩
    rcases Option.some.inj (shown_given.symm.trans given) with rfl
    exact (settled.settled old inside written written_given).ofRereads stands money_rereads
  · intro other member
    rcases posting other member with ⟨old, -, same⟩
    rcases same.money with ⟨-, shown, -, -, shown_given⟩
    exact ⟨shown, shown_given⟩

end Content

theorem sameMoney_of_rereads {postings back : List Posting}
    (related : List.Forall₂ (Posting.Rereads registry) postings back)
    (small : ∀ posting ∈ postings, ∀ money, posting.money = some money →
      Decimal.Within amountPower money.amount) :
    List.Forall₂ Booking.SameMoney (postings.filterMap (·.money)) (back.filterMap (·.money)) := by
  induction related with
  | nil => exact List.Forall₂.nil
  | @cons one other _ _ here later ih =>
      rcases here.money with ⟨written, shown, given, rereads, shown_given⟩
      rw [List.filterMap_cons, List.filterMap_cons, given, shown_given]
      refine List.Forall₂.cons ⟨rereads.currency.symm, rereads.value.symm, ?_⟩ ?_
      · exact small one List.mem_cons_self written given
      · exact ih fun posting member => small posting (List.mem_cons_of_mem _ member)

/-- What is read back of a booking is balanced exactly when the booking is. -/
theorem Booking.Rereads.isBalanced_eq (stands : registry.Stands again) {booking back : Booking}
    (settled : booking.Settled registry) (rereads : booking.Rereads registry back) :
    back.isBalanced = booking.isBalanced := by
  have same := sameMoney_of_rereads rereads.postings fun posting member money given =>
    (settled.settled posting member money given).within
  exact (isBalanced_of_sameMoney settled.blankPostings_eq_nil
    (settled.ofRereads stands rereads).blankPostings_eq_nil same).symm

namespace Chapter

/-- Bookings with nothing left to do are resolved exactly when they are balanced, and
each comes in a chapter of its own. -/
theorem resolveEntries_eq_ok_iff {entries : List (Calendar.Date × Booking)}
    (plain : ∀ entry ∈ entries, entry.2.split = none ∧ entry.2.dateOffset = 0 ∧
      entry.2.blankPostings = []) {resolved : List Chapter} :
    resolveEntries registry entries = .ok resolved ↔
      (∀ entry ∈ entries, entry.2.isBalanced = .ok true) ∧
        resolved = entries.map fun entry => ⟨entry.1, [entry.2]⟩ := by
  induction entries generalizing resolved with
  | nil =>
      constructor
      · intro ok
        exact ⟨by simp, (Except.ok.inj ok).symm⟩
      · rintro ⟨-, rfl⟩
        rfl
  | cons entry rest ih =>
      rcases entry with ⟨date, booking⟩
      rcases plain _ List.mem_cons_self with ⟨no_split, no_offset, complete⟩
      have later := fun others => @ih (fun other member => plain other (List.mem_cons_of_mem _ member)) others
      have moved : booking.onItsDate date = .ok ⟨date, [booking]⟩ := by
        rw [Booking.onItsDate, if_pos no_offset]
      rw [resolveEntries]
      constructor
      · intro ok
        rcases Outcome.bind_eq_ok.mp ok with ⟨same, settled, behind⟩
        rcases (Booking.resolve_eq_ok_iff registry no_split complete).mp settled with ⟨balanced, rfl⟩
        rcases Outcome.bind_eq_ok.mp behind with ⟨chapter, on_date, behind⟩
        rcases Except.ok.inj (moved.symm.trans on_date) with rfl
        rcases Outcome.bind_eq_ok.mp behind with ⟨others, resolved_others, put_together⟩
        rcases (later others).mp resolved_others with ⟨balanced_others, rfl⟩
        rcases Except.ok.inj put_together with rfl
        refine ⟨?_, rfl⟩
        intro other member
        rcases List.mem_cons.mp member with rfl | inside
        · exact balanced
        · exact balanced_others other inside
      · rintro ⟨balanced, rfl⟩
        have here := (Booking.resolve_eq_ok_iff registry no_split complete).mpr
          ⟨balanced _ List.mem_cons_self, rfl⟩
        have behind := (later _).mpr ⟨fun other member => balanced other (List.mem_cons_of_mem _ member), rfl⟩
        rw [here]
        change (do
          let chapter ← booking.onItsDate date
          let others ← resolveEntries registry rest
          return chapter :: others : Outcome (List Chapter)) = _
        rw [moved, behind]
        rfl

end Chapter

/-! ## Printing again -/

section Printing

variable {column : Int}

theorem Posting.Rereads.toLine_eq (stands : registry.Stands again) {posting back : Posting}
    (rereads : posting.Rereads registry back) : back.toLine again column = posting.toLine registry column := by
  rcases rereads.money with ⟨written, shown, given, money_rereads, shown_given⟩
  rcases money_rereads.printed with ⟨unit, smallest, printed⟩
  rcases shown with ⟨designator, amount⟩
  have same : designator = written.currency := money_rereads.currency
  have format : Money.format ⟨designator, amount⟩ again =
      .ok (Money.textOf (registry.currencyFor written.currency) amount) :=
    Money.format_of_isPrinted (by rw [stands.currencyFor, same]) smallest printed
  rw [toLine, toLine, shown_given, given, rereads.account]
  dsimp only
  rw [format, money_rereads.format]

theorem Booking.postingLines_of_rereads (stands : registry.Stands again) {postings back : List Posting}
    (related : List.Forall₂ (Posting.Rereads registry) postings back) :
    postingLines again column back = postingLines registry column postings := by
  induction related with
  | nil => rfl
  | cons here later ih => rw [postingLines, postingLines, here.toLine_eq stands, ih]

theorem Chapter.bookingLines_of_rereads (stands : registry.Stands again) {bookings back : List Booking}
    (related : List.Forall₂ (Booking.Rereads registry) bookings back) :
    bookingLines again column back = bookingLines registry column bookings := by
  induction related with
  | nil => rfl
  | @cons one other _ _ here later ih =>
      have lines : other.toLines again column = one.toLines registry column := by
        rw [Booking.toLines, Booking.toLines, Booking.postingLines_of_rereads stands here.postings,
          here.description]
      rw [bookingLines, bookingLines, lines, ih]

/-- What is read back is printed as before. -/
theorem Chapter.blocks_of_rereads (stands : registry.Stands again)
    (related : List.Forall₂ (Rereads registry) chapters reread) :
    blocks again column reread = blocks registry column chapters := by
  induction related with
  | nil => rfl
  | @cons one other _ _ here later ih =>
      have lines : other.toLines again column = one.toLines registry column := by
        rw [Chapter.toLines, Chapter.toLines, bookingLines_of_rereads stands here.bookings, here.date]
      rw [blocks, blocks, lines, ih]

end Printing

theorem Chapter.inShape_of_rereads (shape : InShape chapters)
    (related : List.Forall₂ (Rereads registry) chapters reread) : InShape reread := by
  induction related with
  | nil => exact InShape.nil
  | @cons one other _ others here later ih =>
      refine (ih shape.tail).cons ?_ ?_
      · intro nothing
        have length := here.bookings.length_eq
        rw [nothing, List.length_nil, List.length_eq_zero_iff] at length
        exact shape.nonempty one List.mem_cons_self length
      · intro chapter member
        rcases exists_of_forall₂ later member with ⟨old, inside, rereads⟩
        rw [here.date, rereads.date]
        exact shape.before old inside

/-! ## Numbering -/

theorem Booking.rereads_numberBookings {bookings back : List Booking}
    (related : List.Forall₂ (Booking.Rereads registry) bookings back) (start : Nat) :
    List.Forall₂ (Booking.Rereads registry) bookings (Chapter.numberBookings start back) := by
  induction related generalizing start with
  | nil => exact List.Forall₂.nil
  | cons here _ ih =>
      exact List.Forall₂.cons ⟨here.description, here.postings, here.split, here.dateOffset⟩ (ih (start + 1))

/-- What is read back may be numbered. -/
theorem Chapter.rereads_number (related : List.Forall₂ (Rereads registry) chapters reread) (start : Nat) :
    List.Forall₂ (Rereads registry) chapters (number start reread) := by
  induction related generalizing start with
  | nil => exact List.Forall₂.nil
  | cons here _ ih =>
      exact List.Forall₂.cons ⟨here.date, Booking.rereads_numberBookings here.bookings start⟩ (ih _)

namespace Snapshot

variable {snapshot : Snapshot}

/-- A readable ledger comes back from its canonical text, whatever the present day and
whether or not only declared currencies are accepted. -/
theorem Settled.exists_loaded (settled : snapshot.Settled) (readable : snapshot.Readable) {column : Int}
    {text : Text} (ok : snapshot.format column = .ok text) (today : Option Calendar.Date)
    (strict : Bool) :
    ∃ loaded, load text today strict = .ok loaded ∧ snapshot.registry.Stands loaded.registry ∧
      snapshot.registry.Restored strict loaded.registry ∧
      List.Forall₂ (Chapter.Rereads snapshot.registry) snapshot.chapters loaded.chapters := by
  obtain ⟨again, reread, read, stands, restored, related⟩ :=
    settled.exists_reading readable.currencies readable.descriptions ok today strict
  have bookings := Chapter.bookingsOf_rereads related
  have back : ∀ entry ∈ Chapter.entries reread, ∃ old ∈ Chapter.bookingsOf snapshot.chapters,
      old.Rereads snapshot.registry entry.2 := fun entry member =>
    exists_of_forall₂ bookings (List.mem_map_of_mem member)
  have resolved : Chapter.resolveAll again reread = .ok (Chapter.singles reread) := by
    refine (Chapter.resolveEntries_eq_ok_iff ?_).mpr ⟨?_, rfl⟩
    · intro entry member
      rcases back entry member with ⟨old, inside, rereads⟩
      exact ⟨rereads.split, rereads.dateOffset,
        ((settled.bookings old inside).ofRereads stands rereads).blankPostings_eq_nil⟩
    · intro entry member
      rcases back entry member with ⟨old, inside, rereads⟩
      rw [rereads.isBalanced_eq stands (settled.bookings old inside)]
      exact readable.balanced old inside
  have content : ∀ booking ∈ Chapter.bookingsOf (Chapter.singles reread), booking.Settled again := by
    intro booking member
    rw [Chapter.bookingsOf, Chapter.entries_singles, ← Chapter.bookingsOf] at member
    rcases exists_of_forall₂ bookings member with ⟨old, inside, rereads⟩
    exact (settled.bookings old inside).ofRereads stands rereads
  have shape := Chapter.inShape_of_rereads settled.shape related
  obtain ⟨loaded, built, -, -, numbered, rfl⟩ :=
    exists_ofChapters (Reading.proper_of_ofText read).registry content
  rw [Chapter.merge_singles shape.nonempty, Chapter.merge_of_inShape shape] at numbered
  refine ⟨loaded, ?_, stands, restored, numbered ▸ Chapter.rereads_number related 0⟩
  rw [load, read]
  change (do
    let chapters ← Chapter.resolveAll loaded.registry reread
    ofChapters chapters loaded.registry [] : Outcome Snapshot) = _
  rw [resolved]
  exact built

/-- A readable ledger comes back from its canonical text, which is its canonical text
again. -/
theorem Settled.exists_reload (settled : snapshot.Settled) (readable : snapshot.Readable) {column : Int}
    {text : Text} (ok : snapshot.format column = .ok text) :
    ∃ loaded, load text none false = .ok loaded ∧ loaded.format column = .ok text := by
  obtain ⟨loaded, again, stands, restored, related⟩ := settled.exists_loaded readable ok none false
  refine ⟨loaded, again, ?_⟩
  rw [← ok, format_eq, format_eq, Chapter.blocks_of_rereads stands related,
    blocksOf_congr restored.blockLines_eq]

end Snapshot
end Daybook
