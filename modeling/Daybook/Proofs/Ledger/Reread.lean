import Daybook.Proofs.Booking.Resolution
import Daybook.Proofs.Calendar.Printed
import Daybook.Proofs.Currency.Redeclared
import Daybook.Proofs.Ledger.Posting

namespace Daybook

/-!
# Reading a canonical text

The lines of a canonical text are read block by block.  For each kind of block it is
said from which states it can be read and in which states reading leaves it; what
follows the block stays open, so that these statements can be put one behind the
other.  What is read has the content of what was printed, except that an amount comes
back as it was shown.
-/

/-- Whether a booking is what is read back of another one. -/
structure Booking.Rereads (registry : Registry) (booking reread : Booking) : Prop where
  description : reread.description = booking.description
  postings : List.Forall₂ (Posting.Rereads registry) booking.postings reread.postings
  split : reread.split = none
  dateOffset : reread.dateOffset = 0

/-- Whether a chapter is what is read back of another one. -/
structure Chapter.Rereads (registry : Registry) (chapter reread : Chapter) : Prop where
  date : reread.date = chapter.date
  bookings : List.Forall₂ (Booking.Rereads registry) chapter.bookings reread.bookings

namespace Reader

theorem steps_append (reader : Reader) (front back : List NumberedLine) :
    reader.steps (front ++ back) = reader.steps front >>= fun next => next.steps back := by
  induction front generalizing reader with
  | nil => rfl
  | cons numbered rest ih =>
      rw [List.cons_append, steps, steps, bind_assoc]
      exact congrArg _ (funext fun next => ih next)

theorem steps_cons {reader next : Reader} {numbered : NumberedLine} (stepped : reader.step numbered = .ok next)
    (rest : List NumberedLine) : reader.steps (numbered :: rest) = next.steps rest := by
  rw [steps, stepped]
  rfl

/-- Whether lines lead from the states of one kind to states of another kind, whatever
follows them.  The flags say whether a break precedes and whether one is at the end. -/
def Reads (afterGap : Bool) (lines : List Text) (endsInGap : Bool) (before after : Reader → Prop) : Prop :=
  ∀ number following reader, before reader → ∃ next, after next ∧
    reader.steps (Line.classifyFrom afterGap number (lines ++ following)) =
      next.steps (Line.classifyFrom endsInGap (number + lines.length) following)

theorem Reads.append {first second third : Bool} {front back : List Text}
    {before between after : Reader → Prop} (one : Reads first front second before between)
    (other : Reads second back third between after) : Reads first (front ++ back) third before after := by
  intro number following reader holds
  rcases one number (back ++ following) reader holds with ⟨middle, here, run⟩
  rcases other (number + front.length) following middle here with ⟨next, there, rest⟩
  refine ⟨next, there, ?_⟩
  rw [List.append_assoc, run, rest, List.length_append, Nat.add_assoc]

theorem Reads.weaken {afterGap endsInGap : Bool} {lines : List Text} {before after weaker : Reader → Prop}
    (reads : Reads afterGap lines endsInGap before after) (implies : ∀ reader, after reader → weaker reader) :
    Reads afterGap lines endsInGap before weaker := by
  intro number following reader holds
  rcases reads number following reader holds with ⟨next, there, run⟩
  exact ⟨next, implies next there, run⟩

/-! ## The states between blocks -/

/-- Closing a booking does not depend on the currency block. -/
theorem closeBooking_withBlock {reader closed : Reader} (ok : reader.closeBooking = .ok closed)
    (inBlock : Bool) : { reader with inBlock }.closeBooking = .ok { closed with inBlock } := by
  unfold closeBooking at ok ⊢
  dsimp only
  split at ok
  · rcases Except.ok.inj ok with rfl
    rfl
  · split at ok
    · cases ok
    · rcases Except.ok.inj ok with rfl
      rename_i filled
      rw [if_neg filled]

section States

variable (registry again : Registry)

/-- The state in which no booking is open and some chapters have been read. -/
structure Holds (chapters : List Chapter) (reader : Reader) : Prop where
  currencies : reader.registry = again
  booking : reader.booking = none
  chapters : List.Forall₂ (Chapter.Rereads registry) chapters
    (reader.closedChapters ++ reader.chapter.toList)

/-- A state that becomes such a one when the open booking is closed. -/
def Ready (chapters : List Chapter) (reader : Reader) : Prop :=
  ∃ closed, reader.closeBooking = .ok closed ∧ Holds registry again chapters closed

/-- The state in which a chapter is open and no booking. -/
structure HoldsIn (front : List Chapter) (chapter : Chapter) (reader : Reader) : Prop where
  currencies : reader.registry = again
  booking : reader.booking = none
  closed : List.Forall₂ (Chapter.Rereads registry) front reader.closedChapters
  chapter : ∃ current, reader.chapter = some current ∧ chapter.Rereads registry current

/-- A state that becomes such a one when the open booking is closed. -/
def ReadyIn (front : List Chapter) (chapter : Chapter) (reader : Reader) : Prop :=
  ∃ closed, reader.closeBooking = .ok closed ∧ HoldsIn registry again front chapter closed

/-- The state in which a booking of a chapter is open. -/
structure Opened (front : List Chapter) (chapter : Chapter) (booking : Booking) (reader : Reader) :
    Prop where
  currencies : reader.registry = again
  outside : reader.inBlock = false
  closed : List.Forall₂ (Chapter.Rereads registry) front reader.closedChapters
  chapter : ∃ current, reader.chapter = some current ∧ chapter.Rereads registry current
  booking : ∃ current, reader.booking = some current ∧ booking.Rereads registry current

end States

variable {registry again : Registry} {front chapters : List Chapter} {chapter : Chapter} {booking : Booking}
  {reader : Reader}

theorem closeBooking_of_none (nothing : reader.booking = none) : reader.closeBooking = .ok reader := by
  rw [closeBooking, nothing]

/-- A gap closes the booking and the currency block. -/
theorem step_gap {closed : Reader} (ended : reader.closeBooking = .ok closed) {numbered : NumberedLine}
    (gap : numbered.line = .gap) : reader.step numbered = .ok { closed with inBlock := false } := by
  rw [step, gap]
  exact Outcome.bind_eq_ok.mpr ⟨closed, ended, rfl⟩

theorem ReadyIn.ready (ready : ReadyIn registry again front chapter reader) :
    Ready registry again (front ++ [chapter]) reader := by
  rcases ready with ⟨closed, ended, holds⟩
  rcases holds.chapter with ⟨current, opened, rereads⟩
  refine ⟨closed, ended, holds.currencies, holds.booking, ?_⟩
  rw [opened]
  exact List.rel_append holds.closed (List.Forall₂.cons rereads List.Forall₂.nil)

theorem Opened.readyIn (opened : Opened registry again front chapter booking reader)
    (filled : booking.postings ≠ []) :
    ReadyIn registry again front { chapter with bookings := chapter.bookings ++ [booking] } reader := by
  rcases opened.booking with ⟨current, here, rereads⟩
  rcases opened.chapter with ⟨around, there, chapter_rereads⟩
  have some_posting : current.postings.isEmpty = false := by
    rw [List.isEmpty_eq_false_iff]
    intro none_there
    have length := rereads.postings.length_eq
    rw [none_there, List.length_nil, List.length_eq_zero_iff] at length
    exact filled length
  refine ⟨_, by rw [closeBooking, here]; dsimp only; rw [some_posting, if_neg Bool.false_ne_true], ?_⟩
  refine ⟨opened.currencies, rfl, opened.closed, ?_⟩
  refine ⟨{ around with bookings := around.bookings ++ [current] }, by rw [there]; rfl, ?_⟩
  exact ⟨chapter_rereads.date,
    List.rel_append chapter_rereads.bookings (List.Forall₂.cons rereads List.Forall₂.nil)⟩

theorem reads_gap (afterGap : Bool) :
    Reads afterGap [[]] true (Ready registry again chapters) (Ready registry again chapters) := by
  rintro number following reader ⟨closed, ended, holds⟩
  have stepped : reader.step ⟨number, .gap⟩ = .ok { closed with inBlock := false } := step_gap ended rfl
  refine ⟨{ closed with inBlock := false }, ⟨_, closeBooking_of_none holds.booking, ?_⟩, ?_⟩
  · exact ⟨holds.currencies, holds.booking, holds.chapters⟩
  · rw [List.singleton_append, Line.classifyFrom_nil_line, steps_cons stepped]
    rfl

/-- The line of a date opens a chapter. -/
theorem reads_date (afterGap : Bool) (date : Calendar.Date) :
    Reads afterGap [date.toText] false (Ready registry again front)
      (ReadyIn registry again front ⟨date, []⟩) := by
  rintro number following reader ⟨closed, ended, holds⟩
  have looks := date.isDate_toText
  rcases date.exists_head_toText with ⟨c, rest, head, -⟩
  have line := Line.classifyFrom_unindented (head ▸ List.cons_ne_nil c rest) date.isSolid_toText.isTrim
    date.not_mem_commentMark afterGap number following
  rw [Line.ofUnindented_date (Or.inl looks)] at line
  have stepped : reader.step ⟨number, .date date.toText⟩ =
      .ok ({ closed with inBlock := false }.openChapter date) := by
    rw [step]
    dsimp only
    rw [closeBooking_withBlock ended false, readDate, looks, if_pos rfl, date.ofText_toText]
    rfl
  refine ⟨_, ?_, by rw [List.singleton_append, line, steps_cons stepped]; rfl⟩
  refine ⟨_, closeBooking_of_none holds.booking, holds.currencies, holds.booking, holds.chapters, ?_⟩
  exact ⟨⟨date, []⟩, rfl, rfl, List.Forall₂.nil⟩

end Reader

/-! ## Postings and bookings -/

/-- Whether the currencies of a registry can be read back and are known to another
registry. -/
structure Registry.Stands (registry again : Registry) : Prop where
  proper : registry.Proper
  same : ∀ designator, again.currencies.get? designator = registry.currencies.get? designator
  readable : ∀ designator currency, registry.currencies.get? designator = some currency →
    currency.Readable

/-- Whether a posting has a normal account and an amount on the grid of a known
currency. -/
structure Posting.Settled (registry : Registry) (posting : Posting) : Prop where
  account : posting.account.IsNormal
  money : ∃ money, posting.money = some money ∧ registry.has money.currency = true ∧
    money.OnCurrencyGrid registry

theorem Booking.Settled.posting {registry : Registry} {booking : Booking} (settled : booking.Settled registry)
    {posting : Posting} (member : posting ∈ booking.postings) : posting.Settled registry := by
  rcases settled.complete posting member with ⟨money, given⟩
  have known := settled.settled posting member money given
  exact ⟨settled.accounts posting member, money, given, known.known, known.onCurrencyGrid⟩

/-- Whether the description of a booking is taken for one. -/
def Booking.IsTold (booking : Booking) : Prop :=
  Line.isDate booking.description = false ∧ Line.isDateLike booking.description = false

instance (booking : Booking) : Decidable booking.IsTold := inferInstanceAs (Decidable (_ ∧ _))

/-- What is printed for a settled posting. -/
theorem Posting.Settled.line {registry : Registry} {posting : Posting} (settled : posting.Settled registry)
    (proper : registry.Proper) {column : Int} {line : Text} (ok : posting.toLine registry column = .ok line) :
    ∃ written shown currency gap, posting.money = some written ∧ written.Rereads registry shown ∧
      registry.currencies.get? currency.designator = some currency ∧
      shown.currency = currency.designator ∧ registry.currencyFor written.currency = currency ∧
      currency.Proper ∧ line = indentation ++ bodyOf posting.account gap currency shown.amount := by
  rcases settled.money with ⟨written, given, known, grid⟩
  rcases posting.toLine_eq_ok proper given known grid ok with ⟨shown, gap, rereads, equal⟩
  rcases Option.isSome_iff_exists.mp known with ⟨currency, found⟩
  rcases proper.listed _ currency found with ⟨same, is_proper⟩
  have currency_for : registry.currencyFor written.currency = currency := by
    rw [Registry.currencyFor, found]
    rfl
  exact ⟨written, shown, currency, gap, given, rereads, same ▸ found, rereads.currency.trans same.symm,
    currency_for, is_proper, currency_for ▸ equal⟩

namespace Reader

theorem step_indented {reader : Reader} (outside : reader.inBlock = false) {booking : Booking}
    (opened : reader.booking = some booking) (number : Nat) (content comment : Text) :
    reader.step ⟨number, .indented content comment⟩ = reader.readPosting booking content number := by
  rw [step]
  dsimp only
  rw [readIndented, outside, opened]
  rfl

/-- The printed line of a posting is read as that posting. -/
theorem readPosting_body (reader : Reader) {account : Account} (normal : account.IsNormal)
    {currency : Currency} (known : reader.registry.currencies.get? currency.designator = some currency)
    (reads : currency.style.Reads currency.designator) {unit : Int} {shown : Decimal}
    (printed : Money.IsPrinted unit shown) (gap number : Nat) (booking : Booking) :
    ∃ amountColumns,
      reader.readPosting booking (indentation ++ bodyOf account gap currency shown) number =
        .ok ({ reader with amountColumns }.withPosting booking
          { account, money := some ⟨currency.designator, shown⟩, line := some number }) := by
  have strip := strip_indented normal gap shown reads
  have taken : PostingText.ofText (bodyOf account gap currency shown) = _ :=
    PostingText.ofText_line normal reads (by simp : List.replicate (gap + 1) ' ' ≠ [])
      (isEmptySpace_replicate (gap + 1))
  have amount := Money.ofText_textOf known reads printed
  unfold readPosting
  dsimp only
  rw [strip, taken]
  dsimp only
  rw [normal.ofText_name]
  dsimp only
  rw [readMoney, amount]
  exact ⟨_, rfl⟩

section Blocks

variable {registry again : Registry} (stands : registry.Stands again) {column : Int}
  {front : List Chapter} {chapter : Chapter}
include stands

/-- The line of a posting adds it to the open booking. -/
theorem reads_posting {posting : Posting} (settled : posting.Settled registry) {line : Text}
    (ok : posting.toLine registry column = .ok line) (booking : Booking) (afterGap : Bool) :
    Reads afterGap [line] false (Opened registry again front chapter booking)
      (Opened registry again front chapter { booking with postings := booking.postings ++ [posting] }) := by
  obtain ⟨written, ⟨designator, shown⟩, currency, gap, given, rereads, found, rfl, currency_for, proper, rfl⟩ :=
    settled.line stands.proper ok
  rcases rereads.printed with ⟨unit, smallest, printed⟩
  have known : again.currencies.get? currency.designator = some currency := (stands.same _).trans found
  have reads := proper.suits.reads (stands.readable _ currency found).designator
  rintro number following reader opened
  rcases opened.booking with ⟨current, here, booking_rereads⟩
  obtain ⟨amountColumns, read⟩ := reader.readPosting_body settled.account
    (by rw [opened.currencies, known]) reads printed gap number current
  have stepped := (step_indented opened.outside here number _ []).trans read
  have line := Line.classifyFrom_indented
    (isIndented_bodyOf settled.account gap shown proper.suits.isDesignator) afterGap number following
  refine ⟨_, ?_, by rw [List.singleton_append, line, steps_cons stepped]; rfl⟩
  refine ⟨opened.currencies, opened.outside, opened.closed, opened.chapter, _, rfl, ?_⟩
  refine ⟨booking_rereads.description, ?_, booking_rereads.split, booking_rereads.dateOffset⟩
  exact List.rel_append booking_rereads.postings
    (List.Forall₂.cons ⟨rfl, written, _, given, rereads, rfl⟩ List.Forall₂.nil)

/-- The lines of postings add them in order. -/
theorem reads_postings {postings : List Posting} (settled : ∀ posting ∈ postings, posting.Settled registry)
    {lines : List Text} (ok : Booking.postingLines registry column postings = .ok lines) (booking : Booking) :
    Reads false lines false (Opened registry again front chapter booking)
      (Opened registry again front chapter { booking with postings := booking.postings ++ postings }) := by
  induction postings generalizing booking lines with
  | nil =>
      rcases Except.ok.inj ok with rfl
      intro number following reader opened
      refine ⟨reader, ?_, rfl⟩
      rw [List.append_nil]
      exact opened
  | cons posting rest ih =>
      rcases Outcome.bind_eq_ok.mp ok with ⟨line, printed, ok⟩
      rcases Outcome.bind_eq_ok.mp ok with ⟨others, later, ok⟩
      rcases Except.ok.inj ok with rfl
      have first := @reads_posting _ _ stands column front chapter posting
        (settled posting List.mem_cons_self) line printed booking false
      have behind := ih (fun other member => settled other (List.mem_cons_of_mem _ member)) later
        { booking with postings := booking.postings ++ [posting] }
      refine (first.append behind).weaken fun reader opened => ?_
      rwa [List.append_assoc, List.singleton_append] at opened

/-- A posting follows where the lines of postings begin. -/
theorem postingFollows_postingLines {postings : List Posting} (some_posting : postings ≠ [])
    (settled : ∀ posting ∈ postings, posting.Settled registry) {lines : List Text}
    (ok : Booking.postingLines registry column postings = .ok lines) (following : List Text) :
    Line.postingFollows (lines ++ following) = true := by
  cases postings with
  | nil => exact absurd rfl some_posting
  | cons posting rest =>
      rcases Outcome.bind_eq_ok.mp ok with ⟨line, printed, ok⟩
      rcases Outcome.bind_eq_ok.mp ok with ⟨others, -, ok⟩
      rcases Except.ok.inj ok with rfl
      have here := settled posting List.mem_cons_self
      rcases here.line stands.proper printed with ⟨-, shown, currency, gap, -, -, -, -, -, proper, rfl⟩
      exact Line.postingFollows_indented
        (isIndented_bodyOf here.account gap shown.amount proper.suits.isDesignator) (others ++ following)

/-- The lines of a booking add it to the open chapter. -/
theorem reads_booking {booking : Booking} (settled : booking.Settled registry) (told : booking.IsTold)
    {lines : List Text} (ok : booking.toLines registry column = .ok lines) :
    Reads false lines false (ReadyIn registry again front chapter)
      (ReadyIn registry again front { chapter with bookings := chapter.bookings ++ [booking] }) := by
  rcases Outcome.map_eq_ok.mp ok with ⟨others, printed, rfl⟩
  have postings : ∀ posting ∈ booking.postings, posting.Settled registry := fun _ => settled.posting
  rcases settled.toHalfway with ⟨⟨description, filled, no_comment⟩, -, some_posting, -, -⟩
  have trim : Text.IsTrim booking.description := description.collapsed ▸ Text.isTrim_collapse _
  rintro number following reader ⟨closed, ended, holds⟩
  rcases holds.chapter with ⟨current, there, chapter_rereads⟩
  have line := Line.classifyFrom_unindented filled trim no_comment false number (others ++ following)
  rw [Line.ofUnindented_description told.1 told.2
    (postingFollows_postingLines stands some_posting postings printed following)] at line
  have stepped : reader.step ⟨number, .description booking.description⟩ =
      .ok { closed with
        inBlock := false
        booking := some { description := booking.description, line := some number } } := by
    rw [step]
    dsimp only
    rw [openBooking, closeBooking_withBlock ended false]
    change (if closed.chapter.isNone then _ else _) = _
    rw [there, Option.isNone_some, if_neg Bool.false_ne_true, description.ofText_eq]
    change (if booking.description.isEmpty then _ else _) = _
    rw [if_neg (by simpa using filled)]
    rfl
  have opened : Opened registry again front chapter { booking with postings := [] }
      { closed with
        inBlock := false
        booking := some { description := booking.description, line := some number } } :=
    ⟨holds.currencies, rfl, holds.closed, ⟨current, there, chapter_rereads⟩, _, rfl, rfl,
      List.Forall₂.nil, rfl, rfl⟩
  rcases reads_postings stands postings printed _ (number + 1) following _ opened with ⟨next, after, run⟩
  refine ⟨next, after.readyIn some_posting, ?_⟩
  rw [List.cons_append, line, steps_cons stepped, run, List.length_cons, Nat.add_assoc, Nat.add_comm 1]

/-- The lines of bookings add them in order. -/
theorem reads_bookings {bookings : List Booking} (settled : ∀ booking ∈ bookings, booking.Settled registry)
    (told : ∀ booking ∈ bookings, booking.IsTold) {lines : List Text}
    (ok : Chapter.bookingLines registry column bookings = .ok lines) (chapter : Chapter) :
    Reads false lines false (ReadyIn registry again front chapter)
      (ReadyIn registry again front { chapter with bookings := chapter.bookings ++ bookings }) := by
  induction bookings generalizing chapter lines with
  | nil =>
      rcases Except.ok.inj ok with rfl
      intro number following reader ready
      refine ⟨reader, ?_, rfl⟩
      rw [List.append_nil]
      exact ready
  | cons booking rest ih =>
      rcases Outcome.bind_eq_ok.mp ok with ⟨here, printed, ok⟩
      rcases Outcome.bind_eq_ok.mp ok with ⟨others, later, ok⟩
      rcases Except.ok.inj ok with rfl
      have first := @reads_booking _ _ stands column front chapter booking
        (settled booking List.mem_cons_self) (told booking List.mem_cons_self) here printed
      have behind := ih (fun other member => settled other (List.mem_cons_of_mem _ member))
        (fun other member => told other (List.mem_cons_of_mem _ member)) later
        { chapter with bookings := chapter.bookings ++ [booking] }
      refine (first.append behind).weaken fun reader ready => ?_
      rwa [List.append_assoc, List.singleton_append] at ready

/-- The block of a chapter adds it. -/
theorem reads_chapter {chapter : Chapter} (settled : ∀ booking ∈ chapter.bookings, booking.Settled registry)
    (told : ∀ booking ∈ chapter.bookings, booking.IsTold) {lines : List Text}
    (ok : chapter.toLines registry column = .ok lines) (afterGap : Bool) :
    Reads afterGap lines false (Ready registry again front) (Ready registry again (front ++ [chapter])) := by
  rcases Outcome.map_eq_ok.mp ok with ⟨behind, printed, rfl⟩
  have bookings := @reads_bookings _ _ stands column front _ settled told behind printed ⟨chapter.date, []⟩
  exact ((reads_date afterGap chapter.date).append bookings).weaken fun reader ready => ready.ready

/-- The blocks of chapters add them in order, each with a break in front of it. -/
theorem reads_chapters {chapters : List Chapter}
    (settled : ∀ booking ∈ Chapter.bookingsOf chapters, booking.Settled registry)
    (told : ∀ booking ∈ Chapter.bookingsOf chapters, booking.IsTold) {blocks : List (List Text)}
    (ok : Chapter.blocks registry column chapters = .ok blocks) (front : List Chapter) :
    Reads false (blocks.flatMap ([] :: ·)) false (Ready registry again front)
      (Ready registry again (front ++ chapters)) := by
  induction chapters generalizing front blocks with
  | nil =>
      rcases Except.ok.inj ok with rfl
      intro number following reader ready
      refine ⟨reader, ?_, rfl⟩
      rw [List.append_nil]
      exact ready
  | cons chapter rest ih =>
      rcases Outcome.bind_eq_ok.mp ok with ⟨here, printed, ok⟩
      rcases Outcome.bind_eq_ok.mp ok with ⟨others, later, ok⟩
      rcases Except.ok.inj ok with rfl
      rw [Chapter.bookingsOf_eq, List.flatMap_cons, ← Chapter.bookingsOf_eq] at settled told
      have first := @reads_chapter _ _ stands column front chapter
        (fun booking member => settled booking (List.mem_append_left _ member))
        (fun booking member => told booking (List.mem_append_left _ member)) here printed true
      have behind := ih (fun booking member => settled booking (List.mem_append_right _ member))
        (fun booking member => told booking (List.mem_append_right _ member)) later (front ++ [chapter])
      have together := ((reads_gap false).append first).append behind
      rw [List.append_assoc, List.singleton_append] at together
      rw [List.flatMap_cons]
      refine together.weaken fun reader ready => ?_
      rwa [List.append_assoc, List.singleton_append] at ready

end Blocks

/-! ## The currency block -/

section Currencies

variable {registry : Registry}

/-- The state of reading the currency block. -/
structure Declaring (registry : Registry) (declared : List Currency) (reader : Reader) : Prop where
  inside : reader.inBlock = true
  currencies : registry.Redeclares declared reader.registry
  booking : reader.booking = none
  closed : reader.closedChapters = []
  chapter : reader.chapter = none

/-- The state of reading before the first line, in which the registry may be closed
already. -/
structure Starting (strict : Bool) (reader : Reader) : Prop where
  currencies : reader.registry = { closed := strict }
  booking : reader.booking = none
  closed : reader.closedChapters = []
  chapter : reader.chapter = none

/-- The line of a currency is indented. -/
theorem isIndented_entryLine {currency : Currency} (proper : currency.Proper) :
    ∃ space comment, Text.IsEmptySpace space ∧ Declaration.nameOf comment = currency.name ∧
      Line.IsIndented currency.entryLine (currency.entryText ++ space) comment := by
  rcases Currency.cutComment_entryLine proper with ⟨space, comment, empty, cut, named⟩
  refine ⟨space, comment, empty, named, cut, ⟨' ', _, rfl, by decide⟩, ?_⟩
  have words := Currency.words_entryText proper empty
  by_contra blank
  rw [Bool.not_eq_false] at blank
  have nothing := Text.words_space (List.all_eq_true.mp blank) []
  rw [List.append_nil, words] at nothing
  cases nothing

theorem step_entry {reader : Reader} (inside : reader.inBlock = true) (number : Nat)
    (content comment : Text) :
    reader.step ⟨number, .indented content comment⟩ = reader.readEntry content comment number := by
  rw [step]
  dsimp only
  rw [readIndented, inside]
  rfl

/-- The line of a readable currency declares it. -/
theorem reads_entry (proper : registry.Proper) {declared : List Currency} {currency : Currency}
    (fresh : ∀ other ∈ declared, other.designator ≠ currency.designator)
    (known : registry.currencies.get? currency.designator = some currency)
    (before : ∀ other ∈ declared, registry.currencies.get? other.designator = some other)
    (readable : currency.Readable) (afterGap : Bool) :
    Reads afterGap [currency.entryLine] false (Declaring registry declared)
      (Declaring registry (declared ++ [currency])) := by
  have is_proper := (proper.listed _ currency known).2
  rcases isIndented_entryLine is_proper with ⟨space, comment, empty, named, indented⟩
  rintro number following reader declaring
  obtain ⟨declaration, place, read, same⟩ :=
    Declaration.ofEntry_of_readable is_proper readable empty comment number named
  obtain ⟨again, declared_now, redeclares⟩ := declaring.currencies.declare proper fresh known before
    (fun code given => (readable.code code given).1) same
  have stepped : reader.step ⟨number, .indented (currency.entryText ++ space) comment⟩ =
      .ok { reader with registry := again } := by
    rw [step_entry declaring.inside, readEntry, read]
    dsimp only [bind, Except.bind]
    rw [declared_now]
  refine ⟨_, ?_, by
    rw [List.singleton_append, Line.classifyFrom_indented indented, steps_cons stepped]; rfl⟩
  exact ⟨declaring.inside, redeclares, declaring.booking, declaring.closed, declaring.chapter⟩

/-- The lines of currencies declare them in order. -/
theorem reads_entries (proper : registry.Proper) {currencies declared : List Currency}
    (all : registry.toList = declared ++ currencies) (readable : ∀ currency ∈ currencies, currency.Readable) :
    Reads false (currencies.map (·.entryLine)) false (Declaring registry declared)
      (Declaring registry registry.toList) := by
  induction currencies generalizing declared with
  | nil =>
      rw [List.append_nil] at all
      intro number following reader declaring
      exact ⟨reader, all ▸ declaring, rfl⟩
  | cons currency rest ih =>
      have distinct := proper.coherent.nodup_toList
      rw [all, List.map_append, List.map_cons, List.nodup_append] at distinct
      have fresh : ∀ other ∈ declared, other.designator ≠ currency.designator := fun other member =>
        distinct.2.2 _ (List.mem_map_of_mem member) _ List.mem_cons_self
      have known : ∀ other ∈ declared ++ currency :: rest,
          registry.currencies.get? other.designator = some other := fun other member =>
        proper.coherent.mem_toList.mp (all ▸ member)
      have first := reads_entry proper fresh (known currency (by simp))
        (fun other member => known other (List.mem_append_left _ member))
        (readable currency List.mem_cons_self) false
      have behind := @ih (declared ++ [currency]) (by rw [all, List.append_assoc]; rfl)
        fun other member => readable other (List.mem_cons_of_mem _ member)
      exact first.append behind

/-- The header opens the block, and closes the registry if it says so. -/
theorem reads_header (strict : Bool) :
    Reads true [registry.headerLine] false (Starting strict)
      (Declaring (registry.withClosed (strict || registry.closed)) []) := by
  rintro number following reader starting
  have line : Line.classifyFrom true number (registry.headerLine :: following) =
      ⟨number, .header (if registry.closed then 1 else 0)⟩ ::
        Line.classifyFrom false (number + 1) following := by
    unfold Registry.headerLine
    cases registry.closed
    · rfl
    · rfl
  have stepped : reader.step ⟨number, .header (if registry.closed then 1 else 0)⟩ =
      .ok { reader with inBlock := true, registry := { closed := strict || registry.closed } } := by
    rw [step]
    dsimp only
    rw [openBlock, closeBooking_withBlock (closeBooking_of_none starting.booking) false]
    cases registry.closed
    · rw [if_neg (by decide), Bool.or_false]
      change Except.ok { reader with inBlock := true, registry := reader.registry } = _
      rw [starting.currencies]
    · rw [if_neg (by decide), Bool.or_true]
      change Except.ok { reader with inBlock := true, registry := reader.registry.withClosed true } = _
      rw [starting.currencies]
      rfl
  refine ⟨_, ?_, by rw [List.singleton_append, line, steps_cons stepped]; rfl⟩
  exact ⟨rfl, Registry.redeclares_nil (registry.withClosed (strict || registry.closed)),
    starting.booking, starting.closed, starting.chapter⟩

/-- The block declares all currencies. -/
theorem reads_block (proper : registry.Proper) (filled : registry.currencies.isEmpty = false)
    (readable : ∀ currency ∈ registry.toList, currency.Readable) (strict : Bool) :
    Reads true registry.blockLines false (Starting strict)
      (Declaring (registry.withClosed (strict || registry.closed)) registry.toList) := by
  rw [Registry.blockLines_of_filled filled]
  exact (reads_header strict).append
    (reads_entries (proper.withClosed _) (List.nil_append _).symm readable)

/-- Behind the block the first chapter may begin. -/
theorem Declaring.ready {other : Registry} {declared : List Currency} {reader : Reader}
    (declaring : Declaring other declared reader) : Ready registry reader.registry [] reader := by
  refine ⟨reader, closeBooking_of_none declaring.booking, rfl, declaring.booking, ?_⟩
  rw [declaring.closed, declaring.chapter]
  exact List.Forall₂.nil

theorem Starting.ready {strict : Bool} {reader : Reader} (starting : reader.Starting strict) :
    Ready registry { closed := strict } [] reader := by
  refine ⟨reader, closeBooking_of_none starting.booking, starting.currencies, starting.booking, ?_⟩
  rw [starting.closed, starting.chapter]
  exact List.Forall₂.nil

end Currencies
end Reader
end Daybook
