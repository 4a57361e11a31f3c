import Daybook.Proofs.Ledger.Reload

namespace Daybook

/-!
# When a canonical text is a fixed point

A ledger comes back from its canonical text exactly when it is readable.  That it does
come back was shown block by block; here each condition is found necessary.  A
currency that is not readable stops the reading of its own line.  A description that
looks like a date is taken for one, and whether it is one or not, the posting behind
it has no booking to belong to.  Finally a booking that is not balanced is read but not
accepted.
-/

namespace Reader

/-! ## Currencies -/

theorem inBlock_of_readEntry {reader next : Reader} {content comment : Text} {number : Nat}
    (ok : reader.readEntry content comment number = .ok next) : next.inBlock = reader.inBlock := by
  unfold readEntry at ok
  rcases Outcome.bind_eq_ok.mp ok with ⟨⟨declaration, column⟩, -, ok⟩
  dsimp only at ok
  split at ok
  · rcases Except.ok.inj ok with rfl
    rfl
  · cases ok

/-- When the lines of currencies are read without failure, all of them are readable. -/
theorem readable_of_steps {currencies : List Currency} (proper : ∀ currency ∈ currencies, currency.Proper)
    {reader final : Reader} (inside : reader.inBlock = true) {afterGap : Bool} {number : Nat}
    {following : List Text}
    (ok : reader.steps (Line.classifyFrom afterGap number (currencies.map (·.entryLine) ++ following)) =
      .ok final) : ∀ currency ∈ currencies, currency.Readable := by
  induction currencies generalizing reader afterGap number with
  | nil => exact fun _ member => by cases member
  | cons currency rest ih =>
      have here := proper currency List.mem_cons_self
      rcases isIndented_entryLine here with ⟨space, comment, empty, -, indented⟩
      rw [List.map_cons, List.cons_append, Line.classifyFrom_indented indented, steps] at ok
      rcases Outcome.bind_eq_ok.mp ok with ⟨next, stepped, later⟩
      rw [step_entry inside] at stepped
      have readable : currency.Readable := by
        by_contra unreadable
        obtain ⟨failure, failed⟩ :=
          Declaration.ofEntry_of_unreadable here unreadable empty comment number
        rw [readEntry, failed] at stepped
        cases stepped
      intro other member
      rcases List.mem_cons.mp member with rfl | among
      · exact readable
      · exact ih (fun other member => proper other (List.mem_cons_of_mem _ member))
          ((inBlock_of_readEntry stepped).trans inside) later other among

/-! ## Descriptions -/

/-- Behind what is taken for a date no posting is accepted. -/
theorem not_posting_behind_date {reader final : Reader} {text content comment : Text} {first second : Nat}
    {rest : List NumberedLine} :
    reader.steps (⟨first, .date text⟩ :: ⟨second, .indented content comment⟩ :: rest) ≠ .ok final := by
  intro ok
  rcases Outcome.bind_eq_ok.mp ok with ⟨dated, stepped, ok⟩
  rcases Outcome.bind_eq_ok.mp stepped with ⟨closed, ended, stepped⟩
  rcases Outcome.bind_eq_ok.mp stepped with ⟨date, -, stepped⟩
  rcases Except.ok.inj stepped with rfl
  rcases Outcome.bind_eq_ok.mp ok with ⟨next, posted, -⟩
  rw [step] at posted
  dsimp only at posted
  obtain ⟨no_booking, no_block⟩ :
      (closed.openChapter date).booking = none ∧ (closed.openChapter date).inBlock = false := by
    rcases closeBooking_eq_ok ended with ⟨nothing, rfl⟩ | ⟨booking, -, -, rfl⟩
    · exact ⟨nothing, rfl⟩
    · exact ⟨rfl, rfl⟩
  rw [readIndented, no_block, no_booking] at posted
  cases posted

end Reader

/-! ## Where a description stands -/

section Infix

variable {registry : Registry} {column : Int}

/-- Behind the description of a booking stands the line of a posting. -/
theorem Booking.Settled.infix_toLines (proper : registry.Proper) {booking : Booking}
    (settled : booking.Settled registry) {lines : List Text}
    (ok : booking.toLines registry column = .ok lines) :
    ∃ line, Line.IsIndented line line [] ∧ [booking.description, line] <:+: lines := by
  rcases Outcome.map_eq_ok.mp ok with ⟨others, printed, rfl⟩
  rcases List.exists_cons_of_ne_nil settled.filled with ⟨posting, rest, postings⟩
  have known := settled.posting (by rw [postings]; exact List.mem_cons_self : posting ∈ booking.postings)
  rw [postings] at printed
  rcases Outcome.bind_eq_ok.mp printed with ⟨line, written, printed⟩
  rcases Outcome.bind_eq_ok.mp printed with ⟨more, -, printed⟩
  rcases Except.ok.inj printed with rfl
  rcases known.line proper written with ⟨-, shown, currency, gap, -, -, -, -, -, is_proper, rfl⟩
  exact ⟨_, isIndented_bodyOf known.account gap shown.amount is_proper.suits.isDesignator, [], more, rfl⟩

theorem Chapter.infix_bookingLines {bookings : List Booking} {lines : List Text}
    (ok : bookingLines registry column bookings = .ok lines) {booking : Booking}
    (member : booking ∈ bookings) :
    ∃ own, booking.toLines registry column = .ok own ∧ own <:+: lines := by
  induction bookings generalizing lines with
  | nil => cases member
  | cons first rest ih =>
      rcases Outcome.bind_eq_ok.mp ok with ⟨here, printed, ok⟩
      rcases Outcome.bind_eq_ok.mp ok with ⟨others, later, ok⟩
      rcases Except.ok.inj ok with rfl
      rcases List.mem_cons.mp member with rfl | inside
      · exact ⟨here, printed, (List.prefix_append here others).isInfix⟩
      · rcases ih later inside with ⟨own, written, part⟩
        exact ⟨own, written, part.trans (List.suffix_append here others).isInfix⟩

theorem Chapter.infix_blocks {chapters : List Chapter} {blocks : List (List Text)}
    (ok : Chapter.blocks registry column chapters = .ok blocks) {booking : Booking}
    (member : booking ∈ bookingsOf chapters) :
    ∃ block ∈ blocks, ∃ own, booking.toLines registry column = .ok own ∧ own <:+: block := by
  induction chapters generalizing blocks with
  | nil => cases member
  | cons chapter rest ih =>
      rcases Outcome.bind_eq_ok.mp ok with ⟨here, printed, ok⟩
      rcases Outcome.bind_eq_ok.mp ok with ⟨others, later, ok⟩
      rcases Except.ok.inj ok with rfl
      rw [bookingsOf_eq, List.flatMap_cons, List.mem_append, ← bookingsOf_eq] at member
      rcases member with inside | inside
      · rcases Outcome.map_eq_ok.mp printed with ⟨lines, bookings, rfl⟩
        rcases infix_bookingLines bookings inside with ⟨own, written, part⟩
        exact ⟨_, List.mem_cons_self, own, written, part.trans (List.suffix_cons _ lines).isInfix⟩
      · rcases ih later inside with ⟨block, among, own, rest⟩
        exact ⟨block, List.mem_cons_of_mem _ among, own, rest⟩

theorem Snapshot.infix_linesOf {blocks : List (List Text)} {block : List Text} (member : block ∈ blocks) :
    block <:+: linesOf blocks := by
  induction blocks with
  | nil => cases member
  | cons first rest ih =>
      rcases List.mem_cons.mp member with rfl | inside
      · rw [linesOf_eq]
        exact (List.prefix_append _ _).isInfix
      · rw [linesOf_cons first (List.ne_nil_of_mem inside)]
        exact (ih inside).trans
          ((List.suffix_cons [] _).trans (List.suffix_append first _)).isInfix

end Infix

namespace Snapshot

variable {snapshot : Snapshot} {column : Int} {text : Text}

/-- In the canonical text the description of a booking is followed by a posting. -/
theorem Settled.infix_lines (settled : snapshot.Settled) (ok : snapshot.format column = .ok text)
    {booking : Booking} (member : booking ∈ Chapter.bookingsOf snapshot.chapters) :
    ∃ line, Line.IsIndented line line [] ∧ [booking.description, line] <:+: Text.lines text := by
  rcases settled.lines_format ok with ⟨blocks, printed, lines⟩
  rcases Chapter.infix_blocks printed member with ⟨block, among, own, written, part⟩
  obtain ⟨line, indented, first⟩ := (settled.bookings booking member).infix_toLines settled.registry written
  refine ⟨line, indented, (first.trans part).trans ?_⟩
  rw [lines]
  apply infix_linesOf
  unfold blocksOf
  split
  · exact among
  · exact List.mem_cons_of_mem _ among

/-- When a canonical text is read, no description looks like a date. -/
theorem Settled.told_of_steps (settled : snapshot.Settled) (ok : snapshot.format column = .ok text)
    {reader final : Reader} (run : reader.steps (Line.classify (Text.lines text)) = .ok final) :
    ∀ booking ∈ Chapter.bookingsOf snapshot.chapters, booking.IsTold := by
  intro booking member
  by_contra looks
  have looks : Line.isDate booking.description = true ∨ Line.isDateLike booking.description = true := by
    by_contra neither
    rw [not_or, Bool.not_eq_true, Bool.not_eq_true] at neither
    exact looks neither
  rcases settled.infix_lines ok member with ⟨line, indented, front, back, equal⟩
  rcases (settled.bookings booking member).toHalfway with ⟨⟨description, filled, no_comment⟩, -⟩
  have trim : Text.IsTrim booking.description := description.collapsed ▸ Text.isTrim_collapse _
  rw [Line.classify, ← equal, List.append_assoc] at run
  obtain ⟨numbered, gap, split⟩ :=
    Line.exists_classifyFrom true 1 front ([booking.description, line] ++ back)
  rw [split, Reader.steps_append] at run
  rcases Outcome.bind_eq_ok.mp run with ⟨middle, -, run⟩
  rw [List.cons_append, Line.classifyFrom_unindented filled trim no_comment,
    Line.ofUnindented_date looks, List.singleton_append, Line.classifyFrom_indented indented] at run
  exact Reader.not_posting_behind_date run

/-- When a canonical text is read, all currencies are readable. -/
theorem Settled.readable_of_steps (settled : snapshot.Settled) (ok : snapshot.format column = .ok text)
    {reader final : Reader} {strict : Bool} (starting : reader.Starting strict)
    (run : reader.steps (Line.classify (Text.lines text)) = .ok final) :
    ∀ currency ∈ snapshot.registry.toList, currency.Readable := by
  rcases settled.lines_format ok with ⟨blocks, -, lines⟩
  have proper : ∀ currency ∈ snapshot.registry.toList, currency.Proper := fun currency listed =>
    (settled.registry.listed _ currency (settled.registry.coherent.mem_toList.mp listed)).2
  cases empty : snapshot.registry.currencies.isEmpty with
  | true =>
      intro currency listed
      rw [Registry.toList, List.isEmpty_iff.mp empty] at listed
      cases List.mem_mergeSort.mp listed
  | false =>
      obtain ⟨middle, declaring, same⟩ := (@Reader.reads_header snapshot.registry strict) 1
        (snapshot.registry.toList.map (·.entryLine) ++ blocks.flatMap ([] :: ·)) reader starting
      rw [lines, linesOf_blocksOf empty, Registry.blockLines_of_filled empty, List.cons_append,
        ← List.singleton_append, Line.classify, same] at run
      exact Reader.readable_of_steps proper declaring.inside run

/-- A ledger that can be loaded from its canonical text is readable. -/
theorem Settled.readable_of_load (settled : snapshot.Settled) (ok : snapshot.format column = .ok text)
    {loaded : Snapshot} (again : load text none false = .ok loaded) : snapshot.Readable := by
  unfold load at again
  rcases Outcome.bind_eq_ok.mp again with ⟨reading, read, again⟩
  rcases Outcome.bind_eq_ok.mp again with ⟨chapters, resolved, -⟩
  have unread := read
  unfold Reading.ofText at unread
  rcases Outcome.bind_eq_ok.mp unread with ⟨final, run, -⟩
  have readable := @settled.readable_of_steps _ _ _ ok _ _ false ⟨rfl, rfl, rfl, rfl⟩ run
  have told := settled.told_of_steps ok run
  rcases settled.exists_reading readable told ok none false with
    ⟨registry, reread, same, stands, -, related⟩
  rcases Except.ok.inj (same.symm.trans read) with rfl
  have bookings := Chapter.bookingsOf_rereads related
  have plain : ∀ entry ∈ Chapter.entries reread, entry.2.split = none ∧ entry.2.dateOffset = 0 ∧
      entry.2.blankPostings = [] := by
    intro entry member
    rcases exists_of_forall₂ bookings (List.mem_map_of_mem member) with ⟨old, inside, rereads⟩
    exact ⟨rereads.split, rereads.dateOffset,
      ((settled.bookings old inside).ofRereads stands rereads).blankPostings_eq_nil⟩
  rcases (Chapter.resolveEntries_eq_ok_iff plain).mp resolved with ⟨balanced, -⟩
  refine ⟨readable, told, ?_⟩
  intro booking member
  rcases exists_of_forall₂ bookings.flip member with ⟨back, inside, rereads⟩
  rcases List.mem_map.mp inside with ⟨entry, among, rfl⟩
  rw [← Booking.Rereads.isBalanced_eq stands (settled.bookings booking member) rereads]
  exact balanced entry among

/-- Loading the canonical text of a loaded ledger gives a ledger with that canonical
text exactly when the ledger is readable. -/
theorem canonical_iff_readable {source : Text} {today : Option Calendar.Date} {strict : Bool}
    (loaded : load source today strict = .ok snapshot) (printed : snapshot.format column = .ok text) :
    (load text none false >>= fun again => again.format column) = .ok text ↔ snapshot.Readable := by
  have settled := settled_of_load loaded
  constructor
  · intro again
    rcases Outcome.bind_eq_ok.mp again with ⟨reloaded, ok, -⟩
    exact settled.readable_of_load printed ok
  · intro readable
    rcases settled.exists_reload readable printed with ⟨reloaded, ok, same⟩
    exact Outcome.bind_eq_ok.mpr ⟨reloaded, ok, same⟩

/-! ## Two ledgers -/

/-- The canonical text of a ledger, nothing if it cannot be printed. -/
def canonicalText (snapshot : Snapshot) (column : Int) : Text := (snapshot.format column).toOption.getD []

/-- A ledger with a declared currency, a split and an amount to be inferred. -/
def lunchText : Text :=
  "currency closed\n    $ usd 3 suffix ; dollar\n\n2024-01-05\n#[split(@bob)]  lunch\t out\n".toList ++
    "    expense/a  ; x\n    asset/b 5  -1.5$\n".toList

theorem readable_lunch :
    load lunchText none true = .ok (loadedFrom lunchText true) ∧
      (loadedFrom lunchText true).format 40 = .ok ((loadedFrom lunchText true).canonicalText 40) ∧
      (loadedFrom lunchText true).Readable := by
  have loaded : load lunchText none true = .ok (loadedFrom lunchText true) := by decide +kernel
  have printed : (loadedFrom lunchText true).format 40 =
      .ok ((loadedFrom lunchText true).canonicalText 40) := by decide +kernel
  exact ⟨loaded, printed, (canonical_iff_readable loaded printed).mp (by decide +kernel)⟩

/-- A ledger in which a tag keeps a description from looking like a date. -/
def taggedText : Text := "2024-01-05\n1/2/3 #[date(0)]\n    expense  $1\n    asset\n".toList

/-- Tags are not printed, so that the description looks like a date afterwards. -/
theorem canonical_not_reloaded :
    load taggedText none false = .ok (loadedFrom taggedText false) ∧
      (loadedFrom taggedText false).format 72 =
        .ok ((loadedFrom taggedText false).canonicalText 72) ∧
      (load ((loadedFrom taggedText false).canonicalText 72) none false >>=
        fun again => again.format 72) ≠ .ok ((loadedFrom taggedText false).canonicalText 72) := by
  refine ⟨?_, ?_, ?_⟩
  · decide +kernel
  · decide +kernel
  · decide +kernel

end Snapshot
end Daybook
