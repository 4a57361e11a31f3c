import Daybook.Ledger.Reader
import Daybook.Proofs.Booking.Tags
import Daybook.Proofs.Ledger.Entry
import Daybook.Proofs.Ledger.Steps

namespace Daybook

/-!
# What a reading holds

Whatever the text, reading leaves currencies that are listed properly, descriptions
without tags and accounts in normal form.  Each line keeps this, so that it holds at
the end; the final check then adds that every amount that was written is on the grid
of its currency.
-/

open Unicode

/-! ## Lines -/

namespace Line

/-- What is known of a line before it is read: a description holds no comment, and a
comment is on one line. -/
def IsClean : Line → Prop
  | .description text => ';' ∉ text
  | .indented _ comment => Text.IsLine comment
  | _ => True

theorem cutComment_clean {raw : Text} (one : Text.IsLine raw) :
    ';' ∉ (cutComment raw).1 ∧ Text.IsLine (cutComment raw).2 := by
  rcases Text.mem_cutAt commentMark raw with ⟨absent, -, behind⟩
  refine ⟨absent, ?_⟩
  intro c member
  change c ∈ (Text.cutAt commentMark raw).2.getD [] at member
  cases comment : (Text.cutAt commentMark raw).2 with
  | none =>
      rw [comment] at member
      cases member
  | some back =>
      rw [comment] at member
      exact one c (behind back comment c member)

theorem isClean_ofUnindented {content : Text} (absent : ';' ∉ content) (afterGap : Bool)
    (following : List Text) : (ofUnindented afterGap (Text.stripEnd content) following).IsClean := by
  have description : IsClean (.description (Text.stripEnd content)) := by
    intro member
    exact absent (List.mem_reverse.mp ((List.dropWhile_sublist isBlank).subset (List.mem_reverse.mp member)))
  unfold ofUnindented
  dsimp only
  split
  · trivial
  · split
    · trivial
    · split
      · split
        · exact description
        · trivial
      · exact description

theorem isClean_of_classifyFrom {raws : List Text} (lines : ∀ raw ∈ raws, Text.IsLine raw)
    (afterGap : Bool) (number : Nat) :
    ∀ numbered ∈ classifyFrom afterGap number raws, numbered.line.IsClean := by
  induction raws generalizing afterGap number with
  | nil => exact fun _ member => by cases member
  | cons raw following ih =>
      have later := ih fun other member => lines other (List.mem_cons_of_mem _ member)
      rcases cutComment_clean (lines raw List.mem_cons_self) with ⟨absent, comment⟩
      intro numbered member
      rw [classifyFrom] at member
      dsimp only at member
      split at member
      · rcases List.mem_cons.mp member with rfl | inside
        · trivial
        · exact later _ _ numbered inside
      · split at member
        · exact later _ _ numbered member
        · rcases List.mem_cons.mp member with rfl | inside
          · dsimp only
            split
            · exact comment
            · exact isClean_ofUnindented absent afterGap following
          · exact later _ _ numbered inside

end Line

/-! ## Bookings that were read -/

/-- Whether a text can stand as the line of a booking. -/
structure IsDescriptionLine (text : Text) : Prop extends Annotated.IsDescription text where
  filled : text ≠ []
  no_comment : ';' ∉ text

/-- What holds of a booking while its postings are read. -/
structure Booking.AsRead (registry : Registry) (booking : Booking) : Prop where
  description : IsDescriptionLine booking.description
  split : ∀ directive, booking.split = some directive → directive.IsNormal
  accounts : ∀ posting ∈ booking.postings, posting.account.IsNormal
  known : ∀ posting ∈ booking.postings, ∀ money, posting.money = some money →
    registry.has money.currency = true

theorem Booking.AsRead.mono {registry after : Registry} {booking : Booking}
    (read : booking.AsRead registry)
    (more : ∀ designator, registry.has designator = true → after.has designator = true) :
    booking.AsRead after :=
  ⟨read.description, read.split, read.accounts,
    fun posting member money found => more _ (read.known posting member money found)⟩

namespace Reader

def bookings (reader : Reader) : List Booking :=
  (reader.closedChapters ++ reader.chapter.toList).flatMap (·.bookings)

/-- What holds at any point of reading. -/
structure Proper (reader : Reader) : Prop where
  registry : reader.registry.Proper
  closed : ∀ booking ∈ reader.bookings, booking.AsRead reader.registry ∧ booking.postings ≠ []
  opened : ∀ booking, reader.booking = some booking → booking.AsRead reader.registry

variable {reader after : Reader}

/-- Other currencies, of which none is lost. -/
theorem Proper.withRegistry (proper : reader.Proper) {registry : Registry} (listed : registry.Proper)
    (more : ∀ designator, reader.registry.has designator = true → registry.has designator = true) :
    Proper { reader with registry } :=
  ⟨listed, fun booking member =>
      ⟨(proper.closed booking member).1.mono more, (proper.closed booking member).2⟩,
    fun booking found => (proper.opened booking found).mono more⟩

theorem Proper.withBlock (proper : reader.Proper) (inBlock : Bool) :
    Proper { reader with inBlock } :=
  ⟨proper.registry, proper.closed, proper.opened⟩

theorem Proper.withColumns (proper : reader.Proper) (amountColumns : Table Nat Nat) :
    Proper { reader with amountColumns } :=
  ⟨proper.registry, proper.closed, proper.opened⟩

theorem Proper.closeBooking (proper : reader.Proper) (ok : reader.closeBooking = .ok after) :
    after.Proper ∧ after.booking = none := by
  rcases closeBooking_eq_ok ok with ⟨nothing, rfl⟩ | ⟨booking, opened, filled, rfl⟩
  · exact ⟨proper, nothing⟩
  · refine ⟨⟨proper.registry, ?_, by rintro booking ⟨⟩⟩, rfl⟩
    intro other member
    cases chapter : reader.chapter with
    | none =>
        apply proper.closed other
        simpa [bookings, withClosed, chapter] using member
    | some current =>
        have cases_of : other ∈ reader.bookings ∨ other = booking := by
          simp only [bookings, withClosed, chapter, Option.map_some, Option.toList_some,
            List.flatMap_append, List.flatMap_singleton, List.mem_append, List.mem_singleton] at member ⊢
          rw [or_assoc]
          exact member
        rcases cases_of with inside | rfl
        · exact proper.closed other inside
        · exact ⟨proper.opened other opened, filled⟩

theorem Proper.closeChapter (proper : reader.Proper) : reader.closeChapter.Proper := by
  refine ⟨proper.registry, ?_, proper.opened⟩
  intro booking member
  apply proper.closed booking
  simpa [bookings, Reader.closeChapter] using member

theorem Proper.openChapter (proper : reader.Proper) (date : Calendar.Date) :
    (reader.openChapter date).Proper := by
  refine ⟨proper.registry, ?_, proper.opened⟩
  intro booking member
  apply proper.closed booking
  simpa [bookings, Reader.openChapter, Reader.closeChapter] using member

/-- A booking without postings that carries the description and the tags of a line. -/
theorem Proper.withDescription (proper : reader.Proper) {text : Text} {annotated : Annotated}
    {line : Option Nat} (clean : ';' ∉ text) (read : Annotated.ofText text line = .ok annotated)
    (named : annotated.description ≠ []) :
    Proper { reader with
      booking := some
        { description := annotated.description
          split := annotated.split
          dateOffset := annotated.dateOffset
          line } } := by
  rcases Annotated.ofText_eq_ok read with ⟨description, part, said⟩
  have normal : ∀ directive, annotated.split = some directive → directive.IsNormal := by
    intro directive given
    rcases said directive given with ⟨argument, known⟩
    exact SplitDirective.isNormal_of_ofText known
  refine ⟨proper.registry, proper.closed, ?_⟩
  rintro booking ⟨⟩
  refine ⟨⟨description, named, ?_⟩, normal, ?_, ?_⟩
  · intro member
    rcases part ';' member with space | inside
    · cases space
    · exact clean inside
  · exact fun _ member => by cases member
  · exact fun _ member => by cases member

theorem Proper.withPosting (proper : reader.Proper) {booking : Booking}
    (opened : reader.booking = some booking) {posting : Posting} (normal : posting.account.IsNormal)
    (known : ∀ money, posting.money = some money → reader.registry.has money.currency = true) :
    (reader.withPosting booking posting).Proper := by
  have before := proper.opened booking opened
  refine ⟨proper.registry, proper.closed, ?_⟩
  rintro _ ⟨⟩
  refine ⟨before.description, before.split, ?_, ?_⟩
  · intro other member
    rcases List.mem_append.mp member with inside | last
    · exact before.accounts other inside
    · rw [List.mem_singleton.mp last]
      exact normal
  · intro other member found given
    rcases List.mem_append.mp member with inside | last
    · exact before.known other inside found given
    · rw [List.mem_singleton.mp last] at given
      exact known found given

/-- Whatever a line does keeps what holds. -/
theorem Proper.stepped (proper : reader.Proper) {number : Nat} {line : Line} (clean : line.IsClean)
    (stepped : Stepped reader number line after) : after.Proper := by
  cases stepped with
  | gap ended => exact (proper.closeBooking ended).1.withBlock false
  | header few ended =>
      have kept := ((proper.withBlock false).closeBooking ended).1
      split
      · exact (kept.withBlock true).withRegistry (kept.registry.withClosed true) fun _ present => present
      · exact kept.withBlock true
  | date read ended => exact ((proper.withBlock false).closeBooking ended).1.openChapter _
  | relative known beside ended => exact ((proper.withBlock false).closeBooking ended).1.openChapter _
  | description ended dated read named =>
      exact ((proper.withBlock false).closeBooking ended).1.withDescription clean read named
  | entry inside read declared =>
      have known := Declaration.proper_of_ofEntry clean read
      exact proper.withRegistry (proper.registry.declare known declared)
        fun designator present => Registry.has_of_declare declared present
  | bare outside opened read omitted =>
      exact proper.withPosting opened (Account.isNormal_of_ofText read) (by rintro money ⟨⟩)
  | posting outside opened read written amount =>
      rcases Money.ofText_eq_ok proper.registry amount with ⟨listed, known, more⟩
      have kept := proper.withRegistry listed more
      exact (kept.withColumns _).withPosting opened (Account.isNormal_of_ofText read)
        (by rintro _ ⟨⟩; exact known)

/-- Every line keeps what holds. -/
theorem Proper.step (proper : reader.Proper) {numbered : NumberedLine} (clean : numbered.line.IsClean)
    (ok : reader.step numbered = .ok after) : after.Proper :=
  proper.stepped clean (stepped_of_step ok)

/-- Lines in order keep what holds. -/
theorem Proper.steps (proper : reader.Proper) {lines : List NumberedLine}
    (clean : ∀ numbered ∈ lines, numbered.line.IsClean) (ok : reader.steps lines = .ok after) :
    after.Proper := by
  induction lines generalizing reader with
  | nil =>
      rcases Except.ok.inj ok with rfl
      exact proper
  | cons numbered rest ih =>
      rcases Outcome.bind_eq_ok.mp ok with ⟨next, stepped, ok⟩
      exact ih (proper.step (clean numbered List.mem_cons_self) stepped)
        (fun other member => clean other (List.mem_cons_of_mem _ member)) ok

/-! ## The final check -/

theorem checkPostings_eq_ok {postings : List Posting} (ok : reader.checkPostings postings = .ok ())
    {posting : Posting} (member : posting ∈ postings) {money : Money} (found : posting.money = some money) :
    ∃ checked, money.checkPrecision reader.registry = .ok checked := by
  induction postings with
  | nil => cases member
  | cons first rest ih =>
      rcases Outcome.bind_eq_ok.mp ok with ⟨⟨⟩, checked, later⟩
      rcases List.mem_cons.mp member with rfl | inside
      · unfold checkPosting at checked
        rw [found] at checked
        dsimp only at checked
        split at checked
        · rename_i result same
          exact ⟨result, same⟩
        · split at checked
          · cases checked
          · cases checked
      · exact ih later inside

end Reader

/-! ## The whole reading -/

/-- What holds of a booking that was read, when all currencies are known. -/
structure Booking.Written (registry : Registry) (booking : Booking) : Prop
    extends Booking.AsRead registry booking where
  filled : booking.postings ≠ []
  grid : ∀ posting ∈ booking.postings, ∀ money, posting.money = some money →
    money.OnCurrencyGrid registry ∧ Decimal.Within 28 money.amount

/-- What holds of a reading. -/
structure Reading.Proper (reading : Reading) : Prop where
  registry : reading.registry.Proper
  bookings : ∀ booking ∈ reading.bookings, booking.Written reading.registry

theorem Reader.Proper.finish {reader : Reader} (proper : reader.Proper) {reading : Reading}
    (ok : reader.finish = .ok reading) : reading.Proper := by
  unfold Reader.finish at ok
  rcases Outcome.bind_eq_ok.mp ok with ⟨closed, ended, ok⟩
  have kept := (proper.closeBooking ended).1.closeChapter
  rcases Outcome.bind_eq_ok.mp ok with ⟨⟨⟩, checked, ok⟩
  rcases Except.ok.inj ok with rfl
  refine ⟨kept.registry, ?_⟩
  intro booking member
  have among : booking ∈ closed.closeChapter.bookings := by
    simpa [Reader.bookings, Reader.closeChapter, Reading.bookings] using member
  rcases kept.closed booking among with ⟨read, filled⟩
  refine ⟨read, filled, ?_⟩
  intro posting inside money found
  obtain ⟨_, passed⟩ := Reader.checkPostings_eq_ok checked
    (List.mem_flatMap.mpr ⟨booking, member, inside⟩) found
  exact Money.checkPrecision_eq_ok kept.registry passed

/-- What holds at any point of reading holds when the lines of a text have been read. -/
theorem Reader.proper_of_text {text : Text} {today : Option Calendar.Date} {strict : Bool} {reader : Reader}
    (run : Reader.steps { today, registry := if strict then Registry.withClosed {} true else {} }
      (Line.classify (Text.lines text)) = .ok reader) : reader.Proper := by
  refine Reader.Proper.steps ?_ ?_ run
  · have empty : Registry.Proper (if strict then Registry.withClosed {} true else {}) :=
      Registry.withClosed_empty strict ▸ Registry.proper_empty strict
    refine ⟨empty, ?_, by rintro booking ⟨⟩⟩
    intro booking member
    cases member
  · exact Line.isClean_of_classifyFrom (fun raw member => Text.isLine_of_mem_lines member) true 1

/-- Reading a text gives proper currencies and bookings. -/
theorem Reading.proper_of_ofText {text : Text} {today : Option Calendar.Date} {strict : Bool}
    {reading : Reading} (ok : ofText text today {} strict = .ok reading) : reading.Proper := by
  unfold ofText at ok
  rcases Outcome.bind_eq_ok.mp ok with ⟨reader, run, finished⟩
  exact Reader.Proper.finish (Reader.proper_of_text run) finished

end Daybook
