import Daybook.Proofs.Ledger.Source
import Daybook.Proofs.Money.Accepted

namespace Daybook

/-!
# Lines under other numbers

The numbers of lines go through reading untouched: they are kept with bookings and postings, and
they are the lines of faults, but nothing is decided by them.  So when every line is given another
number, reading gives what it gave before, a reading or a failure, with the numbers replaced.  The
one place where two numbers are compared is the table of the columns of amounts, which is why no
two lines may be given the same number.
-/

open Calendar

/-! ## Other keys -/

namespace Table

variable {κ ν α : Type} [DecidableEq κ] [DecidableEq ν] {renamed : κ → ν}

def rename (renamed : κ → ν) (table : Table κ α) : Table ν α :=
  table.map fun entry => (renamed entry.1, entry.2)

theorem get?_rename (distinct : Function.Injective renamed) (table : Table κ α) (key : κ) :
    (table.rename renamed).get? (renamed key) = table.get? key := by
  induction table with
  | nil => rfl
  | cons entry rest ih =>
      rw [rename, List.map_cons, get?, get?]
      by_cases same : entry.1 = key
      · rw [if_pos same, if_pos (congrArg renamed same)]
      · rw [if_neg same, if_neg fun equal => same (distinct equal)]
        exact ih

theorem put_rename (distinct : Function.Injective renamed) (table : Table κ α) (key : κ) (value : α) :
    (table.rename renamed).put (renamed key) value = (table.put key value).rename renamed := by
  induction table with
  | nil => rfl
  | cons entry rest ih =>
      rw [rename, List.map_cons, put, put]
      by_cases same : entry.1 = key
      · rw [if_pos same, if_pos (congrArg renamed same)]
        rfl
      · rw [if_neg same, if_neg fun equal => same (distinct equal)]
        exact congrArg ((renamed entry.1, entry.2) :: ·) ih

end Table

/-! ## Other numbers -/

def LedgerFault.renumber (renamed : Nat → Nat) (fault : LedgerFault) : LedgerFault :=
  { fault with line := fault.line.map renamed }

def Failure.renumber (renamed : Nat → Nat) : Failure → Failure
  | .ledger fault => .ledger (fault.renumber renamed)
  | other => other

def Posting.renumber (renamed : Nat → Nat) (posting : Posting) : Posting :=
  { posting with line := posting.line.map renamed }

def Booking.renumber (renamed : Nat → Nat) (booking : Booking) : Booking :=
  { booking with postings := booking.postings.map (·.renumber renamed), line := booking.line.map renamed }

def Chapter.renumber (renamed : Nat → Nat) (chapter : Chapter) : Chapter :=
  { chapter with bookings := chapter.bookings.map (·.renumber renamed) }

def Reading.renumber (renamed : Nat → Nat) (reading : Reading) : Reading :=
  { reading with chapters := reading.chapters.map (·.renumber renamed) }

def Reader.renumber (renamed : Nat → Nat) (reader : Reader) : Reader :=
  { reader with
    closedChapters := reader.closedChapters.map (·.renumber renamed)
    chapter := reader.chapter.map (·.renumber renamed)
    booking := reader.booking.map (·.renumber renamed)
    amountColumns := reader.amountColumns.rename renamed }

namespace Outcome

variable {α β γ δ : Type} {renamed : Nat → Nat}

/-- A result under other numbers, given what they make of a value. -/
def renumber (renamed : Nat → Nat) (change : α → β) : Outcome α → Outcome β
  | .ok value => .ok (change value)
  | .error failure => .error (failure.renumber renamed)

/-- A chain under other numbers is the chain of its links under other numbers. -/
theorem renumber_bind {first : Outcome α} {next : α → Outcome β} {change : α → γ} {last : β → δ}
    {other : γ → Outcome δ}
    (links : ∀ value, first = .ok value → other (change value) = renumber renamed last (next value)) :
    (renumber renamed change first >>= other) = renumber renamed last (first >>= next) := by
  cases first with
  | ok value => exact links value rfl
  | error failure => rfl

end Outcome

namespace Failure

/-- Whether a failure has no line. -/
def IsUnplaced (failure : Failure) : Prop := ∀ fault, failure = .ledger fault → fault.line = none

theorem isUnplaced_ofCause (cause : Cause) : (ofCause cause).IsUnplaced := by
  rintro fault ⟨⟩
  rfl

/-- A failure without a line can be placed under the one number or the other. -/
theorem IsUnplaced.placedAt {failure : Failure} (unplaced : failure.IsUnplaced) (renamed : Nat → Nat)
    (number column : Nat) :
    failure.placedAt (renamed number) column = (failure.placedAt number column).renumber renamed := by
  cases failure
  case ledger fault =>
    rcases fault with ⟨cause, line, old⟩
    obtain rfl : line = none := unplaced _ rfl
    rfl
  all_goals rfl

theorem isUnplaced_of_ofNumbers {α : Type} {first : Except Decimal.Signal α} {failure : Failure}
    (failed : Outcome.ofNumbers first = .error failure) : failure.IsUnplaced := by
  rcases Outcome.ofNumbers_eq_error.mp failed with ⟨signal, -, rfl⟩
  rintro fault ⟨⟩

end Failure

namespace Money

/-- A text that is no amount fails without a line. -/
theorem isUnplaced_of_ofText {text : Text} {registry left : Registry} {failure : Failure}
    (failed : ofText text registry = (.error failure, left)) : failure.IsUnplaced := by
  cases unread_of_ofText failed with
  | form refused => exact Failure.isUnplaced_ofCause _
  | number read refused => exact Failure.isUnplaced_ofCause _
  | unknown read => exact Failure.isUnplaced_ofCause _
  | minus read minus number refused => rintro fault ⟨⟩

/-- An amount with too many decimals fails without a line. -/
theorem isUnplaced_of_checkPrecision {money : Money} {registry : Registry} {failure : Failure}
    (failed : money.checkPrecision registry = .error failure) : failure.IsUnplaced := by
  unfold checkPrecision at failed
  rcases Outcome.bind_eq_error.mp failed with no_unit | ⟨unit, -, failed⟩
  · exact Failure.isUnplaced_of_ofNumbers (Outcome.map_eq_error.mp no_unit)
  · rcases Outcome.bind_eq_error.mp failed with not_shown | ⟨shown, -, failed⟩
    · exact Failure.isUnplaced_of_ofNumbers not_shown
    · split at failed
      · cases failed
      · cases failed
        exact Failure.isUnplaced_ofCause _

end Money

/-! ## Taking a line apart -/

namespace Annotated

variable (renamed : Nat → Nat)

theorem accept_renumber (number column : Nat) (progress : Progress) (tag : WrittenTag) :
    accept (some (renamed number)) column progress tag =
      Outcome.renumber renamed id (accept (some number) column progress tag) := by
  unfold accept
  split
  · split
    · rfl
    · split <;> rfl
  · split
    · split
      · rfl
      · split
        · rfl
        · split <;> rfl
    · rfl

theorem scan_renumber (number : Nat) (whole : Text) (progress : Progress) (remaining : Text) :
    scan whole (some (renamed number)) progress remaining =
      Outcome.renumber renamed id (scan whole (some number) progress remaining) := by
  induction size : remaining.length using Nat.strongRecOn generalizing remaining progress with
  | ind n ih =>
      rw [scan, scan]
      split
      · rfl
      · rename_i tag rest found
        have shorter := WrittenTag.length_peel?_lt found
        dsimp only
        rw [accept_renumber]
        cases accept (some number) ((Text.find? tag.source whole).getD 0 + 1) progress tag with
        | ok next => exact ih rest.length (size ▸ shorter) next rest rfl
        | error failure => rfl

/-- A description under another number. -/
theorem ofText_renumber (number : Nat) (text : Text) :
    ofText text (some (renamed number)) = Outcome.renumber renamed id (ofText text (some number)) :=
  scan_renumber renamed number text {} text

end Annotated

namespace Account

variable (renamed : Nat → Nat)

theorem readSegments_renumber (path : Text) (number column : Nat) (raws : List Text) :
    readSegments path (some (renamed number)) column raws =
      (readSegments path (some number) column raws).mapError (·.renumber renamed) := by
  induction raws generalizing column with
  | nil => rfl
  | cons raw rest ih =>
      rw [readSegments, readSegments]
      split
      · rw [ih]
        cases readSegments path (some number) (column + raw.length + 1) rest <;> rfl
      · rfl

/-- An account under another number. -/
theorem ofText_renumber (text : Text) (number column : Nat) :
    ofText text (some (renamed number)) column =
      (ofText text (some number) column).mapError (·.renumber renamed) := by
  rw [ofText, ofText, readSegments_renumber]
  cases readSegments text (some number) column (Text.splitOn stroke text) <;> rfl

end Account

namespace Declaration

variable (renamed : Nat → Nat)

theorem acceptWord_renumber (designator : Text) (number : Nat) (draft : Draft) (place : Nat × Text) :
    acceptWord designator (renamed number) draft place =
      Outcome.renumber renamed id (acceptWord designator number draft place) := by
  unfold acceptWord
  dsimp only
  split
  · split <;> rfl
  · split
    · rfl
    · split <;> rfl

theorem acceptWords_renumber (designator : Text) (number : Nat) (draft : Draft)
    (places : List (Nat × Text)) :
    acceptWords designator (renamed number) draft places =
      Outcome.renumber renamed id (acceptWords designator number draft places) := by
  induction places generalizing draft with
  | nil => rfl
  | cons place rest ih =>
      rw [acceptWords, acceptWords, acceptWord_renumber]
      exact Outcome.renumber_bind fun next _ => ih next

/-- A currency entry under another number. -/
theorem ofEntry_renumber (content comment : Text) (number : Nat) :
    ofEntry content comment (renamed number) =
      Outcome.renumber renamed id (ofEntry content comment number) := by
  unfold ofEntry
  split
  · rfl
  · dsimp only
    split
    · rw [acceptWords_renumber]
      exact Outcome.renumber_bind fun draft _ => rfl
    · rfl

end Declaration

/-! ## The state of reading -/

namespace Reader

variable {renamed : Nat → Nat}

@[simp] theorem registry_renumber (reader : Reader) :
    (reader.renumber renamed).registry = reader.registry := rfl

@[simp] theorem today_renumber (reader : Reader) : (reader.renumber renamed).today = reader.today := rfl

@[simp] theorem inBlock_renumber (reader : Reader) :
    (reader.renumber renamed).inBlock = reader.inBlock := rfl

@[simp] theorem booking_renumber (reader : Reader) :
    (reader.renumber renamed).booking = reader.booking.map (·.renumber renamed) := rfl

theorem closeBooking_renumber (reader : Reader) :
    (reader.renumber renamed).closeBooking =
      Outcome.renumber renamed (·.renumber renamed) reader.closeBooking := by
  rcases reader with ⟨today, registry, closedChapters, chapter, booking, inBlock, amountColumns⟩
  cases booking with
  | none => rfl
  | some booking =>
      rcases booking with ⟨description, postings, split, dateOffset, line, label⟩
      cases postings with
      | nil => rfl
      | cons posting rest =>
          cases chapter with
          | none => rfl
          | some chapter =>
              simp [closeBooking, renumber, Outcome.renumber, Booking.renumber, Chapter.renumber]

theorem openChapter_renumber (reader : Reader) (date : Date) :
    (reader.renumber renamed).openChapter date = (reader.openChapter date).renumber renamed := by
  rcases reader with ⟨today, registry, closedChapters, chapter, booking, inBlock, amountColumns⟩
  cases chapter <;> simp [openChapter, closeChapter, renumber, Chapter.renumber]

theorem readDate_renumber (text : Text) (number : Nat) :
    readDate text (renamed number) = Outcome.renumber renamed id (readDate text number) := by
  unfold readDate
  split
  · split <;> rfl
  · rfl

theorem openBooking_renumber (reader : Reader) (text : Text) (number : Nat) :
    (reader.renumber renamed).openBooking text (renamed number) =
      Outcome.renumber renamed (·.renumber renamed) (reader.openBooking text number) := by
  unfold openBooking
  rw [closeBooking_renumber]
  refine Outcome.renumber_bind fun closed _ => ?_
  have chapter : (closed.renumber renamed).chapter.isNone = closed.chapter.isNone := Option.isNone_map ..
  rw [chapter]
  split
  · rfl
  · rw [Annotated.ofText_renumber]
    refine Outcome.renumber_bind fun annotated _ => ?_
    change (if annotated.description.isEmpty = true then _ else _) = _
    split <;> rfl

theorem readMoney_renumber (distinct : Function.Injective renamed) (reader : Reader) (text : Text)
    (number column : Nat) :
    (reader.renumber renamed).readMoney text (renamed number) column =
      Outcome.renumber renamed (fun taken => (taken.1, taken.2.renumber renamed))
        (reader.readMoney text number column) := by
  unfold readMoney
  rw [registry_renumber]
  cases amount : Money.ofText text reader.registry with
  | mk result registry =>
      cases result with
      | ok money =>
          dsimp only [Outcome.renumber, renumber]
          rw [Table.put_rename distinct]
      | error failure =>
          exact congrArg Except.error ((Money.isUnplaced_of_ofText amount).placedAt renamed number column)

theorem readPosting_renumber (distinct : Function.Injective renamed) (reader : Reader) (booking : Booking)
    (content : Text) (number : Nat) :
    (reader.renumber renamed).readPosting (booking.renumber renamed) content (renamed number) =
      Outcome.renumber renamed (·.renumber renamed) (reader.readPosting booking content number) := by
  unfold readPosting
  dsimp only
  rw [Account.ofText_renumber]
  cases Account.ofText (PostingText.ofText (Text.strip content)).account (some number)
      ((content.takeWhile Unicode.isBlank).length + 1) with
  | error fault => rfl
  | ok account =>
      have added (money : Option Money) (left : Reader) :
          ({ left.renumber renamed with
              booking := some { booking.renumber renamed with
                postings := (booking.renumber renamed).postings ++
                  [{ account, money, line := some (renamed number) }] } } : Reader) =
            Reader.renumber renamed { left with
              booking := some { booking with
                postings := booking.postings ++ [{ account, money, line := some number }] } } := by
        simp [renumber, Booking.renumber, Posting.renumber]
      cases (PostingText.ofText (Text.strip content)).money with
      | none => exact congrArg Except.ok (added none reader)
      | some text =>
          dsimp only [Except.mapError]
          rw [readMoney_renumber distinct]
          cases reader.readMoney text number ((content.takeWhile Unicode.isBlank).length +
              (PostingText.ofText (Text.strip content)).offset + 1) with
          | error failure => rfl
          | ok taken => exact congrArg Except.ok (added (some taken.1) taken.2)

theorem readEntry_renumber (reader : Reader) (content comment : Text) (number : Nat) :
    (reader.renumber renamed).readEntry content comment (renamed number) =
      Outcome.renumber renamed (·.renumber renamed) (reader.readEntry content comment number) := by
  unfold readEntry
  rw [Declaration.ofEntry_renumber]
  refine Outcome.renumber_bind fun declared _ => ?_
  rcases declared with ⟨declaration, column⟩
  dsimp only [id]
  rw [registry_renumber]
  rcases reader.registry.declare declaration with ⟨result, registry⟩
  cases result <;> rfl

/-- A line under another number does the same. -/
theorem step_renumber (distinct : Function.Injective renamed) (reader : Reader) (number : Nat) (line : Line) :
    (reader.renumber renamed).step ⟨renamed number, line⟩ =
      Outcome.renumber renamed (·.renumber renamed) (reader.step ⟨number, line⟩) := by
  have outside : { reader.renumber renamed with inBlock := false } =
      { reader with inBlock := false }.renumber renamed := rfl
  unfold step
  cases line with
  | gap =>
      dsimp only
      rw [closeBooking_renumber]
      exact Outcome.renumber_bind fun closed _ => rfl
  | header closings =>
      dsimp only
      rw [outside]
      unfold openBlock
      split
      · rfl
      · rw [closeBooking_renumber]
        exact Outcome.renumber_bind fun closed _ => rfl
  | date text =>
      dsimp only
      rw [outside, closeBooking_renumber]
      refine Outcome.renumber_bind fun closed _ => ?_
      rw [readDate_renumber]
      exact Outcome.renumber_bind fun date _ => congrArg Except.ok (openChapter_renumber closed date)
  | relative day =>
      dsimp only
      rw [outside]
      unfold openRelative
      rw [today_renumber]
      dsimp only
      cases reader.today with
      | none => rfl
      | some today =>
          dsimp only
          rw [closeBooking_renumber]
          refine Outcome.renumber_bind fun closed _ => ?_
          cases today.shift? day.days with
          | none => rfl
          | some date => exact congrArg Except.ok (openChapter_renumber closed date)
  | description text =>
      dsimp only
      rw [outside]
      exact openBooking_renumber _ text number
  | indented content comment =>
      dsimp only
      unfold readIndented
      rw [inBlock_renumber]
      split
      · exact readEntry_renumber reader content comment number
      · rw [booking_renumber]
        cases reader.booking with
        | none => rfl
        | some booking => exact readPosting_renumber distinct reader booking content number

theorem checkPosting_renumber (distinct : Function.Injective renamed) (reader : Reader) (posting : Posting) :
    (reader.renumber renamed).checkPosting (posting.renumber renamed) =
      Outcome.renumber renamed id (reader.checkPosting posting) := by
  rcases posting with ⟨account, money, line⟩
  cases money with
  | none => rfl
  | some money =>
      unfold checkPosting
      dsimp only [Posting.renumber]
      rw [registry_renumber]
      cases checked : money.checkPrecision reader.registry with
      | ok same => rfl
      | error failure =>
          have unplaced := Money.isUnplaced_of_checkPrecision checked
          cases line with
          | none =>
              refine congrArg Except.error ?_
              cases failure
              case ledger fault =>
                rcases fault with ⟨cause, line, column⟩
                obtain rfl : line = none := unplaced _ rfl
                rfl
              all_goals rfl
          | some line =>
              dsimp only [Posting.renumber, Option.map_some]
              rw [show (reader.renumber renamed).amountColumns.get? (renamed line) = _ from
                Table.get?_rename distinct reader.amountColumns line]
              exact congrArg Except.error (unplaced.placedAt renamed line _)

theorem checkPostings_renumber (distinct : Function.Injective renamed) (reader : Reader)
    (postings : List Posting) :
    (reader.renumber renamed).checkPostings (postings.map (·.renumber renamed)) =
      Outcome.renumber renamed id (reader.checkPostings postings) := by
  induction postings with
  | nil => rfl
  | cons posting rest ih =>
      rw [List.map_cons, checkPostings, checkPostings, checkPosting_renumber distinct]
      exact Outcome.renumber_bind fun _ _ => ih

/-- What was read under other numbers gives the reading under other numbers. -/
theorem finish_renumber (distinct : Function.Injective renamed) (reader : Reader) :
    (reader.renumber renamed).finish =
      Outcome.renumber renamed (·.renumber renamed) reader.finish := by
  unfold finish
  rw [closeBooking_renumber]
  refine Outcome.renumber_bind fun closed _ => ?_
  have chapters : (closed.renumber renamed).closeChapter = closed.closeChapter.renumber renamed := by
    rcases closed with ⟨today, registry, closedChapters, chapter, booking, inBlock, amountColumns⟩
    cases chapter <;> simp [closeChapter, renumber]
  have postings : ((closed.closeChapter.renumber renamed).closedChapters.flatMap (·.bookings)).flatMap
      (·.postings) =
        ((closed.closeChapter.closedChapters.flatMap (·.bookings)).flatMap (·.postings)).map
          (·.renumber renamed) := by
    simp [renumber, List.flatMap_map, List.map_flatMap, List.flatMap_assoc, Chapter.renumber,
      Booking.renumber]
  dsimp only
  rw [chapters, postings, checkPostings_renumber distinct]
  exact Outcome.renumber_bind fun _ _ => rfl

end Reader

/-! ## Lines that are read alike -/

namespace Line

/-- Whether two lines are read alike, given whether a currency block is open: the comment of a
posting is not read. -/
inductive ReadAlike (inBlock : Bool) : Line → Line → Prop
  | same (line : Line) : ReadAlike inBlock line line
  | posting (content comment other : Text) (outside : inBlock = false) :
      ReadAlike inBlock (.indented content comment) (.indented content other)

/-- Whether lines are read like others that have other numbers. -/
inductive Renumbered (renamed : Nat → Nat) : Bool → List NumberedLine → List NumberedLine → Prop
  | nil {inBlock : Bool} : Renumbered renamed inBlock [] []
  | cons {inBlock : Bool} {number : Nat} {line other : Line} {rest others : List NumberedLine}
      (alike : ReadAlike inBlock line other)
      (later : Renumbered renamed (line.blockAfter inBlock) rest others) :
      Renumbered renamed inBlock (⟨number, line⟩ :: rest) (⟨renamed number, other⟩ :: others)

end Line

namespace Reader

variable {renamed : Nat → Nat}

/-- A header opens a block, and every line that is not indented closes it. -/
theorem Stepped.inBlock_eq {reader after : Reader} {number : Nat} {line : Line}
    (stepped : Stepped reader number line after) : after.inBlock = line.blockAfter reader.inBlock := by
  cases stepped with
  | gap ended => rfl
  | header few ended => rfl
  | date read ended => exact (inBlock_of_closeBooking ended :)
  | relative known beside ended => exact (inBlock_of_closeBooking ended :)
  | description ended placed read named => exact (inBlock_of_closeBooking ended :)
  | entry inside read declared => rfl
  | bare outside opened read omitted => rfl
  | posting outside opened read written amount => rfl

theorem step_of_readAlike {reader : Reader} {line other : Line} (alike : line.ReadAlike reader.inBlock other)
    (number : Nat) : reader.step ⟨number, other⟩ = reader.step ⟨number, line⟩ := by
  cases alike with
  | same => rfl
  | posting content comment other outside =>
      have unread (comment : Text) : reader.step ⟨number, .indented content comment⟩ =
          reader.readIndented content comment number := rfl
      rw [unread, unread, readIndented, readIndented, outside]
      rfl

/-- Lines under other numbers do the same, one after the other. -/
theorem steps_renumber (distinct : Function.Injective renamed) {reader : Reader}
    {lines others : List NumberedLine} (alike : Line.Renumbered renamed reader.inBlock lines others) :
    (reader.renumber renamed).steps others =
      Outcome.renumber renamed (·.renumber renamed) (reader.steps lines) := by
  induction lines generalizing reader others with
  | nil =>
      cases alike
      rfl
  | cons numbered rest ih =>
      cases alike with
      | @cons _ number line other _ others first later =>
          have kept : (reader.renumber renamed).step ⟨renamed number, other⟩ =
              (reader.renumber renamed).step ⟨renamed number, line⟩ :=
            @step_of_readAlike (reader.renumber renamed) line other first (renamed number)
          rw [steps, steps, kept, step_renumber distinct]
          refine Outcome.renumber_bind fun next stepped => ih ?_
          rw [(stepped_of_step stepped).inBlock_eq]
          exact later

end Reader

/-- Lines that are read like others give the same reading under other numbers, or the same
failure. -/
theorem Reading.ofText_renumber {renamed : Nat → Nat} (distinct : Function.Injective renamed)
    {text other : Text}
    (alike : Line.Renumbered renamed false (Line.classify (Text.lines text))
      (Line.classify (Text.lines other)))
    (today : Option Date) (registry : Registry) (strict : Bool) :
    ofText other today registry strict =
      Outcome.renumber renamed (·.renumber renamed) (ofText text today registry strict) := by
  unfold ofText
  have run := @Reader.steps_renumber renamed distinct
    { today, registry := if strict then registry.withClosed true else registry } _ _ alike
  refine Eq.trans ?_ (Outcome.renumber_bind fun reader _ => Reader.finish_renumber distinct reader)
  exact congrArg (· >>= Reader.finish) run

end Daybook
