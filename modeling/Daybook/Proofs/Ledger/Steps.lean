import Daybook.Ledger.Reader
import Daybook.Proofs.Outcome

namespace Daybook
namespace Reader

/-!
# What a line does to the state of reading

A line that is accepted changes the state in one of eight ways, and a line that is refused is
refused in one of thirteen.  They are listed here once, with what was checked before, so that
whatever is kept by all changes is kept by reading, and whatever holds of all refusals holds of
every text that cannot be read.
-/

open Calendar

def withClosed (reader : Reader) (booking : Booking) : Reader :=
  { reader with
    booking := none
    chapter := reader.chapter.map fun chapter =>
      { chapter with bookings := chapter.bookings ++ [booking] } }

/-- The state with one more posting in the open booking. -/
def withPosting (reader : Reader) (booking : Booking) (posting : Posting) : Reader :=
  { reader with booking := some { booking with postings := booking.postings ++ [posting] } }

variable {reader after : Reader}

/-- A state has no open booking, or it has one with postings. -/
theorem closeBooking_eq_ok (ok : reader.closeBooking = .ok after) :
    reader.booking = none ∧ after = reader ∨
      ∃ booking, reader.booking = some booking ∧ booking.postings ≠ [] ∧
        after = reader.withClosed booking := by
  unfold closeBooking at ok
  split at ok
  · rename_i nothing
    exact Or.inl ⟨nothing, (Except.ok.inj ok).symm⟩
  · rename_i booking opened
    split at ok
    · cases ok
    · rename_i filled
      exact Or.inr ⟨booking, opened, by simpa using filled, (Except.ok.inj ok).symm⟩

/-- What a line does to the state. -/
inductive Stepped (reader : Reader) (number : Nat) : Line → Reader → Prop
  | gap {closed : Reader} (ended : reader.closeBooking = .ok closed) :
      Stepped reader number .gap { closed with inBlock := false }
  | header {closings : Nat} {closed : Reader} (few : closings ≤ 1)
      (ended : { reader with inBlock := false }.closeBooking = .ok closed) :
      Stepped reader number (.header closings)
        { closed with
          inBlock := true
          registry := if closings = 1 then closed.registry.withClosed true else closed.registry }
  | date {text : Text} {date : Date} {closed : Reader} (read : readDate text number = .ok date)
      (ended : { reader with inBlock := false }.closeBooking = .ok closed) :
      Stepped reader number (.date text) (closed.openChapter date)
  | relative {day : RelativeDay} {present date : Date} {closed : Reader}
      (known : reader.today = some present) (beside : present.shift? day.days = some date)
      (ended : { reader with inBlock := false }.closeBooking = .ok closed) :
      Stepped reader number (.relative day) (closed.openChapter date)
  | description {text : Text} {annotated : Annotated} {closed : Reader}
      (ended : { reader with inBlock := false }.closeBooking = .ok closed)
      (dated : closed.chapter ≠ none) (read : Annotated.ofText text (some number) = .ok annotated)
      (named : annotated.description ≠ []) :
      Stepped reader number (.description text)
        { closed with
          booking := some
            { description := annotated.description
              split := annotated.split
              dateOffset := annotated.dateOffset
              line := some number } }
  | entry {content comment : Text} {declaration : Declaration} {column : Nat} {currency : Currency}
      {registry : Registry} (inside : reader.inBlock = true)
      (read : Declaration.ofEntry content comment number = .ok (declaration, column))
      (declared : reader.registry.declare declaration = (.ok currency, registry)) :
      Stepped reader number (.indented content comment) { reader with registry }
  | bare {content comment : Text} {booking : Booking} {account : Account} {column : Nat}
      (outside : reader.inBlock = false) (opened : reader.booking = some booking)
      (read : Account.ofText (PostingText.ofText (Text.strip content)).account (some number) column =
        .ok account)
      (omitted : (PostingText.ofText (Text.strip content)).money = none) :
      Stepped reader number (.indented content comment)
        (reader.withPosting booking { account, money := none, line := some number })
  | posting {content comment text : Text} {booking : Booking} {account : Account} {money : Money}
      {registry : Registry} {amountColumns : Table Nat Nat} {column : Nat}
      (outside : reader.inBlock = false) (opened : reader.booking = some booking)
      (read : Account.ofText (PostingText.ofText (Text.strip content)).account (some number) column =
        .ok account)
      (written : (PostingText.ofText (Text.strip content)).money = some text)
      (amount : Money.ofText text reader.registry = (.ok money, registry)) :
      Stepped reader number (.indented content comment)
        ({ reader with registry, amountColumns }.withPosting booking
          { account, money := some money, line := some number })

theorem stepped_of_openBooking {text : Text} {number : Nat}
    (ok : { reader with inBlock := false }.openBooking text number = .ok after) :
    Stepped reader number (.description text) after := by
  unfold openBooking at ok
  rcases Outcome.bind_eq_ok.mp ok with ⟨closed, ended, ok⟩
  split at ok
  · cases ok
  · rename_i dated
    rcases Outcome.bind_eq_ok.mp ok with ⟨annotated, read, ok⟩
    split at ok
    · cases ok
    · rename_i named
      rcases Except.ok.inj ok with rfl
      exact .description ended (by simpa using dated) read (by simpa using named)

theorem stepped_of_readPosting {content comment : Text} {number : Nat} {booking : Booking}
    (outside : reader.inBlock = false) (opened : reader.booking = some booking)
    (ok : reader.readPosting booking content number = .ok after) :
    Stepped reader number (.indented content comment) after := by
  unfold readPosting at ok
  dsimp only at ok
  split at ok
  · cases ok
  · rename_i account read
    split at ok
    · rename_i omitted
      rcases Except.ok.inj ok with rfl
      exact .bare outside opened read omitted
    · rename_i text written
      rcases Outcome.bind_eq_ok.mp ok with ⟨⟨money, next⟩, taken, ok⟩
      rcases Except.ok.inj ok with rfl
      rcases Outcome.map_eq_ok.mp taken with ⟨⟨found, later⟩, amount, same⟩
      rcases Prod.mk.inj same with ⟨rfl, rfl⟩
      unfold readMoney at amount
      split at amount
      · rename_i known registry amount_read
        rcases Prod.mk.inj (Except.ok.inj amount) with ⟨rfl, rfl⟩
        exact .posting outside opened read written amount_read
      · cases amount

theorem stepped_of_readEntry {content comment : Text} {number : Nat} (inside : reader.inBlock = true)
    (ok : reader.readEntry content comment number = .ok after) :
    Stepped reader number (.indented content comment) after := by
  unfold readEntry at ok
  rcases Outcome.bind_eq_ok.mp ok with ⟨⟨declaration, column⟩, read, ok⟩
  dsimp only at ok
  split at ok
  · rename_i currency registry declared
    rcases Except.ok.inj ok with rfl
    exact .entry inside read declared
  · cases ok

/-- A line that is accepted does one of the known things. -/
theorem stepped_of_step {numbered : NumberedLine} (ok : reader.step numbered = .ok after) :
    Stepped reader numbered.number numbered.line after := by
  unfold step at ok
  dsimp only at ok
  cases line : numbered.line with
  | gap =>
      rw [line] at ok
      rcases Outcome.bind_eq_ok.mp ok with ⟨closed, ended, ok⟩
      rcases Except.ok.inj ok with rfl
      exact .gap ended
  | header closings =>
      rw [line] at ok
      change openBlock { reader with inBlock := false } closings _ = _ at ok
      unfold openBlock at ok
      split at ok
      · cases ok
      · rename_i few
        rcases Outcome.bind_eq_ok.mp ok with ⟨closed, ended, ok⟩
        rcases Except.ok.inj ok with rfl
        exact .header (Nat.not_lt.mp few) ended
  | date text =>
      rw [line] at ok
      rcases Outcome.bind_eq_ok.mp ok with ⟨closed, ended, ok⟩
      rcases Outcome.bind_eq_ok.mp ok with ⟨date, read, ok⟩
      rcases Except.ok.inj ok with rfl
      exact .date read ended
  | relative day =>
      rw [line] at ok
      change openRelative { reader with inBlock := false } day _ = _ at ok
      unfold openRelative at ok
      split at ok
      · cases ok
      · rename_i present known
        rcases Outcome.bind_eq_ok.mp ok with ⟨closed, ended, ok⟩
        split at ok
        · rename_i date beside
          rcases Except.ok.inj ok with rfl
          exact .relative known beside ended
        · cases ok
  | description text =>
      rw [line] at ok
      exact stepped_of_openBooking ok
  | indented content comment =>
      rw [line] at ok
      change readIndented reader content comment _ = _ at ok
      unfold readIndented at ok
      split at ok
      · rename_i inside
        exact stepped_of_readEntry inside ok
      · rename_i outside
        split at ok
        · rename_i booking opened
          exact stepped_of_readPosting (by simpa using outside) opened ok
        · cases ok

/-! ## How a line is refused -/

/-- A booking is only kept from being closed by a lack of postings. -/
theorem closeBooking_eq_error {failure : Failure} (failed : reader.closeBooking = .error failure) :
    ∃ booking, reader.booking = some booking ∧ booking.postings = [] ∧
      failure = .ledger
        { cause := .missingPostings booking.description
          line := booking.line
          column := some 1 } := by
  unfold closeBooking at failed
  split at failed
  · cases failed
  · rename_i booking opened
    split at failed
    · rename_i bare
      exact ⟨booking, opened, by simpa using bare, (Except.error.inj failed).symm⟩
    · cases failed

/-- How a line is refused.  Lines other than postings and entries close the booking above them and
are refused if it has no postings. -/
inductive Refused (reader : Reader) (number : Nat) : Line → Failure → Prop
  | unfilled {line : Line} {booking : Booking} (opened : reader.booking = some booking)
      (bare : booking.postings = []) :
      Refused reader number line
        (.ledger
          { cause := .missingPostings booking.description
            line := booking.line
            column := some 1 })
  | header {closings : Nat} (many : 1 < closings) :
      Refused reader number (.header closings) (faultAt .malformedHeader number 1)
  | date {text : Text} {failure : Failure} (read : readDate text number = .error failure) :
      Refused reader number (.date text) failure
  | unknown {day : RelativeDay} (unknown : reader.today = none) :
      Refused reader number (.relative day) (faultAt (.relativeDate day.word) number 1)
  | outside {day : RelativeDay} {present : Date} (known : reader.today = some present)
      (outside : present.shift? day.days = none) :
      Refused reader number (.relative day) .dateRange
  | undated {text : Text} {closed : Reader}
      (ended : { reader with inBlock := false }.closeBooking = .ok closed) (undated : closed.chapter = none) :
      Refused reader number (.description text) (faultAt .bookingBeforeDate number 1)
  | tags {text : Text} {failure : Failure} (read : Annotated.ofText text (some number) = .error failure) :
      Refused reader number (.description text) failure
  | unnamed {text : Text} {annotated : Annotated}
      (read : Annotated.ofText text (some number) = .ok annotated) (unnamed : annotated.description = []) :
      Refused reader number (.description text) (faultAt .missingDescription number 1)
  | entry {content comment : Text} {failure : Failure} (inside : reader.inBlock = true)
      (read : Declaration.ofEntry content comment number = .error failure) :
      Refused reader number (.indented content comment) failure
  | conflict {content comment : Text} {declaration : Declaration} {column : Nat} {cause : Cause}
      {registry : Registry} (inside : reader.inBlock = true)
      (read : Declaration.ofEntry content comment number = .ok (declaration, column))
      (declared : reader.registry.declare declaration = (.error cause, registry)) :
      Refused reader number (.indented content comment) (faultAt cause number column)
  | alone {content comment : Text} (outside : reader.inBlock = false) (unopened : reader.booking = none) :
      Refused reader number (.indented content comment)
        (faultAt .postingOutsideBooking number ((content.takeWhile Unicode.isBlank).length + 1))
  | account {content comment : Text} {booking : Booking} {fault : LedgerFault}
      (outside : reader.inBlock = false) (opened : reader.booking = some booking)
      (read : Account.ofText (PostingText.ofText (Text.strip content)).account (some number)
        ((content.takeWhile Unicode.isBlank).length + 1) = .error fault) :
      Refused reader number (.indented content comment) (.ledger fault)
  | amount {content comment text : Text} {booking : Booking} {failure : Failure} {registry : Registry}
      (outside : reader.inBlock = false) (opened : reader.booking = some booking)
      (written : (PostingText.ofText (Text.strip content)).money = some text)
      (read : Money.ofText text reader.registry = (.error failure, registry)) :
      Refused reader number (.indented content comment)
        (failure.placedAt number ((content.takeWhile Unicode.isBlank).length +
          (PostingText.ofText (Text.strip content)).offset + 1))

section Refused

variable {number : Nat} {failure : Failure}

theorem refused_of_closeBooking {line : Line}
    (failed : { reader with inBlock := false }.closeBooking = .error failure) :
    Refused reader number line failure := by
  rcases closeBooking_eq_error failed with ⟨booking, opened, bare, rfl⟩
  exact .unfilled opened bare

theorem refused_of_openBooking {text : Text}
    (failed : { reader with inBlock := false }.openBooking text number = .error failure) :
    Refused reader number (.description text) failure := by
  unfold openBooking at failed
  rcases Outcome.bind_eq_error.mp failed with refused | ⟨closed, ended, failed⟩
  · exact refused_of_closeBooking refused
  · split at failed
    · rename_i undated
      rcases Except.error.inj failed with rfl
      exact .undated ended (by simpa using undated)
    · rcases Outcome.bind_eq_error.mp failed with refused | ⟨annotated, read, failed⟩
      · exact .tags refused
      · split at failed
        · rename_i unnamed
          rcases Except.error.inj failed with rfl
          exact .unnamed read (by simpa using unnamed)
        · cases failed

theorem refused_of_readPosting {content comment : Text} {booking : Booking}
    (outside : reader.inBlock = false) (opened : reader.booking = some booking)
    (failed : reader.readPosting booking content number = .error failure) :
    Refused reader number (.indented content comment) failure := by
  unfold readPosting at failed
  dsimp only at failed
  split at failed
  · rename_i fault refused
    rcases Except.error.inj failed with rfl
    exact .account outside opened refused
  · split at failed
    · cases failed
    · rename_i text written
      rcases Outcome.bind_eq_error.mp failed with refused | ⟨read, -, done⟩
      · have amount := Outcome.map_eq_error.mp refused
        unfold readMoney at amount
        split at amount
        · cases amount
        · rename_i cause registry unread
          rcases Except.error.inj amount with rfl
          exact .amount outside opened written unread
      · cases done

theorem refused_of_readEntry {content comment : Text} (inside : reader.inBlock = true)
    (failed : reader.readEntry content comment number = .error failure) :
    Refused reader number (.indented content comment) failure := by
  unfold readEntry at failed
  rcases Outcome.bind_eq_error.mp failed with refused | ⟨⟨declaration, column⟩, read, failed⟩
  · exact .entry inside refused
  · dsimp only at failed
    split at failed
    · cases failed
    · rename_i cause registry declared
      rcases Except.error.inj failed with rfl
      exact .conflict inside read declared

/-- A line that is refused is refused in one of the known ways. -/
theorem refused_of_step {numbered : NumberedLine} (failed : reader.step numbered = .error failure) :
    Refused reader numbered.number numbered.line failure := by
  unfold step at failed
  dsimp only at failed
  cases line : numbered.line with
  | gap =>
      rw [line] at failed
      rcases Outcome.bind_eq_error.mp failed with refused | ⟨closed, -, done⟩
      · rcases closeBooking_eq_error refused with ⟨booking, opened, bare, rfl⟩
        exact .unfilled opened bare
      · cases done
  | header closings =>
      rw [line] at failed
      change openBlock { reader with inBlock := false } closings _ = _ at failed
      unfold openBlock at failed
      split at failed
      · rename_i many
        rcases Except.error.inj failed with rfl
        exact .header many
      · rcases Outcome.bind_eq_error.mp failed with refused | ⟨closed, -, done⟩
        · exact refused_of_closeBooking refused
        · cases done
  | date text =>
      rw [line] at failed
      rcases Outcome.bind_eq_error.mp failed with refused | ⟨closed, -, failed⟩
      · exact refused_of_closeBooking refused
      · rcases Outcome.bind_eq_error.mp failed with refused | ⟨date, -, done⟩
        · exact .date refused
        · cases done
  | relative day =>
      rw [line] at failed
      change openRelative { reader with inBlock := false } day _ = _ at failed
      unfold openRelative at failed
      split at failed
      · rename_i unknown
        rcases Except.error.inj failed with rfl
        exact .unknown unknown
      · rename_i present known
        rcases Outcome.bind_eq_error.mp failed with refused | ⟨closed, -, failed⟩
        · exact refused_of_closeBooking refused
        · split at failed
          · cases failed
          · rename_i outside
            rcases Except.error.inj failed with rfl
            exact .outside known outside
  | description text =>
      rw [line] at failed
      exact refused_of_openBooking failed
  | indented content comment =>
      rw [line] at failed
      change readIndented reader content comment _ = _ at failed
      unfold readIndented at failed
      split at failed
      · rename_i inside
        exact refused_of_readEntry inside failed
      · rename_i outside
        replace outside : reader.inBlock = false := by simpa using outside
        split at failed
        · rename_i booking opened
          exact refused_of_readPosting outside opened failed
        · rename_i unopened
          rcases Except.error.inj failed with rfl
          exact .alone outside unopened

end Refused

/-! ## What is left alone -/

theorem today_of_closeBooking (ok : reader.closeBooking = .ok after) : after.today = reader.today := by
  rcases closeBooking_eq_ok ok with ⟨-, rfl⟩ | ⟨booking, -, -, rfl⟩
  · rfl
  · rfl

theorem registry_of_closeBooking (ok : reader.closeBooking = .ok after) :
    after.registry = reader.registry := by
  rcases closeBooking_eq_ok ok with ⟨-, rfl⟩ | ⟨booking, -, -, rfl⟩
  · rfl
  · rfl

theorem inBlock_of_closeBooking (ok : reader.closeBooking = .ok after) :
    after.inBlock = reader.inBlock := by
  rcases closeBooking_eq_ok ok with ⟨-, rfl⟩ | ⟨booking, -, -, rfl⟩
  · rfl
  · rfl

/-- No booking is left open. -/
theorem booking_of_closeBooking (ok : reader.closeBooking = .ok after) : after.booking = none := by
  rcases closeBooking_eq_ok ok with ⟨nothing, rfl⟩ | ⟨booking, -, -, rfl⟩
  · exact nothing
  · rfl

/-- A line leaves the present day alone. -/
theorem Stepped.today {number : Nat} {line : Line} (stepped : Stepped reader number line after) :
    after.today = reader.today := by
  cases stepped with
  | gap ended => exact (today_of_closeBooking ended :)
  | header few ended => exact (today_of_closeBooking ended :)
  | date read ended => exact (today_of_closeBooking ended :)
  | relative known beside ended => exact (today_of_closeBooking ended :)
  | description ended dated read named => exact (today_of_closeBooking ended :)
  | entry inside read declared => rfl
  | bare outside opened read omitted => rfl
  | posting outside opened read written amount => rfl

theorem today_of_steps {lines : List NumberedLine} (ok : reader.steps lines = .ok after) :
    after.today = reader.today := by
  induction lines generalizing reader with
  | nil => rw [Except.ok.inj ok]
  | cons numbered rest ih =>
      rcases Outcome.bind_eq_ok.mp ok with ⟨next, stepped, later⟩
      rw [ih later, (stepped_of_step stepped).today]

end Reader
end Daybook
