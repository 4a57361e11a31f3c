import Daybook.Proofs.Ledger.Reader
import Daybook.Proofs.Money.Accepted

namespace Daybook

/-!
# How reading fails

Reading refuses a text by naming what is wrong with a line.  There are five ways in which
it stops without doing so, and no others: a number of days or of decimals that cannot be
read, a word for a day beside the last or the first one of the calendar, a minus in front of
a number that is too large to be negated, and an amount that its currency cannot show.  Each
is said of the line or the amount that it comes from.
-/

open Unicode

/-! ## Numbers -/

namespace Annotated

/-- The tags that are taken off a text, in order. -/
def tags (text : Text) : List WrittenTag :=
  match _found : WrittenTag.peel? text with
  | none => []
  | some (tag, rest) => tag :: tags rest
termination_by text.length
decreasing_by exact WrittenTag.length_peel?_lt _found

theorem tags_of_peel? {text rest : Text} {tag : WrittenTag}
    (found : WrittenTag.peel? text = some (tag, rest)) : tags text = tag :: tags rest := by
  rw [tags]
  split
  · rename_i none_left
    rw [none_left] at found
    cases found
  · rename_i other shorter known
    rw [known] at found
    rcases Prod.mk.inj (Option.some.inj found) with ⟨rfl, rfl⟩
    rfl

/-- Whether a tag moves a booking by a number whose digits are too many to be read. -/
structure IsLongMove (tag : WrittenTag) (digits : Text) : Prop where
  named : tag.name = Tag.date.word
  written : ∃ number, tag.argument.map Text.strip = some number ∧ isOffset number = true ∧
    (Text.takeSign number).2 = digits
  long : Text.digitLimit < digits.length

/-- Taking in a tag fails without a fault only on a number of days. -/
theorem accept_eq_error {line : Option Nat} {column : Nat} {progress : Progress} {tag : WrittenTag}
    {failure : Failure} (failed : accept line column progress tag = .error failure) :
    failure.IsFault ∨ ∃ digits, IsLongMove tag digits ∧ failure = .integer (.tooLong digits.length) := by
  unfold accept at failed
  split at failed
  · left
    split at failed
    · exact Failure.isFault_of_refused failed
    · split at failed
      · cases failed
      · exact Failure.isFault_of_refused failed
  · split at failed
    · rename_i named
      split at failed
      · exact Or.inl (Failure.isFault_of_refused failed)
      · split at failed
        · exact Or.inl (Failure.isFault_of_refused failed)
        · rename_i number given
          rcases Option.filter_eq_some_iff.mp given with ⟨written, offset⟩
          have digits := offset
          rw [isOffset, Bool.and_eq_true, List.all_eq_true] at digits
          rcases Text.toInteger_signed (by simpa using digits.1) digits.2 with ⟨value, -, result⟩
          rw [result] at failed
          split at failed
          · cases failed
          · rename_i fault unread
            split at unread
            · rename_i long
              rcases Except.error.inj unread with rfl
              exact Or.inr ⟨_, ⟨named, ⟨number, written, offset, rfl⟩, long⟩,
                (Except.error.inj failed).symm⟩
            · cases unread
    · exact Or.inl (Failure.isFault_of_refused failed)

theorem scan_eq_error {whole remaining : Text} {line : Option Nat} {progress : Progress}
    {failure : Failure} (failed : scan whole line progress remaining = .error failure) :
    failure.IsFault ∨ ∃ tag ∈ tags remaining, ∃ digits, IsLongMove tag digits ∧
      failure = .integer (.tooLong digits.length) := by
  induction size : remaining.length using Nat.strongRecOn generalizing remaining progress with
  | ind n ih =>
      rw [scan] at failed
      split at failed
      · cases failed
      · rename_i tag rest found
        rw [tags_of_peel? found]
        dsimp only at failed
        split at failed
        · refine (ih rest.length (size ▸ WrittenTag.length_peel?_lt found) failed rfl).imp_right ?_
          rintro ⟨other, among, long⟩
          exact ⟨other, List.mem_cons_of_mem tag among, long⟩
        · rename_i refusal refused
          rcases Except.error.inj failed with rfl
          exact (accept_eq_error refused).imp_right fun long => ⟨tag, List.mem_cons_self, long⟩

theorem ofText_eq_error {text : Text} {line : Option Nat} {failure : Failure}
    (failed : ofText text line = .error failure) :
    failure.IsFault ∨ ∃ tag ∈ tags text, ∃ digits, IsLongMove tag digits ∧
      failure = .integer (.tooLong digits.length) :=
  scan_eq_error failed

end Annotated

namespace Declaration

/-- Whether a word of digits is no number that can be read: a character stands in it that
counts as a digit without being a decimal one, or it is too long. -/
def IsUnreadable (word : Text) : Prop :=
  word.all isDigit = true ∧ ((∃ c ∈ word, isDecimal c = false) ∨ Text.digitLimit < word.length)

/-- Taking in a word fails without a fault only on a number of decimals. -/
theorem acceptWord_eq_error {designator : Text} {number : Nat} {draft : Draft} {place : Nat × Text}
    {failure : Failure} (failed : acceptWord designator number draft place = .error failure) :
    failure.IsFault ∨ IsUnreadable place.2 ∧ ∃ fault, failure = .integer fault := by
  rcases place with ⟨offset, word⟩
  unfold acceptWord at failed
  dsimp only at failed
  split at failed
  · rename_i digits
    simp only [Bool.and_eq_true, Bool.not_eq_true', List.isEmpty_eq_false_iff] at digits
    split at failed
    · cases failed
    · rename_i fault unread
      refine Or.inr ⟨⟨digits.1.1, ?_⟩, fault, (Except.error.inj failed).symm⟩
      by_contra readable
      simp only [not_or, not_exists, not_and, Bool.not_eq_false, not_lt] at readable
      have unsigned := Text.takeSign_of_decimal readable.1
      rcases @Text.toInteger_signed word (by rw [unsigned]; exact digits.1.2)
        (by rw [unsigned]; exact readable.1) with ⟨value, -, result⟩
      rw [unsigned] at result
      rw [result, if_neg (not_lt.mpr readable.2)] at unread
      cases unread
  · left
    split at failed
    · cases failed
    · split at failed
      · cases failed
      · exact Failure.isFault_of_refused failed

theorem ofEntry_eq_error {content comment : Text} {number : Nat} {failure : Failure}
    (failed : ofEntry content comment number = .error failure) :
    failure.IsFault ∨
      ∃ word ∈ (Text.words content).tail, IsUnreadable word ∧ ∃ fault, failure = .integer fault := by
  have words := Text.map_snd_wordsFrom 0 content
  unfold ofEntry at failed
  split at failed
  · exact Or.inl (Failure.isFault_of_refused failed)
  · rename_i offset designator rest shape
    dsimp only at failed
    split at failed
    · rcases Outcome.bind_eq_error.mp failed with refused | ⟨draft, -, done⟩
      · rcases exists_of_acceptWords refused with ⟨place, among, before, refused⟩
        refine (acceptWord_eq_error refused).imp_right fun unreadable => ⟨place.2, ?_, unreadable⟩
        rw [← words, ← Text.wordsAt_eq, shape]
        exact List.mem_map_of_mem among
      · cases done
    · exact Or.inl (Failure.isFault_of_refused failed)

end Declaration

/-! ## Amounts -/

namespace Money

open Decimal

/-- Whether a text is an amount with a minus whose number is too large to be negated. -/
def IsTooNegative (text : Text) : Prop :=
  ∃ literal value, Literal.ofText (Text.strip text) = .ok literal ∧ literal.negative = true ∧
    literal.value (Text.strip text) = .ok value ∧
    (10 : Rat) ^ (ledger.largest + 1) ≤ |value.value| + 10 ^ topUnit / 2

/-- Reading an amount fails without a fault only on a minus. -/
theorem ofText_eq_error {text : Text} {registry after : Registry} {failure : Failure}
    (failed : ofText text registry = (.error failure, after)) :
    failure.IsFault ∨ IsTooNegative text ∧ failure = .arithmetic .overflow := by
  cases unread_of_ofText failed with
  | form refused => exact Or.inl ⟨_, rfl⟩
  | number read refused => exact Or.inl ⟨_, rfl⟩
  | unknown read => exact Or.inl ⟨_, rfl⟩
  | @minus literal value signal read minus number refused =>
      rcases overflow_of_round_error refused with ⟨rfl, large⟩
      rw [value_negated, abs_neg] at large
      exact Or.inr ⟨⟨literal, value, read, minus, number, large⟩, rfl⟩

/-- Whether an amount cannot be shown in its currency: rounded to the decimals of the currency
it has more digits than are kept, or the currency has more decimals than can be rounded to. -/
def IsUnshowable (registry : Registry) (money : Money) : Prop :=
  2 * (ledger.largest + ledger.digits) < (registry.currencyFor money.currency).precision ∨
    ∃ unit, unitExponent (registry.currencyFor money.currency).precision = .ok unit ∧
      (10 : Rat) ^ (unit + ledger.digits) ≤ |money.amount.value| + 10 ^ unit / 2

/-- Rounding an amount to the unit of its currency fails only if it cannot be shown. -/
theorem isUnshowable_of_error {α : Type} {money : Money} {registry : Registry} {failure : Failure}
    {next : Int → Decimal → Outcome α} (proper : registry.Proper)
    (failed : (do
      let unit ← unitExponent (registry.currencyFor money.currency).precision
      let shown ← Outcome.ofNumbers (money.amount.quantize .halfEven unit)
      next unit shown) = .error failure) :
    (money.IsUnshowable registry ∧ failure = .arithmetic .invalidOperation) ∨
      ∃ unit shown, unitExponent (registry.currencyFor money.currency).precision = .ok unit ∧
        IsShown unit shown ∧ next unit shown = .error failure := by
  have positive := proper.precision_currencyFor money.currency
  rcases Outcome.bind_eq_error.mp failed with no_unit | ⟨unit, smallest, failed⟩
  · rcases Outcome.ofNumbers_eq_error.mp (Outcome.map_eq_error.mp no_unit) with ⟨signal, refused, rfl⟩
    rcases smallestUnit_eq_error positive refused with ⟨rfl, many⟩
    exact Or.inl ⟨Or.inl many, rfl⟩
  · rcases unitExponent_eq_ok positive smallest with ⟨least, most⟩
    rcases Outcome.bind_eq_error.mp failed with not_shown | ⟨shown, quantized, failed⟩
    · rcases Outcome.ofNumbers_eq_error.mp not_shown with ⟨signal, refused, rfl⟩
      rcases quantize_eq_error least most refused with ⟨rfl, large⟩
      exact Or.inl ⟨Or.inr ⟨unit, smallest, large⟩, rfl⟩
    · have is_shown := isShown_of_quantize most (Outcome.ofNumbers_eq_ok.mp quantized)
      exact Or.inr ⟨unit, shown, smallest, is_shown, failed⟩

/-- Checking the decimals of an amount fails without a fault only if it cannot be shown. -/
theorem checkPrecision_eq_error {money : Money} {registry : Registry} {failure : Failure}
    (proper : registry.Proper) (failed : money.checkPrecision registry = .error failure) :
    failure.IsFault ∨ money.IsUnshowable registry ∧ failure = .arithmetic .invalidOperation := by
  rcases isUnshowable_of_error proper failed with unshowable | ⟨unit, shown, -, -, failed⟩
  · exact Or.inr unshowable
  · split at failed
    · cases failed
    · exact Or.inl (Failure.isFault_of_refused failed)

/-- Printing an amount fails only if it cannot be shown. -/
theorem format_eq_error {money : Money} {registry : Registry} {failure : Failure}
    (proper : registry.Proper) (failed : money.format registry = .error failure) :
    money.IsUnshowable registry ∧ failure = .arithmetic .invalidOperation := by
  rcases isUnshowable_of_error proper failed with unshowable | ⟨unit, shown, smallest, is_shown, failed⟩
  · exact unshowable
  · rw [formatAmount_eq smallest is_shown] at failed
    cases failed

end Money

/-! ## Lines -/

/-- How a line stops reading without a fault of the ledger.  The day beside the present one lies
outside the calendar, a tag has a number of days that is too long, a word of a currency entry is
meant for a number and is none that can be read, or the amount of a posting is too large for its
minus. -/
inductive Line.Stops (today : Option Calendar.Date) : Line → Failure → Prop
  | relative {day : Calendar.RelativeDay} {present : Calendar.Date} (known : today = some present)
      (outside : present.shift? day.days = none) : Stops today (.relative day) .dateRange
  | offset {text digits : Text} {tag : WrittenTag} (carried : tag ∈ Annotated.tags text)
      (long : Annotated.IsLongMove tag digits) :
      Stops today (.description text) (.integer (.tooLong digits.length))
  | decimals {content comment word : Text} (written : word ∈ (Text.words content).tail)
      (unreadable : Declaration.IsUnreadable word) (fault : IntegerFault) :
      Stops today (.indented content comment) (.integer fault)
  | negation {content comment text : Text}
      (written : (PostingText.ofText (Text.strip content)).money = some text)
      (large : Money.IsTooNegative text) :
      Stops today (.indented content comment) (.arithmetic .overflow)

namespace Reader

variable {reader after : Reader} {failure : Failure}

theorem readDate_eq_error {text : Text} {number : Nat} (failed : readDate text number = .error failure) :
    failure.IsFault := by
  unfold readDate at failed
  split at failed
  · split at failed
    · cases failed
    · exact Failure.isFault_of_refused failed
  · exact Failure.isFault_of_refused failed

/-- A line stops reading with a fault of the ledger or in one of the known ways. -/
theorem step_eq_error {numbered : NumberedLine} (failed : reader.step numbered = .error failure) :
    failure.IsFault ∨ numbered.line.Stops reader.today failure := by
  rcases numbered with ⟨number, line⟩
  cases refused_of_step failed with
  | unfilled opened bare => exact Or.inl ⟨_, rfl⟩
  | header many => exact Or.inl ⟨_, rfl⟩
  | date refused => exact Or.inl (readDate_eq_error refused)
  | unknown unknown => exact Or.inl ⟨_, rfl⟩
  | outside known outside => exact Or.inr (.relative known outside)
  | undated ended undated => exact Or.inl ⟨_, rfl⟩
  | tags refused =>
      rcases Annotated.ofText_eq_error refused with fault | ⟨tag, carried, digits, long, rfl⟩
      · exact Or.inl fault
      · exact Or.inr (.offset carried long)
  | unnamed read unnamed => exact Or.inl ⟨_, rfl⟩
  | entry inside refused =>
      rcases Declaration.ofEntry_eq_error refused with fault | ⟨word, written, unreadable, fault, rfl⟩
      · exact Or.inl fault
      · exact Or.inr (.decimals written unreadable fault)
  | conflict inside read declared => exact Or.inl ⟨_, rfl⟩
  | alone outside unopened => exact Or.inl ⟨_, rfl⟩
  | account outside opened refused => exact Or.inl ⟨_, rfl⟩
  | @amount content comment text booking refusal registry outside opened written refused =>
      rcases Failure.placedAt_cases refusal number _ with fault | same
      · exact Or.inl fault
      · rw [same]
        rcases Money.ofText_eq_error refused with fault | ⟨large, rfl⟩
        · exact Or.inl fault
        · exact Or.inr (.negation written large)

/-- Reading lines fails on one of them. -/
theorem steps_eq_error {lines : List NumberedLine} (failed : reader.steps lines = .error failure) :
    failure.IsFault ∨ ∃ numbered ∈ lines, numbered.line.Stops reader.today failure := by
  induction lines generalizing reader with
  | nil => cases failed
  | cons numbered rest ih =>
      rcases Outcome.bind_eq_error.mp failed with refused | ⟨next, stepped, later⟩
      · exact (step_eq_error refused).imp_right fun stops => ⟨numbered, List.mem_cons_self, stops⟩
      · rw [← (stepped_of_step stepped).today]
        exact (ih later).imp_right fun ⟨other, among, stops⟩ =>
          ⟨other, List.mem_cons_of_mem numbered among, stops⟩

/-! ## The final check -/

theorem checkPosting_eq_error (proper : reader.registry.Proper) {posting : Posting}
    (failed : reader.checkPosting posting = .error failure) :
    failure.IsFault ∨ ∃ money, posting.money = some money ∧ money.IsUnshowable reader.registry ∧
      failure = .arithmetic .invalidOperation := by
  unfold checkPosting at failed
  split at failed
  · cases failed
  · rename_i money found
    split at failed
    · cases failed
    · rename_i refusal refused
      obtain fault | rfl : failure.IsFault ∨ failure = refusal := by
        split at failed
        · rename_i line _
          rw [← Except.error.inj failed]
          exact Failure.placedAt_cases refusal line _
        · exact Or.inr (Except.error.inj failed).symm
      · exact Or.inl fault
      · exact (Money.checkPrecision_eq_error proper refused).imp_right fun unshowable =>
          ⟨money, found, unshowable⟩

theorem checkPostings_eq_error (proper : reader.registry.Proper) {postings : List Posting}
    (failed : reader.checkPostings postings = .error failure) :
    failure.IsFault ∨ ∃ posting ∈ postings, ∃ money, posting.money = some money ∧
      money.IsUnshowable reader.registry ∧ failure = .arithmetic .invalidOperation := by
  induction postings with
  | nil => cases failed
  | cons posting rest ih =>
      rcases Outcome.bind_eq_error.mp failed with refused | ⟨⟨⟩, -, later⟩
      · exact (checkPosting_eq_error proper refused).imp_right fun unshowable =>
          ⟨posting, List.mem_cons_self, unshowable⟩
      · exact (ih later).imp_right fun ⟨other, among, unshowable⟩ =>
          ⟨other, List.mem_cons_of_mem posting among, unshowable⟩

end Reader

/-! ## The whole reading -/

namespace Reading

variable {text : Text} {today : Option Calendar.Date} {strict : Bool} {failure : Failure}

/-- What has been read of a text when its last line is closed and the amounts are yet to be
checked. -/
def unchecked (text : Text) (today : Option Calendar.Date) (strict : Bool) : Outcome Reader := do
  let registry := if strict then Registry.withClosed {} true else {}
  let reader ← Reader.steps { today, registry } (Line.classify (Text.lines text))
  reader.closeBooking

/-- How a text stops reading without a fault of the ledger: one of the lines stops it, or one of
the amounts cannot be shown in its currency as the text declares it. -/
inductive Stops (text : Text) (today : Option Calendar.Date) (strict : Bool) : Failure → Prop
  | line {numbered : NumberedLine} {failure : Failure} (among : numbered ∈ Line.classify (Text.lines text))
      (stops : numbered.line.Stops today failure) : Stops text today strict failure
  | amount {reader : Reader} {booking : Booking} {money : Money}
      (read : unchecked text today strict = .ok reader) (booked : booking ∈ reader.bookings)
      (given : money ∈ booking.moneys) (unshowable : money.IsUnshowable reader.registry) :
      Stops text today strict (.arithmetic .invalidOperation)

/-- A text is refused with a fault of the ledger or stops reading in one of the known ways. -/
theorem ofText_eq_error (failed : ofText text today {} strict = .error failure) :
    failure.IsFault ∨ Stops text today strict failure := by
  unfold ofText at failed
  rcases Outcome.bind_eq_error.mp failed with refused | ⟨reader, run, failed⟩
  · exact (Reader.steps_eq_error refused).imp_right fun ⟨numbered, among, stops⟩ => .line among stops
  · have proper := Reader.proper_of_text run
    unfold Reader.finish at failed
    rcases Outcome.bind_eq_error.mp failed with refused | ⟨closed, ended, failed⟩
    · rcases Reader.closeBooking_eq_error refused with ⟨booking, -, -, rfl⟩
      exact Or.inl ⟨_, rfl⟩
    · have kept := (proper.closeBooking ended).1
      have read : unchecked text today strict = .ok closed := by
        rw [unchecked, run]
        exact ended
      rcases Outcome.bind_eq_error.mp failed with refused | ⟨⟨⟩, -, done⟩
      · rcases Reader.checkPostings_eq_error kept.closeChapter.registry refused with
          fault | ⟨posting, among, money, found, unshowable, rfl⟩
        · exact Or.inl fault
        · rcases List.mem_flatMap.mp among with ⟨booking, booked, inside⟩
          have given : money ∈ booking.moneys := List.mem_filterMap.mpr ⟨posting, inside, found⟩
          refine Or.inr (.amount read ?_ given unshowable)
          simpa [Reader.bookings, Reader.closeChapter] using booked
      · cases done

end Reading
end Daybook
