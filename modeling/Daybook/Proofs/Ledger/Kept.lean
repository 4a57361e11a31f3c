import Daybook.Proofs.Ledger.Balanced
import Daybook.Proofs.Ledger.Sorted
import Daybook.Proofs.Money.Checked

namespace Daybook

/-!
# Amounts are kept as they were written

Every amount that is written in a text is in the ledger that is loaded from it, on the posting
of its line: splits, inferred amounts, dates and sorting touch other postings only.  A number
without a minus is kept digit by digit, whatever its length.  One with a minus is kept rounded to
the digits that arithmetic keeps.  It is therefore exact if and only if the number, without its
minus, would have passed the check of its decimals; the check itself sees only what is left of
it.
-/

open Calendar

/-! ## Written numbers -/

/-- Whether digits with at most one point spell a value: the digits taken as one whole number,
with the point moved to where it is written. -/
def Text.Spells (text : Text) (value : Rat) : Prop :=
  ∃ (whole fraction : Text) (digits : Nat),
    (text = whole ∧ fraction = [] ∨ text = whole ++ '.' :: fraction) ∧
      Text.digits? (whole ++ fraction) = some digits ∧ value = digits / 10 ^ fraction.length

/-- A number is read as what its digits spell, without a sign. -/
theorem Literal.spells_of_value {literal : Literal} {text : Text} {number : Decimal}
    (ok : literal.value text = .ok number) :
    number.negative = false ∧ Text.Spells literal.number number.value := by
  have value_eq (digits places : Nat) :
      Decimal.value ⟨false, digits, 0 - (places : Int)⟩ = digits / 10 ^ places := by
    rw [Decimal.value_signed, if_neg Bool.false_ne_true, one_mul, zero_sub, zpow_neg, zpow_natCast]
    rfl
  unfold Literal.value at ok
  split at ok
  · cases ok
  · split at ok
    · cases ok
    · split at ok
      · rename_i read measured
        rcases Except.ok.inj ok with rfl
        unfold Decimal.ofDigits? at measured
        by_cases point : '.' ∈ literal.number
        · rcases List.eq_append_cons_of_mem point with ⟨whole, fraction, shape, no_point⟩
          rw [shape, Text.cutAt_append no_point] at measured
          rcases Option.map_eq_some_iff.mp measured with ⟨digits, spelled, rfl⟩
          exact ⟨rfl, whole, fraction, digits, Or.inr shape, spelled, value_eq digits _⟩
        · rw [Text.cutAt_of_not_mem point] at measured
          rcases Option.map_eq_some_iff.mp measured with ⟨digits, spelled, rfl⟩
          exact ⟨rfl, literal.number, [], digits, Or.inl ⟨rfl, rfl⟩, spelled, value_eq digits 0⟩
      · cases ok

namespace Money

/-- An amount is the number that is read, with its minus applied. -/
theorem number_of_ofText {text : Text} {registry after : Registry} {money : Money}
    (ok : ofText text registry = (.ok money, after)) :
    ∃ literal number, Literal.ofText (Text.strip text) = .ok literal ∧
      literal.value (Text.strip text) = .ok number ∧
      (if literal.negative then number.neg else .ok number) = .ok money.amount := by
  unfold ofText at ok
  dsimp only at ok
  split at ok
  · cases ok
  · rename_i literal read
    split at ok
    · cases ok
    · rename_i number measured
      split at ok
      · cases ok
      · rcases Prod.mk.inj ok with ⟨signed, rfl⟩
        rcases Outcome.map_eq_ok.mp signed with ⟨amount, computed, rfl⟩
        exact ⟨literal, number, read, measured, Outcome.ofNumbers_eq_ok.mp computed⟩

/-- What is kept of a number that is written with or without a minus.  Without one it is the number
itself, and with one what is nearest to its opposite among the numbers with as many digits as
arithmetic keeps.  It is exact if and only if the number has no more decimals than its currency.
The check lets the number through without its minus in the same cases; with a minus it passes in
these cases, too, and its opposite is exact. -/
structure Keeps (registry : Registry) (negative : Bool) (number : Decimal) (money : Money) : Prop where
  plain : negative = false → money.amount = number
  rounded : negative = true → ∃ unit, Decimal.IsRoundingUnit (-number.value) unit ∧
    Decimal.IsNearest unit (-number.value) money.amount.value
  exact_iff : money.amount.value = (if negative then -number.value else number.value) ↔
    OnCurrencyGrid registry ⟨money.currency, number⟩
  checked_iff : checkPrecision ⟨money.currency, number⟩ registry = .ok ⟨money.currency, number⟩ ↔
    OnCurrencyGrid registry ⟨money.currency, number⟩
  turned : OnCurrencyGrid registry ⟨money.currency, number⟩ →
    ∃ opposite, number.neg = .ok opposite ∧ opposite.value = -number.value ∧
      checkPrecision ⟨money.currency, opposite⟩ registry = .ok ⟨money.currency, opposite⟩

/-- What is kept of a number that passed the check with its minus. -/
theorem keeps_of_checked {registry : Registry} (proper : registry.Proper) {money checked : Money}
    (passed : money.checkPrecision registry = .ok checked) {negative : Bool} {number : Decimal}
    (computed : (if negative then number.neg else .ok number) = .ok money.amount) :
    Keeps registry negative number money := by
  have fits := fits_of_checkPrecision proper passed
  have grid := (checkPrecision_eq_ok proper passed).1
  cases negative with
  | false =>
      rcases Except.ok.inj computed with rfl
      have through := (checkPrecision_eq_ok_iff proper).mpr fits
      exact ⟨fun _ => rfl, fun minus => (by cases minus), iff_of_true rfl grid, iff_of_true through grid,
        fun _ => exists_opposite proper fits⟩
  | true =>
      have exactly := exact_neg_iff proper computed fits
      refine ⟨fun plain => (by cases plain), fun _ => ?_, exactly.1, ?_, fun on_grid => ?_⟩
      · rw [← Decimal.value_negated]
        exact Decimal.round_value computed
      · rw [checkPrecision_eq_ok_iff proper]
        exact exactly.2.symm
      · exact exists_opposite proper (exactly.2.mp on_grid)

end Money

/-! ## From the text to the ledger -/

namespace Snapshot

variable {text : Text} {today : Option Date} {strict : Bool} {snapshot : Snapshot}

/-- The bookings of a ledger are those of the reading, resolved: each of these is there, and
there is no other. -/
theorem exists_resolutions (loaded : load text today strict = .ok snapshot) :
    ∃ reading, Reading.ofText text today {} strict = .ok reading ∧
      snapshot.registry = reading.registry ∧
      (∀ written ∈ reading.bookings, ∃ booking ∈ Chapter.bookingsOf snapshot.chapters,
        ∃ resolved, written.resolve reading.registry = .ok resolved ∧
          booking.postings = resolved.postings) ∧
      ∀ booking ∈ Chapter.bookingsOf snapshot.chapters, ∃ written ∈ reading.bookings,
        ∃ resolved, written.resolve reading.registry = .ok resolved ∧
          booking.postings = resolved.postings := by
  rcases exists_placed loaded with ⟨reading, placed, read, kept, places, sorted⟩
  have bookings : reading.bookings = (Chapter.entries reading.chapters).map (·.2) := by
    rw [Reading.bookings, ← Chapter.bookingsOf_eq, Chapter.bookingsOf]
  refine ⟨reading, read, kept, ?_, ?_⟩
  · intro written member
    rw [bookings] at member
    rcases List.mem_map.mp member with ⟨entry, inside, rfl⟩
    rcases exists_of_forall₂ places.flip inside with ⟨moved, among, -, resolved, ok, same⟩
    rcases Chapter.exists_mem_labelled 0 ((Chapter.byDate_perm placed).mem_iff.mpr among) with
      ⟨label, listed⟩
    rw [← sorted] at listed
    exact ⟨_, List.mem_map_of_mem listed, resolved, ok, by rw [same]⟩
  · intro booking member
    rcases List.mem_map.mp member with ⟨entry, inside, rfl⟩
    rw [sorted] at inside
    rcases Chapter.exists_of_mem_labelled inside with ⟨moved, among, label, rfl⟩
    rcases exists_of_forall₂ places ((Chapter.byDate_perm placed).mem_iff.mp among) with
      ⟨written, listed, -, resolved, ok, same⟩
    rw [bookings]
    exact ⟨written.2, List.mem_map_of_mem listed, resolved, ok, by rw [same]⟩

/-- The posting of a line is in the ledger, and every posting of the ledger with the number of the
line is it, unless its amount was omitted. -/
theorem exists_posting (loaded : load text today strict = .ok snapshot) {number : Nat}
    {content written : Text} (line : (number, content) ∈ Line.postings text)
    (given : (PostingText.ofText (Text.strip content)).money = some written) :
    ∃ posting money, posting.money = some money ∧ posting.line = some number ∧
      (∃ registry after, Money.ofText written registry = (.ok money, after)) ∧
      (∃ checked, money.checkPrecision snapshot.registry = .ok checked) ∧
      (∃ booking ∈ Chapter.bookingsOf snapshot.chapters, posting ∈ booking.postings) ∧
      ∀ booking ∈ Chapter.bookingsOf snapshot.chapters, ∀ other ∈ booking.postings,
        other.line = some number → other = posting := by
  rcases exists_resolutions loaded with ⟨reading, read, kept, there, only⟩
  rcases exists_of_forall₂ (Reading.postings_of_ofText read).flip line with ⟨posting, member, source⟩
  have own_line : posting.line = some number := source.line_eq
  have distinct := Reading.nodup_lines_of_ofText read
  obtain ⟨money, has_money, amount⟩ : ∃ money, posting.money = some money ∧
      ∃ registry after, Money.ofText written registry = (.ok money, after) := by
    cases source with
    | bare read omitted =>
        rw [omitted] at given
        cases given
    | amount read other amount =>
        rcases Option.some.inj (other.symm.trans given) with rfl
        exact ⟨_, rfl, _, _, amount⟩
  refine ⟨posting, money, has_money, own_line, amount, ?_, ?_, ?_⟩
  · rw [kept]
    rcases List.mem_flatMap.mp member with ⟨booking, inside, among⟩
    exact Reading.checked_of_ofText read booking inside _ (Booking.mem_moneys_of_posting among has_money)
  · rcases List.mem_flatMap.mp member with ⟨entry, inside, among⟩
    rcases there entry inside with ⟨booking, listed, resolved, ok, same⟩
    exact ⟨booking, listed, same ▸ Booking.mem_of_resolve ok among has_money⟩
  · intro booking listed other among line
    rcases only booking listed with ⟨entry, inside, resolved, ok, same⟩
    rcases Booking.exists_of_resolve ok (same ▸ among) line with ⟨old, before, old_line, unchanged⟩
    have together : old = posting := List.inj_on_of_nodup_map distinct
      (List.mem_flatMap.mpr ⟨entry, inside, before⟩) member (old_line.trans own_line.symm)
    exact (unchanged money (together ▸ has_money)).trans together

/-- Every amount that is written in a text is kept in the ledger that is loaded from it, on the
posting of its line: exactly as it was written, unless it has a minus and more decimals than its
currency.  Such an amount is accepted only if all the decimals too many are rounded away. -/
theorem amounts_are_kept (loaded : load text today strict = .ok snapshot) {number : Nat}
    {content written : Text} (line : (number, content) ∈ Line.postings text)
    (given : (PostingText.ofText (Text.strip content)).money = some written) :
    ∃ literal value, Literal.ofText (Text.strip written) = .ok literal ∧
      literal.value (Text.strip written) = .ok value ∧ Text.Spells literal.number value.value ∧
      (∃ booking ∈ Chapter.bookingsOf snapshot.chapters, ∃ posting ∈ booking.postings,
        posting.line = some number) ∧
      ∀ booking ∈ Chapter.bookingsOf snapshot.chapters, ∀ posting ∈ booking.postings,
        posting.line = some number → ∃ money, posting.money = some money ∧
          money.Keeps snapshot.registry literal.negative value := by
  rcases exists_posting loaded line given with
    ⟨posting, money, has_money, own_line, ⟨registry, after, amount⟩, ⟨checked, passed⟩,
      ⟨booking, listed, among⟩, only⟩
  rcases Money.number_of_ofText amount with ⟨literal, value, read, measured, computed⟩
  refine ⟨literal, value, read, measured, (Literal.spells_of_value measured).2,
    ⟨booking, listed, posting, among, own_line⟩, ?_⟩
  intro other_booking other_listed other other_among other_line
  rw [only other_booking other_listed other other_among other_line]
  exact ⟨money, has_money, Money.keeps_of_checked (settled_of_load loaded).registry passed computed⟩

/-- A lunch with its price written in two ways. -/
def mealText : Text :=
  Text.ofLines ["2024-01-05".toList, "lunch".toList, "    food  $2.50".toList, "    cash  -2.50$".toList]

theorem lunch_is_kept :
    load mealText none false = .ok (loadedFrom mealText false) ∧
      (4, "    cash  -2.50$".toList) ∈ Line.postings mealText ∧
      (PostingText.ofText (Text.strip "    cash  -2.50$".toList)).money = some "-2.50$".toList ∧
      ∃ literal value, Literal.ofText (Text.strip "-2.50$".toList) = .ok literal ∧
        literal.value (Text.strip "-2.50$".toList) = .ok value ∧
        Text.Spells literal.number value.value ∧
        (∃ booking ∈ Chapter.bookingsOf (loadedFrom mealText false).chapters,
          ∃ posting ∈ booking.postings, posting.line = some 4) ∧
        ∀ booking ∈ Chapter.bookingsOf (loadedFrom mealText false).chapters,
          ∀ posting ∈ booking.postings, posting.line = some 4 → ∃ money, posting.money = some money ∧
            money.Keeps (loadedFrom mealText false).registry literal.negative value := by
  have loaded : load mealText none false = .ok (loadedFrom mealText false) := by decide +kernel
  have line : (4, "    cash  -2.50$".toList) ∈ Line.postings mealText := by decide +kernel
  have given : (PostingText.ofText (Text.strip "    cash  -2.50$".toList)).money =
      some "-2.50$".toList := by decide +kernel
  exact ⟨loaded, line, given, amounts_are_kept loaded line given⟩

/-- A number with one digit more than a minus keeps, in a booking. -/
def faintText (sign : Text) : Text :=
  Text.ofLines ["2024-01-05".toList, "faint".toList,
    "    a  $".toList ++ sign ++ "1.00000000000000000000000000001".toList, "    b".toList]

/-- With a minus the number is let through without its last digit, and without one it is refused. -/
theorem minus_hides_digits :
    load (faintText ['-']) none false = .ok (loadedFrom (faintText ['-']) false) ∧
      (3, "    a  $-1.00000000000000000000000000001".toList) ∈ Line.postings (faintText ['-']) ∧
      (∃ literal, Literal.ofText "$-1.00000000000000000000000000001".toList = .ok literal ∧
        literal.negative = true ∧
        literal.value "$-1.00000000000000000000000000001".toList = .ok ⟨false, 10 ^ 29 + 1, -29⟩) ∧
      (Chapter.bookingsOf (loadedFrom (faintText ['-']) false).chapters).map
          (fun booking => booking.postings.map fun posting => (posting.line, posting.money)) =
        [[(some 3, some ⟨['$'], ⟨true, 10 ^ 27, -27⟩⟩), (some 4, some ⟨['$'], ⟨false, 10 ^ 27, -27⟩⟩)]] ∧
      Decimal.value ⟨true, 10 ^ 27, -27⟩ ≠ -Decimal.value ⟨false, 10 ^ 29 + 1, -29⟩ ∧
      load (faintText []) none false =
        .error (.ledger
          { cause := .excessDecimals ⟨false, 10 ^ 29 + 1, -29⟩ 2 ['$'], line := some 3, column := some 8 }) := by
  refine ⟨by decide +kernel, by decide +kernel, ⟨_, rfl, by decide +kernel, by decide +kernel⟩,
    by decide +kernel, ?_, by decide +kernel⟩
  norm_num [Decimal.value]

end Snapshot
end Daybook
