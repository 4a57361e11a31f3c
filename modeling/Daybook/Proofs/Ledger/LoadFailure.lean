import Daybook.Proofs.Ledger.Balanced
import Daybook.Proofs.Ledger.ReadFailure
import Daybook.Proofs.Money.Checked
import Daybook.Proofs.Money.Division

namespace Daybook

/-!
# How loading fails

Loading reads a text, carries out splits, infers amounts, moves bookings to their dates and
builds the balances.  What reading lets through is small enough for all sums that follow,
however many they are.  So after it only two things can stop loading without a fault of the
ledger: an even split of an amount that cannot be divided, which takes a currency whose
smallest amount is rounded to nothing or more parties than there are units to count, and a
booking that is moved out of the calendar.
-/

namespace Money

open Decimal

/-- Whether an amount of a currency cannot be divided evenly among so many parties: the smallest
amount of the currency is rounded to nothing, or the parties are too many for the units to be
counted. -/
def Indivisible (registry : Registry) (currency : Text) (parts : Int) : Prop :=
  -(registry.currencyFor currency).precision < ledger.tiniest ∨ 10 ^ ledger.digits ≤ 2 * parts

/-- What a division can fail with: its numbers, or units that no party is there to receive. -/
def IsOfDivision (failure : Failure) : Prop :=
  failure = .leftover ∨ ∃ signal, failure = .arithmetic signal

theorem isOfDivision_of_splitEven {money : Money} {parts precision : Int} (some_parts : 1 ≤ parts)
    {failure : Failure} (failed : money.splitEven parts precision = .error failure) :
    IsOfDivision failure := by
  have on_numbers {α : Type} {numbers : Except Signal α}
      (refused : Outcome.ofNumbers numbers = .error failure) : IsOfDivision failure :=
    Or.inr ((Outcome.ofNumbers_eq_error.mp refused).imp fun _ => And.right)
  unfold splitEven at failed
  rw [if_neg (by omega)] at failed
  rcases Outcome.bind_eq_error.mp failed with refused | ⟨unit, -, failed⟩
  · exact on_numbers refused
  rcases Outcome.bind_eq_error.mp failed with refused | ⟨base, -, failed⟩
  · exact on_numbers refused
  rcases Outcome.bind_eq_error.mp failed with refused | ⟨remainder, -, failed⟩
  · exact on_numbers refused
  rcases Outcome.choice_eq_error failed with refused | ⟨step, failed⟩
  · exact on_numbers refused
  rcases Outcome.bind_eq_error.mp failed with refused | ⟨units, -, failed⟩
  · exact on_numbers refused
  split at failed
  · exact Or.inl (Except.error.inj failed).symm
  rcases Outcome.bind_eq_error.mp failed with refused | ⟨stepped, -, failed⟩
  · exact on_numbers refused
  rcases Outcome.bind_eq_error.mp failed with refused | ⟨residue, -, failed⟩
  · exact on_numbers refused
  rcases Outcome.bind_eq_error.mp failed with refused | ⟨shares, -, done⟩
  · exact on_numbers refused
  · cases done

/-- Dividing an amount that fits the unit of its currency. -/
theorem splitEven_eq_error {total : Money} {registry : Registry} (proper : registry.Proper)
    (fits : total.FitsCurrency registry) {parts : Int} (some_parts : 1 ≤ parts) {failure : Failure}
    (failed : total.splitEven parts (registry.currencyFor total.currency).precision = .error failure) :
    Indivisible registry total.currency parts := by
  have positive := proper.precision_currencyFor total.currency
  rcases fits with ⟨unit, smallest, fits⟩
  by_contra divisible
  simp only [Indivisible, not_or, not_lt, not_le] at divisible
  rcases divisible with ⟨fine, few⟩
  rw [unitExponent, smallestUnit_of_fine positive fine] at smallest
  rcases Except.ok.inj smallest with rfl
  rcases @exists_splitEven total _ _ positive fine fits some_parts few with ⟨shares, divided⟩
  rw [divided] at failed
  cases failed

end Money

/-! ## Resolving -/

namespace Booking

variable {registry : Registry} {booking resolved : Booking} {failure : Failure}

/-- Whether a booking is split evenly although its amount cannot be divided. -/
def IsIndivisible (registry : Registry) (booking : Booking) : Prop :=
  ∃ directive money, booking.split = some directive ∧ directive.mode = .even ∧
    booking.moneys = [money] ∧
    Money.Indivisible registry money.currency (directive.contacts.length + 1)

/-- Carrying out a split fails without a fault only if the amount cannot be divided. -/
theorem Unsplit.isFault_or_isIndivisible (proper : registry.Proper)
    (settled : ∀ money ∈ booking.moneys, money.Settled registry 28)
    (fits : ∀ money ∈ booking.moneys, money.FitsCurrency registry)
    (unsplit : booking.Unsplit registry failure) :
    failure.IsFault ∨ booking.IsIndivisible registry ∧ Money.IsOfDivision failure := by
  cases unsplit with
  | nobody => exact Or.inl ⟨_, rfl⟩
  | funding => exact Or.inl ⟨_, rfl⟩
  | @opposite funding _ one_amount refused =>
      have given : funding ∈ booking.moneys := one_amount ▸ List.mem_cons_self
      rcases (settled funding given).exists_neg (by decide) (by decide) with ⟨opposite, negated, -⟩
      rw [negated] at refused
      cases refused
  | @shares directive funding total _ to_do even some_contact one_amount negated refused =>
      have given : funding ∈ booking.moneys := one_amount ▸ List.mem_cons_self
      have some_parts : (1 : Int) ≤ directive.contacts.length + 1 := by omega
      have same : total.currency = funding.currency := by
        rcases Money.neg_eq_ok.mp negated with ⟨amount, -, rfl⟩
        rfl
      refine Or.inr ⟨⟨directive, funding, to_do, even, one_amount, ?_⟩,
        Money.isOfDivision_of_splitEven some_parts refused⟩
      rw [← same]
      exact Money.splitEven_eq_error proper ((fits funding given).neg proper negated) some_parts refused

/-- Inferring an amount fails with a fault only. -/
theorem Uninferred.isFault (settled : ∀ money ∈ booking.moneys, money.Settled registry splitPower)
    (uninferred : booking.Uninferred failure) : failure.IsFault := by
  rcases exists_imbalance fun money member => (settled money member).mono (by decide) with ⟨totals, added⟩
  have imbalance : booking.imbalance = .ok totals := by rw [Booking.imbalance, added]; rfl
  cases uninferred with
  | sum refused =>
      rw [imbalance] at refused
      cases refused
  | @opposite currency total signal found refused =>
      rcases Except.ok.inj (imbalance.symm.trans found) with rfl
      have known := settledTotals settled added currency total (by rw [Table.get?, if_pos rfl])
      rcases Decimal.neg_within (by decide) (by decide) known.within with ⟨opposite, ok, -⟩
      unfold balancing at refused
      rw [ok] at refused
      split at refused
      · cases refused
      · cases refused
  | rest => exact ⟨_, rfl⟩
  | none waiting => exact ⟨_, rfl⟩
  | currencies waiting => exact ⟨_, rfl⟩
  | blanks waiting => exact ⟨_, rfl⟩

/-- Resolving a booking fails without a fault only if its amount cannot be divided. -/
theorem isFault_or_isIndivisible_of_resolve (proper : registry.Proper)
    (settled : ∀ money ∈ booking.moneys, money.Settled registry 28)
    (fits : ∀ money ∈ booking.moneys, money.FitsCurrency registry)
    (failed : booking.resolve registry = .error failure) :
    failure.IsFault ∨ booking.IsIndivisible registry ∧ Money.IsOfDivision failure := by
  rcases resolve_eq_error failed with ⟨refusal, cause, placed⟩
  obtain fault | rfl : failure.IsFault ∨ failure = refusal := by
    rw [placed]
    cases booking.line with
    | none => exact Or.inr rfl
    | some line => exact Failure.placedAt_cases refusal line 1
  · exact Or.inl fault
  · rcases cause with unsplit | ⟨carried, split_off, uninferred⟩
    · exact unsplit.isFault_or_isIndivisible proper settled fits
    · exact Or.inl (uninferred.isFault (settled_of_resolveSplit proper settled split_off))

/-- The amounts of a written booking are settled. -/
theorem Written.moneys (written : booking.Written registry) :
    ∀ money ∈ booking.moneys, money.Settled registry 28 := by
  intro money member
  rcases mem_moneys member with ⟨posting, among, found⟩
  exact written.settled among found

/-! ## Dates -/

theorem onItsDate_eq_error {date : Calendar.Date} (failed : booking.onItsDate date = .error failure) :
    date.shift? booking.dateOffset = none ∧ failure = .dateRange := by
  unfold onItsDate at failed
  split at failed
  · cases failed
  · split at failed
    · cases failed
    · rename_i outside
      exact ⟨outside, (Except.error.inj failed).symm⟩

end Booking

/-- Resolving bookings fails on one of them, which is refused or leaves the calendar. -/
theorem Chapter.exists_of_resolveEntries {registry : Registry}
    {entries : List (Calendar.Date × Booking)} {failure : Failure}
    (failed : resolveEntries registry entries = .error failure) :
    ∃ entry ∈ entries, entry.2.resolve registry = .error failure ∨
      entry.1.shift? entry.2.dateOffset = none ∧ failure = .dateRange := by
  induction entries with
  | nil => cases failed
  | cons entry rest ih =>
      rcases Outcome.bind_eq_error.mp failed with refused | ⟨resolved, settled, failed⟩
      · exact ⟨entry, List.mem_cons_self, Or.inl refused⟩
      · rcases Outcome.bind_eq_error.mp failed with refused | ⟨chapter, -, failed⟩
        · have outside := Booking.onItsDate_eq_error refused
          rw [Booking.dateOffset_of_resolve settled] at outside
          exact ⟨entry, List.mem_cons_self, Or.inr outside⟩
        · rcases Outcome.bind_eq_error.mp failed with refused | ⟨others, -, done⟩
          · rcases ih refused with ⟨other, among, cause⟩
            exact ⟨other, List.mem_cons_of_mem entry among, cause⟩
          · cases done

/-! ## Loading -/

namespace Snapshot

open Calendar

/-- Why a text is not loaded: it is not read, or a booking is refused or moved out of the
calendar.  Once its bookings are resolved, nothing else stops it. -/
inductive Unloaded (text : Text) (today : Option Date) (strict : Bool) : Failure → Prop
  | unread {failure : Failure} (refused : Reading.ofText text today {} strict = .error failure) :
      Unloaded text today strict failure
  | unresolved {reading : Reading} {booking : Booking} {failure : Failure}
      (read : Reading.ofText text today {} strict = .ok reading)
      (booked : booking ∈ reading.bookings)
      (refused : booking.resolve reading.registry = .error failure) :
      Unloaded text today strict failure
  | unmoved {reading : Reading} {date : Date} {booking : Booking}
      (read : Reading.ofText text today {} strict = .ok reading)
      (entered : (date, booking) ∈ Chapter.entries reading.chapters)
      (outside : date.shift? booking.dateOffset = none) : Unloaded text today strict .dateRange

theorem unloaded_of_load {text : Text} {today : Option Date} {strict : Bool} {failure : Failure}
    (failed : load text today strict = .error failure) : Unloaded text today strict failure := by
  rcases Outcome.bind_eq_error.mp failed with refused | ⟨reading, read, failed⟩
  · exact .unread refused
  · have proper := Reading.proper_of_ofText read
    rcases Outcome.bind_eq_error.mp failed with refused | ⟨chapters, resolved, failed⟩
    · rcases Chapter.exists_of_resolveEntries refused with ⟨entry, inside, refused | ⟨outside, rfl⟩⟩
      · exact .unresolved read (Reading.mem_bookings inside) refused
      · exact .unmoved read inside outside
    · rcases exists_ofChapters proper.registry (proper.settled resolved) with ⟨made, same, -⟩
      rw [same] at failed
      cases failed

/-- How a text stops loading without a fault of the ledger: it stops reading, a booking is split
evenly in a currency whose amounts cannot be divided, or a booking is moved out of the calendar. -/
inductive Stops (text : Text) (today : Option Date) (strict : Bool) : Failure → Prop
  | reading {failure : Failure} (stops : Reading.Stops text today strict failure) :
      Stops text today strict failure
  | share {reading : Reading} {booking : Booking} (read : Reading.ofText text today {} strict = .ok reading)
      (booked : booking ∈ reading.bookings) (indivisible : booking.IsIndivisible reading.registry)
      {failure : Failure} (division : Money.IsOfDivision failure) : Stops text today strict failure
  | moved {reading : Reading} {date : Date} {booking : Booking}
      (read : Reading.ofText text today {} strict = .ok reading)
      (entered : (date, booking) ∈ Chapter.entries reading.chapters)
      (outside : date.shift? booking.dateOffset = none) : Stops text today strict .dateRange

/-- Loading gives a ledger, names a fault of the text, or stops in one of the known ways. -/
theorem load_outcomes (text : Text) (today : Option Date) (strict : Bool) :
    (∃ snapshot, load text today strict = .ok snapshot) ∨
      (∃ fault, load text today strict = .error (.ledger fault)) ∨
        ∃ failure, load text today strict = .error failure ∧ Stops text today strict failure := by
  cases result : load text today strict with
  | ok snapshot => exact Or.inl ⟨snapshot, rfl⟩
  | error failure =>
      right
      suffices cause : failure.IsFault ∨ Stops text today strict failure by
        rcases cause with ⟨fault, rfl⟩ | stops
        · exact Or.inl ⟨fault, rfl⟩
        · exact Or.inr ⟨failure, rfl, stops⟩
      cases unloaded_of_load result with
      | unread refused => exact (Reading.ofText_eq_error refused).imp_right .reading
      | @unresolved reading booking _ read booked refused =>
          have proper := Reading.proper_of_ofText read
          have fits : ∀ money ∈ booking.moneys, money.FitsCurrency reading.registry :=
            fun money listed => (Reading.checked_of_ofText read booking booked money listed).elim
              fun _ => Money.fits_of_checkPrecision proper.registry
          rcases Booking.isFault_or_isIndivisible_of_resolve proper.registry
              (proper.bookings booking booked).moneys fits refused with fault | ⟨indivisible, division⟩
          · exact Or.inl fault
          · exact Or.inr (.share read booked indivisible division)
      | unmoved read entered outside => exact Or.inr (.moved read entered outside)

/-- The known ways occur: a tag that leads out of the calendar, the day after its last one, a
digit that is no decimal one, an amount with a digit too many, and an even split in a currency
whose smallest amount is rounded to nothing. -/
theorem load_stops_without_fault :
    load "2024-01-05\nx #[date(4000000)]\n    a  $1\n    b\n".toList none false = .error .dateRange ∧
      load "tomorrow\nx\n    a  $1\n    b\n".toList (some ⟨9999, 12, 31, by decide⟩) false =
        .error .dateRange ∧
      load "currency\n    $ ²\n".toList none false = .error (.integer (.malformed "²".toList)) ∧
      load "2024-01-05\nx\n    a  $10000000000000000000000000000\n    b\n".toList none false =
        .error (.arithmetic .invalidOperation) ∧
      load "currency\n    $ 1000027\n\n2024-01-05\nx #[split(@bob)]\n    a  $0\n    b\n".toList none false =
        .error (.arithmetic .invalidOperation) := by
  refine ⟨?_, ?_, ?_, ?_, ?_⟩
  · decide +kernel
  · decide +kernel
  · decide +kernel
  · decide +kernel
  · decide +kernel

end Snapshot
end Daybook
