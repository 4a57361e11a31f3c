import Daybook.Proofs.Ledger.Accounts
import Daybook.Proofs.Ledger.Journal
import Daybook.Proofs.Ledger.Register

namespace Daybook
namespace Journal

/-!
# A ledger closes

Every booking that gets into a store was checked to balance, or had the missing amount
inferred.  If the amounts that were ever present add up exactly, the check is exact, and
so are the balances that are kept of the bookings; hence the balances of all accounts add
up to zero, whatever was entered, taken out and gone back to.  The register adds up the
same bookings in another order and comes out at zero as well.
-/

/-- A store closes.  Take any store that calls lead to from a loaded ledger or from an empty
one, whatever the labels of the bookings.  If, for each currency, all amounts ever present
lie on the grid of a unit that rounding reaches and their absolute values add up to less
than the digits hold, then in every currency the balances of all accounts add up to zero,
and the register of all movements can be listed, with exact totals in every row and zeros in
the last. -/
theorem Grown.closes {journal : Journal} (grown : journal.Grown)
    (adds : AddsExactly (Booking.movements journal.present)) :
    (∀ currency, Money.totalIn currency
        (journal.now.snapshot.accounts.flatMap journal.now.snapshot.balance) = 0) ∧
      ∃ rows, journal.now.snapshot.register none none = .ok rows ∧
        Row.Lists rows (Movement.ofChapters journal.now.snapshot.chapters) ∧
        ∀ money ∈ Row.closing rows, money.amount.value = 0 := by
  have sound := grown.sound journal.now List.mem_cons_self
  have closed := sound.closed adds
  constructor
  · intro currency
    have balances := @Snapshot.totalIn_balances _ _ currency sound.counts sound.listed.balances
      (sound.adds_up adds) fun _ => true
    rw [List.filter_true, List.filter_true] at balances
    rw [balances, Booking.movements, List.map_flatMap]
    refine Money.totalIn_flatMap_eq_zero fun booking member => ?_
    rw [Booking.map_snd_movements]
    exact closed booking member currency
  · have inside := sound.within.subset
    apply Snapshot.register_closes
    · exact adds.subperm (Booking.movements_subperm (sound.within.trans sound.covered))
    · exact fun booking member => sound.summed booking (inside member)
    · exact fun booking member => closed booking (inside member)

/-! ## Two runs -/

/-- A number of units of ten to a power, moved from one account to another. -/
def move (label source target : Char) (coefficient : Nat) (unit : Int) : Booking where
  description := "move".toList
  postings := [
    { account := ⟨[target]⟩, money := some ⟨"X".toList, ⟨false, coefficient, unit⟩⟩ },
    { account := ⟨[source]⟩, money := some ⟨"X".toList, ⟨true, coefficient, unit⟩⟩ }]
  label := [label]

/-- Two bookings entered into an empty store. -/
def afterMoves (unit : Int) : Journal :=
  ((start {}).call (.add ⟨2024, 1, 1, Store.isDate_new_year⟩ (move 'f' 'c' 'a' 7 unit))).call
    (.add ⟨2024, 1, 2, Store.isDate_after_new_year⟩ (move 'g' 'b' 'a' 5 unit))

theorem grown_afterMoves (unit : Int) : (afterMoves unit).Grown :=
  ((Grown.empty {}).step _).step _

theorem closes_after_moves :
    (afterMoves (-2)).now.snapshot.entries.length = 2 ∧
      (∀ currency, Money.totalIn currency
        ((afterMoves (-2)).now.snapshot.accounts.flatMap (afterMoves (-2)).now.snapshot.balance) = 0) ∧
      ∃ rows, (afterMoves (-2)).now.snapshot.register none none = .ok rows ∧
        Row.Lists rows (Movement.ofChapters (afterMoves (-2)).now.snapshot.chapters) ∧
        ∀ money ∈ Row.closing rows, money.amount.value = 0 := by
  refine ⟨by decide +kernel, (grown_afterMoves (-2)).closes fun currency => ?_⟩
  refine ⟨-2, by decide, FitsDigits.of_coefficients ?_ ?_⟩
  · decide +kernel
  · decide +kernel

/-- Below the smallest unit that rounding reaches the balances are left with what rounding
made of each of them. -/
theorem balances_left_over_on_tiny_amounts :
    (afterMoves (-1000027)).Grown ∧
      (∀ currency, ∃ unit,
        FitsDigits unit currency (Booking.movements (afterMoves (-1000027)).present)) ∧
      Money.totalIn "X".toList ((afterMoves (-1000027)).now.snapshot.accounts.flatMap
        (afterMoves (-1000027)).now.snapshot.balance) = 10 ^ (-1000026 : Int) := by
  refine ⟨grown_afterMoves _, ?_, ?_⟩
  · intro currency
    refine ⟨-1000027, FitsDigits.of_coefficients ?_ ?_⟩
    · decide +kernel
    · decide +kernel
  · have balances : (((afterMoves (-1000027)).now.snapshot.balances.keys ++
        (afterMoves (-1000027)).now.snapshot.opened).eraseDups).flatMap
          (afterMoves (-1000027)).now.snapshot.balance =
            [⟨"X".toList, ⟨false, 2, -1000026⟩⟩, ⟨"X".toList, ⟨true, 1, -1000026⟩⟩,
              ⟨"X".toList, ⟨true, 0, -1000026⟩⟩] := by
      decide +kernel
    rw [Money.totalIn_perm ((afterMoves (-1000027)).now.snapshot.accounts_perm.flatMap_right _),
      balances, Money.totalIn_cons ⟨_, _⟩ [_, _], Money.totalIn_cons ⟨_, ⟨true, 1, _⟩⟩ [_],
      Money.totalIn_singleton, Money.totalIn_singleton, Money.totalIn_singleton]
    simp only [if_true, Decimal.value_signed]
    generalize (10 : Rat) ^ (-1000026 : Int) = unit
    norm_num
    ring

end Journal
end Daybook
