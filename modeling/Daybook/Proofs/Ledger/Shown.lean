import Daybook.Proofs.Ledger.Balanced

namespace Daybook

/-!
# Loaded amounts are shown as they are

An amount of a loaded ledger was written, is a share of a split, or was inferred.  Written
amounts are checked, but against the currencies at the end, shares are cut off and topped
up, and inferred amounts are sums; all of this rounds to a number of digits.  None of it
leaves the decimal places that the currency shows.  So printing an amount, which rounds to
these places, has nothing to round.
-/

namespace Money

/-- Whether a text shows a value in a currency: the digits under the sign and next to the
designator are those of the value. -/
def Shows (currency : Currency) (value : Rat) (text : Text) : Prop :=
  ∃ (negative : Bool) (number : Text) (read : Decimal),
    text = dress currency.style negative currency.designator number ∧
      Decimal.ofDigits? negative 0 number = some read ∧ read.value = value

/-- The digits of a printed number are those of its value. -/
theorem shows_textOf {currency : Currency} {unit : Int} {shown : Decimal}
    (printed : IsPrinted unit shown) : Shows currency shown.value (textOf currency shown) := by
  have places : -(((-shown.exponent).toNat : Nat) : Int) = shown.exponent := by
    have := printed.exponent ▸ printed.most
    omega
  have read := Decimal.ofDigits?_positional shown.negative (-shown.exponent).toNat shown.coefficient
  rw [places] at read
  exact ⟨shown.negative, _, shown, rfl, read, rfl⟩

/-- What is printed of an amount on the grid of its currency shows its value. -/
theorem shows_of_format {registry : Registry} {money : Money} {text : Text}
    (positive : 0 ≤ (registry.currencyFor money.currency).precision)
    (grid : money.OnCurrencyGrid registry) (ok : money.format registry = .ok text) :
    Shows (registry.currencyFor money.currency) money.amount.value text := by
  rcases exists_isPrinted positive grid ok with ⟨unit, shown, -, printed, value, rfl⟩
  rw [← value]
  exact shows_textOf printed

/-- The grid of a unit lies in the grid of the places that the currency shows.  The unit
is coarser than the last place where that place is below the smallest power of ten. -/
theorem OnCurrencyGrid.onGrid {registry : Registry} {money : Money} (grid : money.OnCurrencyGrid registry)
    (measured : money.Measured registry) :
    Decimal.OnGrid (-(registry.currencyFor money.currency).precision) money.amount.value := by
  rcases measured with ⟨unit, smallest⟩
  exact (grid unit smallest).finer (neg_le_of_unitExponent smallest)

end Money

namespace Snapshot

variable {text : Text} {today : Option Calendar.Date} {strict : Bool} {snapshot : Snapshot}

/-- Every posting of a loaded ledger has an amount in a known currency and with no more
decimals than this currency shows; whenever the amount is printed, the printed number is
equal to it. -/
theorem amounts_show_unrounded (loaded : load text today strict = .ok snapshot) :
    ∀ booking ∈ Chapter.bookingsOf snapshot.chapters, ∀ posting ∈ booking.postings,
      ∃ money currency, posting.money = some money ∧
        snapshot.registry.currencies.get? money.currency = some currency ∧
        Decimal.OnGrid (-currency.precision) money.amount.value ∧
        ∀ shown, money.format snapshot.registry = .ok shown →
          Money.Shows currency money.amount.value shown := by
  intro booking member posting inside
  have settled := settled_of_load loaded
  rcases (settled.bookings booking member).complete posting inside with ⟨money, given⟩
  have known := (settled.bookings booking member).settled posting inside money given
  have measured := measured_of_load loaded member money (Booking.mem_moneys_of_posting inside given)
  rcases Option.isSome_iff_exists.mp known.known with ⟨currency, found⟩
  have same : snapshot.registry.currencyFor money.currency = currency := by
    rw [Registry.currencyFor, found, Option.getD_some]
  have positive := settled.registry.precision_currencyFor money.currency
  refine ⟨money, currency, given, found, same ▸ known.onCurrencyGrid.onGrid measured, ?_⟩
  intro shown ok
  exact same ▸ Money.shows_of_format positive known.onCurrencyGrid ok

/-- The written, the shared and the inferred amounts of the supper and the taxi. -/
theorem supper_shows_unrounded :
    load supperText none false = .ok (loadedFrom supperText false) ∧
      ∀ booking ∈ Chapter.bookingsOf (loadedFrom supperText false).chapters,
        ∀ posting ∈ booking.postings, ∃ money currency, posting.money = some money ∧
          (loadedFrom supperText false).registry.currencies.get? money.currency = some currency ∧
          Decimal.OnGrid (-currency.precision) money.amount.value ∧
          ∀ shown, money.format (loadedFrom supperText false).registry = .ok shown →
            Money.Shows currency money.amount.value shown := by
  have loaded : load supperText none false = .ok (loadedFrom supperText false) := by decide +kernel
  exact ⟨loaded, amounts_show_unrounded loaded⟩

end Snapshot
end Daybook
