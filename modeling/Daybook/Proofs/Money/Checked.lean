import Daybook.Proofs.Money
import Daybook.Proofs.Money.Printed

namespace Daybook

/-!
# The check of the decimals

An amount is checked after its sign has been applied, and applying a minus rounds the number
to the digits that are kept, while a number without a sign is kept as it was written.  What
passes the check fits the unit of its currency, and a number on the grid of that unit goes
through the minus unchanged.  So the check sees every digit of a number without a sign; behind
a minus it sees the digits that are left, and lets a number through whose digits beyond them
are lost.
-/

namespace Decimal

/-- A number that fits a unit is quantized to it without a change. -/
theorem exists_quantize {d : Decimal} {unit : Int} (least : ledger.tiniest ≤ unit) (most : unit ≤ 0)
    (fits : Fits unit d.value) :
    ∃ shown, d.quantize .halfEven unit = .ok shown ∧ shown.value = d.value := by
  have power : (0 : Rat) < 10 ^ unit := by positivity
  cases quantized : d.quantize .halfEven unit with
  | ok shown => exact ⟨shown, rfl, value_quantize fits.1 quantized⟩
  | error signal =>
      have large := (quantize_eq_error least most quantized).2
      have full : OnGrid unit ((10 : Rat) ^ (unit + ledger.digits)) :=
        onGrid_power (by have : ledger.digits = 28 := rfl; omega)
      exact absurd fits.2 (not_lt.mpr (full.le_of_lt_add fits.1.abs (by linarith)))

/-- A minus is exact for the numbers on the grid of a unit that the result fits, and for no
others. -/
theorem value_of_neg_iff {a opposite : Decimal} {unit : Int} (least : ledger.tiniest ≤ unit)
    (ok : a.neg = .ok opposite) (fits : Fits unit opposite.value) :
    opposite.value = -a.value ↔ OnGrid unit a.value := by
  constructor
  · intro exact_opposite
    rw [← neg_neg a.value, ← exact_opposite]
    exact fits.1.neg
  · intro grid
    have negated := grid.neg
    rw [← value_negated] at negated ⊢
    exact (round_exact_or_large least negated ok).resolve_right fun large =>
      absurd fits.2 (not_lt.mpr large.2)

end Decimal

namespace Money

open Decimal

variable {registry : Registry} {money : Money}

/-- Whether an amount is a whole number of the units of its currency that the digits hold. -/
def FitsCurrency (registry : Registry) (money : Money) : Prop :=
  ∃ unit, unitExponent (registry.currencyFor money.currency).precision = .ok unit ∧
    Fits unit money.amount.value

/-- An amount that passed the check of its decimals fits the unit of its currency. -/
theorem fits_of_checkPrecision {checked : Money} (proper : registry.Proper)
    (ok : money.checkPrecision registry = .ok checked) : money.FitsCurrency registry := by
  unfold checkPrecision at ok
  rcases Outcome.bind_eq_ok.mp ok with ⟨unit, smallest, ok⟩
  rcases Outcome.bind_eq_ok.mp ok with ⟨shown, quantized, ok⟩
  rw [Outcome.ofNumbers_eq_ok] at quantized
  split at ok
  · rename_i same
    have most := (unitExponent_eq_ok (proper.precision_currencyFor money.currency) smallest).2
    refine ⟨unit, smallest, ?_⟩
    rw [(same_iff _ _).mp same]
    exact (isShown_of_quantize most quantized).fits
  · cases ok

theorem FitsCurrency.neg {opposite : Money} (proper : registry.Proper)
    (fits : money.FitsCurrency registry) (negated : money.neg = .ok opposite) :
    opposite.FitsCurrency registry := by
  rcases fits with ⟨unit, smallest, fits⟩
  rcases Money.neg_eq_ok.mp negated with ⟨amount, turned, rfl⟩
  have least := (unitExponent_eq_ok (proper.precision_currencyFor money.currency) smallest).1
  refine ⟨unit, smallest, ?_⟩
  rw [value_of_neg least fits turned]
  exact fits.neg

/-- The check lets the amounts through that fit the unit of their currency. -/
theorem checkPrecision_eq_ok_iff (proper : registry.Proper) :
    money.checkPrecision registry = .ok money ↔ money.FitsCurrency registry := by
  constructor
  · exact fits_of_checkPrecision proper
  · rintro ⟨unit, smallest, fits⟩
    rcases unitExponent_eq_ok (proper.precision_currencyFor money.currency) smallest with ⟨least, most⟩
    rcases exists_quantize least most fits with ⟨shown, quantized, same⟩
    refine Outcome.bind_eq_ok.mpr ⟨unit, smallest, ?_⟩
    refine Outcome.bind_eq_ok.mpr ⟨shown, Outcome.ofNumbers_eq_ok.mpr quantized, ?_⟩
    rw [if_pos ((same_iff _ _).mpr same.symm)]

/-- An amount with a minus that passes the check is exact if and only if the number under the
minus is on the grid of its currency, and then the number passes as well. -/
theorem exact_neg_iff (proper : registry.Proper) {number : Decimal} (negated : number.neg = .ok money.amount)
    (fits : money.FitsCurrency registry) :
    (money.amount.value = -number.value ↔ OnCurrencyGrid registry ⟨money.currency, number⟩) ∧
      (OnCurrencyGrid registry ⟨money.currency, number⟩ ↔
        FitsCurrency registry ⟨money.currency, number⟩) := by
  rcases fits with ⟨unit, smallest, fits⟩
  have least := (unitExponent_eq_ok (proper.precision_currencyFor money.currency) smallest).1
  have exactly := value_of_neg_iff least negated fits
  have grid : OnCurrencyGrid registry ⟨money.currency, number⟩ ↔ OnGrid unit number.value := by
    constructor
    · exact fun grid => grid unit smallest
    · intro grid other also
      rcases Except.ok.inj (smallest.symm.trans also) with rfl
      exact grid
  rw [grid]
  refine ⟨exactly, fun grid => ?_, ?_⟩
  · refine ⟨unit, smallest, ?_⟩
    rw [← neg_neg number.value, ← exactly.mpr grid]
    exact fits.neg
  · rintro ⟨other, also, number_fits⟩
    rcases Except.ok.inj (smallest.symm.trans also) with rfl
    exact number_fits.1

/-- A number that fits the unit of its currency passes the check with a minus as well. -/
theorem exists_opposite (proper : registry.Proper) {currency : Text} {number : Decimal}
    (fits : FitsCurrency registry ⟨currency, number⟩) :
    ∃ opposite, number.neg = .ok opposite ∧ opposite.value = -number.value ∧
      checkPrecision ⟨currency, opposite⟩ registry = .ok ⟨currency, opposite⟩ := by
  have through := (checkPrecision_eq_ok_iff proper).mpr fits
  rcases neg_within (by decide) (by decide) (checkPrecision_eq_ok proper through).2 with
    ⟨opposite, negated, -⟩
  have turned := fits.neg proper (Money.neg_of_amount negated)
  refine ⟨opposite, negated, ?_, (checkPrecision_eq_ok_iff proper).mpr turned⟩
  rcases fits with ⟨unit, smallest, fits⟩
  exact value_of_neg (unitExponent_eq_ok (proper.precision_currencyFor currency) smallest).1 fits negated

end Money
end Daybook
