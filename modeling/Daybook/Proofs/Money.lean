import Daybook.Money.Basic
import Daybook.Proofs.Decimal.Arithmetic
import Daybook.Proofs.Outcome

namespace Daybook
namespace Money

/-!
# Sums and opposites of amounts of money

Adding money adds amounts of one currency.  The value of the result is that of the
numbers; the currency never changes, and the only other way to fail is a number
that grows too large.
-/

theorem add_eq_ok {left right sum : Money} :
    left.add right = .ok sum ↔ left.currency = right.currency ∧
      ∃ amount, left.amount.add right.amount = .ok amount ∧ sum = ⟨left.currency, amount⟩ := by
  unfold add combine
  by_cases same : left.currency = right.currency
  · rw [if_pos same, Outcome.map_eq_ok]
    simp only [Outcome.ofNumbers_eq_ok, same, true_and, @eq_comm _ sum]
  · simp [same]

theorem neg_eq_ok {money opposite : Money} :
    money.neg = .ok opposite ↔
      ∃ amount, money.amount.neg = .ok amount ∧ opposite = ⟨money.currency, amount⟩ := by
  unfold neg
  rw [Outcome.map_eq_ok]
  simp only [Outcome.ofNumbers_eq_ok, @eq_comm _ opposite]

/-- Adding amounts of one currency fails on numbers that grow too large only. -/
theorem overflow_of_add_error {left right : Money} {failure : Failure}
    (same : left.currency = right.currency) (failed : left.add right = .error failure) :
    failure = .arithmetic .overflow := by
  unfold add combine at failed
  rw [if_pos same, Outcome.map_eq_error, Outcome.ofNumbers_eq_error] at failed
  rcases failed with ⟨signal, failed, rfl⟩
  rw [Decimal.overflow_of_add_error failed]

theorem add_of_amounts {left right : Money} {amount : Decimal}
    (same : left.currency = right.currency) (ok : left.amount.add right.amount = .ok amount) :
    left.add right = .ok ⟨left.currency, amount⟩ :=
  add_eq_ok.mpr ⟨same, amount, ok, rfl⟩

theorem neg_of_amount {money : Money} {amount : Decimal} (ok : money.amount.neg = .ok amount) :
    money.neg = .ok ⟨money.currency, amount⟩ :=
  neg_eq_ok.mpr ⟨amount, ok, rfl⟩

end Money
end Daybook
