import Daybook.Booking.Resolution
import Daybook.Proofs.Ledger.Bounded
import Mathlib.Data.List.Forall2

namespace Daybook
namespace Booking

/-!
# Balanced bookings

A booking without a missing amount is accepted exactly when it is balanced, and
whether it is balanced depends only on the values of its amounts.  The amounts may be
written with other exponents; sums of equal values are rounded to equal values.
-/

theorem validate_eq_ok_iff {booking : Booking} (complete : booking.blankPostings = []) :
    booking.validate = .ok () ↔ booking.isBalanced = .ok true := by
  unfold validate isBalanced
  rw [complete]
  cases booking.imbalance with
  | error failure =>
      constructor
      · intro ok
        cases ok
      · intro ok
        cases ok
  | ok totals =>
      dsimp only [bind, Except.bind]
      rw [if_pos List.isEmpty_nil, Except.map, Except.ok.injEq, List.all_eq_true]
      constructor
      · intro ok
        split at ok
        · cases ok
        · rename_i nothing
          intro entry member
          simpa using List.find?_eq_none.mp nothing entry member
      · intro zero
        split
        · rename_i currency total found
          have nonzero := List.find?_some found
          rw [zero _ (List.mem_of_find?_eq_some found)] at nonzero
          cases nonzero
        · rfl

/-- A booking with nothing to carry out or to infer is resolved exactly when it is
balanced, and stays as it is. -/
theorem resolve_eq_ok_iff {booking resolved : Booking} (registry : Registry)
    (no_split : booking.split = none) (complete : booking.blankPostings = []) :
    booking.resolve registry = .ok resolved ↔ booking.isBalanced = .ok true ∧ resolved = booking := by
  have carried : booking.resolveSplit registry = .ok booking := by rw [resolveSplit, no_split]
  have inferred : booking.infer = booking.validate.map fun _ => booking := by rw [infer, complete]
  rw [← validate_eq_ok_iff complete, resolve, carried]
  dsimp only [Except.bind]
  rw [inferred]
  cases booking.validate with
  | ok accepted =>
      constructor
      · intro ok
        exact ⟨rfl, (Except.ok.inj ok).symm⟩
      · rintro ⟨-, rfl⟩
        rfl
  | error failure =>
      constructor
      · intro ok
        cases line : booking.line with
        | none =>
            rw [line] at ok
            cases ok
        | some number =>
            rw [line] at ok
            cases ok
      · rintro ⟨⟨⟩, -⟩

/-! ## Equal values -/

/-- Whether two amounts have one currency and one value, which is not too large. -/
structure SameMoney (left right : Money) : Prop where
  currency : left.currency = right.currency
  value : left.amount.value = right.amount.value
  within : Decimal.Within amountPower left.amount

/-- Whether two entries of totals are for one currency and have one value, which is
not too large. -/
structure SameTotal (left right : Text × Decimal) : Prop where
  currency : left.1 = right.1
  value : left.2.value = right.2.value
  within : Decimal.Within totalPower left.2

theorem SameTotal.isZero_eq {left right : Text × Decimal} (same : SameTotal left right) :
    left.2.isZero = right.2.isZero := by
  rw [Bool.eq_iff_iff, Decimal.isZero_iff, Decimal.isZero_iff, same.value]

variable {left right : Table Text Decimal}

theorem get?_of_sameTotal (same : List.Forall₂ SameTotal left right) (currency : Text) :
    SameTotal (currency, (left.get? currency).getD .zero) (currency, (right.get? currency).getD .zero) := by
  induction same with
  | nil => exact ⟨rfl, rfl, Decimal.within_zero _⟩
  | @cons one other _ _ here later ih =>
      rcases one with ⟨key, total⟩
      rcases other with ⟨key', total'⟩
      obtain rfl : key = key' := here.currency
      rw [Table.get?, Table.get?]
      split
      · exact ⟨rfl, here.value, here.within⟩
      · exact ih

theorem put_of_sameTotal (same : List.Forall₂ SameTotal left right) {currency : Text}
    {total total' : Decimal} (both : SameTotal (currency, total) (currency, total')) :
    List.Forall₂ SameTotal (left.put currency total) (right.put currency total') := by
  induction same with
  | nil => exact List.Forall₂.cons both List.Forall₂.nil
  | @cons one other _ _ here later ih =>
      rcases one with ⟨key, old⟩
      rcases other with ⟨key', old'⟩
      obtain rfl : key = key' := here.currency
      rw [Table.put, Table.put]
      split
      · exact List.Forall₂.cons ⟨rfl, both.value, both.within⟩ later
      · exact List.Forall₂.cons here ih

/-- Totals of amounts with equal values have equal values. -/
theorem addTotals_of_sameMoney (same : List.Forall₂ SameTotal left right) {moneys others : List Money}
    (each : List.Forall₂ SameMoney moneys others) :
    ∃ result result', addTotals left moneys = .ok result ∧ addTotals right others = .ok result' ∧
      List.Forall₂ SameTotal result result' := by
  induction each generalizing left right with
  | nil => exact ⟨left, right, rfl, rfl, same⟩
  | @cons money other _ _ here later ih =>
      have current := get?_of_sameTotal same money.currency
      have amount_within : Decimal.Within (totalPower - Decimal.margin) money.amount := by
        rw [totalPower, add_sub_cancel_right]
        exact here.within
      have other_within := amount_within
      have current_within := current.within
      rw [Decimal.Within, here.value, ← Decimal.Within] at other_within
      rw [Decimal.Within, current.value, ← Decimal.Within] at current_within
      obtain ⟨sum, added, within⟩ := Decimal.add_within (by decide) (by decide) current.within amount_within
      obtain ⟨sum', added', -⟩ := Decimal.add_within (by decide) (by decide) current_within other_within
      have both : SameTotal (money.currency, sum) (money.currency, sum') :=
        ⟨rfl, Decimal.add_value_congr current.value here.value added added', within⟩
      rcases ih (put_of_sameTotal same both) with ⟨result, result', first, second, related⟩
      refine ⟨result, result', ?_, ?_, related⟩
      · rw [addTotals, added]
        exact first
      · rw [addTotals, ← here.currency, added']
        exact second

/-- Whether a booking is balanced depends on the values of its amounts. -/
theorem isBalanced_of_sameMoney {one other : Booking} (complete : one.blankPostings = [])
    (complete' : other.blankPostings = []) (same : List.Forall₂ SameMoney one.moneys other.moneys) :
    one.isBalanced = other.isBalanced := by
  rcases addTotals_of_sameMoney List.Forall₂.nil same with ⟨totals, totals', first, second, related⟩
  have zero : (totals.all fun entry => entry.2.isZero) = totals'.all fun entry => entry.2.isZero := by
    clear first second
    induction related with
    | nil => rfl
    | cons here later ih =>
        rw [List.all_cons, List.all_cons, ih, here.isZero_eq]
  rw [isBalanced, isBalanced, complete, complete', imbalance, imbalance, first, second]
  exact congrArg Except.ok zero

end Booking
end Daybook
