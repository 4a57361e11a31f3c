import Daybook.Proofs.Booking.Exact
import Daybook.Proofs.Decimal.Amounts

namespace Daybook
namespace Booking

/-!
# What a booking leaves over

To inference, a booking with amounts of one currency is a number: the units of the currency
that its amounts leave over.  Without a posting that waits for an amount the number has to
be zero.  One posting that waits takes the opposite number and the booking comes out
balanced.  Where several wait, the number does not say what each of them takes.

The number that counts here is the exact one, so it is part of the assumption that the
program finds it, that is, that no sum on the way to it is rounded.
-/

open Decimal

/-- Whether the amounts of a booking, all of one currency, leave so many units over, and the
program adds them up to as many. -/
structure LeavesOver (unit n : Int) (currency : Text) (booking : Booking) : Prop where
  found : ∃ left, booking.imbalance = .ok [(currency, left)] ∧ Amounts unit n left
  exactly : ∀ other, booking.exactTotal other = if currency = other then (n : Rat) * 10 ^ unit else 0

/-- Whether nothing is left to be done for a booking: its split was carried out, every posting has
an amount, and the amounts add up to exactly nothing. -/
structure IsDone (booking : Booking) : Prop where
  split : booking.split = none
  complete : booking.blankPostings = []
  balanced : ∀ currency, booking.exactTotal currency = 0

variable {booking : Booking} {currency : Text} {unit n : Int} {limit : Nat}

/-! ## No posting waits -/

theorem infer_of_complete (complete : booking.blankPostings = []) :
    booking.infer = booking.validate.map fun _ => booking := by
  rw [infer, complete]

theorem validate_of_imbalance {left : Decimal} (found : booking.imbalance = .ok [(currency, left)]) :
    booking.validate =
      if left.isZero then .ok ()
      else .error (booking.faultOf (.unbalanced booking.description left currency)) := by
  unfold validate
  rw [found]
  dsimp only [bind, Except.bind]
  rw [List.find?_cons]
  cases left.isZero with
  | true => rfl
  | false => rfl

/-- A booking that leaves nothing over is balanced. -/
theorem LeavesOver.infer_nothing (leaves : booking.LeavesOver unit 0 currency)
    (complete : booking.blankPostings = []) : booking.infer = .ok booking := by
  rcases leaves.found with ⟨left, found, amounts⟩
  rw [infer_of_complete complete, validate_of_imbalance found, if_pos (amounts.isZero_iff.mpr rfl)]
  rfl

/-- What is left over is refused when there is no posting to take it. -/
theorem LeavesOver.infer_rest (leaves : booking.LeavesOver unit n currency)
    (complete : booking.blankPostings = []) (some_units : n ≠ 0) :
    ∃ left, booking.infer =
        .error (booking.faultOf (.unbalanced booking.description left currency)) ∧
      Amounts unit n left := by
  rcases leaves.found with ⟨left, found, amounts⟩
  refine ⟨left, ?_, amounts⟩
  rw [infer_of_complete complete, validate_of_imbalance found,
    if_neg fun zero => some_units (amounts.isZero_iff.mp zero)]
  rfl

theorem LeavesOver.isDone (leaves : booking.LeavesOver unit 0 currency) (split : booking.split = none)
    (complete : booking.blankPostings = []) : booking.IsDone where
  split := split
  complete := complete
  balanced := by
    intro other
    rw [leaves.exactly, Int.cast_zero, zero_mul, ite_self]

/-! ## One posting waits -/

theorem exists_balancing (holds : Holds unit limit) {total : Decimal} (amounts : Amounts unit n total)
    (few : n.natAbs ≤ limit) : ∃ amount, balancing total = .ok amount ∧ Amounts unit (-n) amount := by
  unfold balancing
  by_cases zero : total.isZero = true
  · rw [if_pos zero, amounts.isZero_iff.mp zero]
    exact ⟨.zero, rfl, Amounts.zero unit⟩
  · rw [if_neg zero]
    exact amounts.neg holds few

/-- The one posting that waits takes the opposite of what is left over. -/
theorem LeavesOver.infer_single (leaves : booking.LeavesOver unit n currency) {blank : Posting}
    (one_blank : booking.blankPostings = [blank]) (holds : Holds unit limit) (few : n.natAbs ≤ limit) :
    ∃ amount, booking.infer =
        .ok { booking with postings := fillBlanks ⟨currency, amount⟩ booking.postings } ∧
      Amounts unit (-n) amount := by
  rcases leaves.found with ⟨left, found, amounts⟩
  rcases exists_balancing holds amounts few with ⟨amount, balanced, opposite⟩
  refine ⟨amount, ?_, opposite⟩
  rw [infer, one_blank, found]
  change (Outcome.ofNumbers (balancing left)).bind _ = _
  rw [balanced]
  rfl

theorem blankPostings_fillBlanks (money : Money) (postings : List Posting) :
    (fillBlanks money postings).filter (·.isBlank) = [] := by
  refine List.filter_eq_nil_iff.mpr fun posting member => ?_
  rcases List.mem_map.mp member with ⟨old, -, rfl⟩
  split
  · exact Bool.false_ne_true
  · rename_i filled
    exact filled

theorem LeavesOver.isDone_filled (leaves : booking.LeavesOver unit n currency)
    (split : booking.split = none) {blank : Posting} (one_blank : booking.blankPostings = [blank])
    {amount : Decimal} (opposite : Amounts unit (-n) amount) :
    IsDone { booking with postings := fillBlanks ⟨currency, amount⟩ booking.postings } where
  split := split
  complete := blankPostings_fillBlanks _ _
  balanced := by
    intro other
    rw [exactTotal, Money.totalIn_perm (moneys_fillBlanks one_blank _), Money.totalIn_append,
      ← exactTotal, leaves.exactly, Money.totalIn_singleton]
    split
    · rw [opposite, Int.cast_neg, neg_mul, neg_add_cancel]
    · exact add_zero 0

/-! ## Several postings wait -/

theorem infer_several (several : 2 ≤ booking.blankPostings.length) :
    ∃ fault, booking.infer = .error (.ledger fault) ∧
      fault.cause = .severalBlanks booking.description booking.blankPostings.length := by
  unfold infer
  cases waiting : booking.blankPostings with
  | nil =>
      rw [waiting] at several
      cases several
  | cons first others =>
      cases others with
      | nil =>
          rw [waiting, List.length_singleton] at several
          exact absurd several (by decide)
      | cons second rest => exact ⟨_, rfl, rfl⟩

end Booking
end Daybook
