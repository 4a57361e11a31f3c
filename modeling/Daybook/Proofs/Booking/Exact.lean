import Daybook.Proofs.Booking.Resolution
import Daybook.Proofs.Money.Totals

namespace Daybook

/-!
# Exact totals of bookings

The program adds up a booking with sums that keep a bounded number of digits, and it
trusts a total of zero.  Such a total need not be the exact one: an addition that has
too many digits drops the last ones, and what was dropped does not come back when
later amounts bring the total down again.  That takes large amounts, though.  A digit
is lost only where the total has more units than the digits hold, and the total must
be brought back to zero from there, so the amounts of the booking have to add up to
more than twice that many units.  Below this bound, zero means zero.
-/

namespace Booking

/-! ## A running total -/

/-- What totals say of a currency. -/
def totalOf (totals : Table Text Decimal) (currency : Text) : Rat :=
  ((totals.get? currency).getD .zero).value

theorem totalOf_put (totals : Table Text Decimal) (currency wanted : Text) (total : Decimal) :
    totalOf (totals.put currency total) wanted =
      if currency = wanted then total.value else totalOf totals wanted := by
  unfold totalOf
  rw [Table.get?_put]
  split <;> rfl

/-- Whether a total that was rounded again and again can be told from the exact one: it
is exact, or the amounts behind it went beyond the limit and, with what would bring the
total back to zero, make up more than twice the limit. -/
def Faithful (limit total exact turnover : Rat) : Prop :=
  total = exact ∨ limit < turnover ∧ 2 * limit < turnover + |total|

theorem Faithful.eq_of_le {limit total exact turnover : Rat}
    (faithful : Faithful limit total exact turnover) (bounded : turnover + |total| ≤ 2 * limit) :
    total = exact :=
  faithful.resolve_right fun large => absurd bounded (not_le.mpr large.2)

/-- Below the limit itself nothing at all is lost. -/
theorem Faithful.eq_of_small {limit total exact turnover : Rat}
    (faithful : Faithful limit total exact turnover) (small : turnover ≤ limit) : total = exact :=
  faithful.resolve_right fun large => absurd small (not_le.mpr large.1)

/-- Adding one more amount on the grid. -/
theorem Faithful.add {unit : Int} (least : Decimal.ledger.tiniest ≤ unit) {total amount sum : Decimal}
    {exact turnover : Rat}
    (before : Faithful (10 ^ (unit + Decimal.ledger.digits)) total.value exact turnover)
    (size : |exact| ≤ turnover) (first : Decimal.OnGrid unit total.value)
    (second : Decimal.OnGrid unit amount.value) (ok : total.add amount = .ok sum) :
    Faithful (10 ^ (unit + Decimal.ledger.digits)) sum.value (exact + amount.value)
      (turnover + |amount.value|) := by
  have grid : Decimal.OnGrid unit (Decimal.exactSum total amount).value :=
    Decimal.value_exactSum total amount ▸ first.add second
  have positive := abs_nonneg amount.value
  rcases Decimal.round_exact_or_large least grid ok with same | ⟨large, left⟩
  · rw [Decimal.value_exactSum] at same
    rcases before with equal | ⟨many, more⟩
    · exact Or.inl (by rw [same, equal])
    · -- Taking the amount off again leads back to the total before.
      have back := abs_sub (total.value + amount.value) amount.value
      rw [add_sub_cancel_right, ← same] at back
      exact Or.inr ⟨by linarith, by linarith⟩
  · rw [Decimal.value_exactSum] at large
    rcases before with equal | ⟨many, more⟩
    · have through := abs_add_le exact amount.value
      rw [equal] at large
      exact Or.inr ⟨by linarith, by linarith⟩
    · exact Or.inr ⟨by linarith, by linarith⟩

/-- Whether totals keep up with the amounts in a currency that went into them. -/
structure Tracks (unit : Int) (currency : Text) (totals : Table Text Decimal) (moneys : List Money) :
    Prop where
  grid : Decimal.OnGrid unit (totalOf totals currency)
  faithful : Faithful (10 ^ (unit + Decimal.ledger.digits)) (totalOf totals currency)
    (Money.totalIn currency moneys) (Money.turnoverIn currency moneys)

variable {unit : Int} {currency : Text}

theorem tracks_nil (unit : Int) (currency : Text) : Tracks unit currency [] [] where
  grid := by
    change Decimal.OnGrid unit (Decimal.value .zero)
    rw [Decimal.value_zero]
    exact Decimal.OnGrid.zero unit
  faithful := Or.inl Decimal.value_zero

theorem Tracks.put (least : Decimal.ledger.tiniest ≤ unit) {totals : Table Text Decimal}
    {moneys : List Money} {money : Money} {sum : Decimal} (before : Tracks unit currency totals moneys)
    (grid : money.currency = currency → Decimal.OnGrid unit money.amount.value)
    (ok : ((totals.get? money.currency).getD .zero).add money.amount = .ok sum) :
    Tracks unit currency (totals.put money.currency sum) (moneys ++ [money]) := by
  by_cases here : money.currency = currency
  · rw [here] at ok
    constructor
    · rw [totalOf_put, if_pos here]
      exact Decimal.OnGrid.ofAdd before.grid (grid here) ok
    · rw [totalOf_put, if_pos here, Money.totalIn_append, Money.turnoverIn_append,
        Money.totalIn_singleton, Money.turnoverIn_singleton, if_pos here, if_pos here]
      exact before.faithful.add least (Money.abs_totalIn_le currency moneys) before.grid (grid here) ok
  · constructor
    · rw [totalOf_put, if_neg here]
      exact before.grid
    · rw [totalOf_put, if_neg here, Money.totalIn_append, Money.turnoverIn_append,
        Money.totalIn_singleton, Money.turnoverIn_singleton, if_neg here, if_neg here, add_zero, add_zero]
      exact before.faithful

/-- The totals of all amounts keep up with them. -/
theorem Tracks.addTotals (least : Decimal.ledger.tiniest ≤ unit) {totals result : Table Text Decimal}
    {seen moneys : List Money} (before : Tracks unit currency totals seen)
    (grid : ∀ money ∈ moneys, money.currency = currency → Decimal.OnGrid unit money.amount.value)
    (ok : Booking.addTotals totals moneys = .ok result) :
    Tracks unit currency result (seen ++ moneys) := by
  induction moneys generalizing totals seen with
  | nil =>
      rcases Except.ok.inj ok with rfl
      rw [List.append_nil]
      exact before
  | cons money rest ih =>
      rcases Outcome.bind_eq_ok.mp ok with ⟨sum, added, ok⟩
      have next := before.put least (grid money List.mem_cons_self) added
      have all := ih next (fun other member => grid other (List.mem_cons_of_mem money member)) ok
      rwa [List.append_assoc, List.singleton_append] at all

/-! ## Balanced bookings -/

variable {booking resolved : Booking}

/-- The exact total of the amounts of a booking in a currency. -/
def exactTotal (booking : Booking) (currency : Text) : Rat := Money.totalIn currency booking.moneys

/-- What the amounts of a booking in a currency add up to without their signs. -/
def turnover (booking : Booking) (currency : Text) : Rat := Money.turnoverIn currency booking.moneys

theorem tracks_imbalance (least : Decimal.ledger.tiniest ≤ unit)
    (grid : ∀ money ∈ booking.moneys, money.currency = currency →
      Decimal.OnGrid unit money.amount.value) {totals : Table Text Decimal}
    (ok : booking.imbalance = .ok totals) : Tracks unit currency totals booking.moneys :=
  (tracks_nil unit currency).addTotals least grid (Outcome.ofNumbers_eq_ok.mp ok)

theorem totalOf_eq_zero {totals : Table Text Decimal} (zero : ∀ entry ∈ totals, entry.2.isZero = true)
    (currency : Text) : totalOf totals currency = 0 := by
  unfold totalOf
  cases found : totals.get? currency with
  | none => exact Decimal.value_zero
  | some total => exact (Decimal.isZero_iff total).mp (zero _ (Table.mem_of_get? found))

/-- An accepted booking balances exactly in a currency in which it does not move more
than twice what the digits hold. -/
theorem exactTotal_of_validate (least : Decimal.ledger.tiniest ≤ unit)
    (grid : ∀ money ∈ booking.moneys, money.currency = currency →
      Decimal.OnGrid unit money.amount.value) (ok : booking.validate = .ok ())
    (bounded : booking.turnover currency ≤ 2 * 10 ^ (unit + Decimal.ledger.digits)) :
    booking.exactTotal currency = 0 := by
  rcases Outcome.bind_eq_ok.mp ok with ⟨totals, added, none_left⟩
  have zero : totalOf totals currency = 0 := by
    apply totalOf_eq_zero
    intro entry member
    split at none_left
    · cases none_left
    · rename_i nothing
      simpa using List.find?_eq_none.mp nothing entry member
  have faithful := (tracks_imbalance least grid added).faithful
  rw [zero] at faithful
  exact (faithful.eq_of_le (by rw [abs_zero, add_zero]; exact bounded)).symm

/-! ## Inferred amounts -/

/-- Whether a number came out of rounding. -/
def IsRounded (number : Decimal) : Prop := ∃ exact, Decimal.round Decimal.ledger exact = .ok number

theorem isRounded_of_addTotals {totals result : Table Text Decimal} {moneys : List Money}
    (before : ∀ currency total, totals.get? currency = some total → IsRounded total)
    (ok : addTotals totals moneys = .ok result) :
    ∀ currency total, result.get? currency = some total → IsRounded total := by
  induction moneys generalizing totals with
  | nil =>
      rcases Except.ok.inj ok with rfl
      exact before
  | cons money rest ih =>
      rcases Outcome.bind_eq_ok.mp ok with ⟨sum, added, ok⟩
      refine ih ?_ ok
      intro currency total found
      rw [Table.get?_put] at found
      split at found
      · rw [← Option.some.inj found]
        exact ⟨_, added⟩
      · exact before currency total found

theorem value_balancing {total amount : Decimal} (rounded : IsRounded total)
    (ok : balancing total = .ok amount) : amount.value = -total.value := by
  unfold balancing at ok
  split at ok
  · rename_i zero
    rw [← Except.ok.inj ok, Decimal.value_zero, (Decimal.isZero_iff total).mp zero, neg_zero]
  · rcases rounded with ⟨exact, rounded⟩
    exact Decimal.neg_of_round rounded ok

/-- The amounts after one was given to each posting without. -/
theorem filterMap_fillBlanks (money : Money) (postings : List Posting) :
    ((fillBlanks money postings).filterMap (·.money)).Perm
      (List.replicate (postings.filter (·.isBlank)).length money ++ postings.filterMap (·.money)) := by
  induction postings with
  | nil => exact List.Perm.nil
  | cons posting rest ih =>
      rw [fillBlanks, List.map_cons, ← fillBlanks]
      cases given : posting.money with
      | none =>
          have blank := Posting.isBlank_of_none given
          rw [if_pos blank, List.filter_cons_of_pos blank, List.length_cons, List.replicate_succ,
            List.filterMap_cons_none given]
          exact ih.cons money
      | some other =>
          have filled := Bool.eq_false_iff.mp (Posting.isBlank_of_some given)
          rw [if_neg filled, List.filterMap_cons_some given, List.filterMap_cons_some given,
            List.filter_cons_of_neg filled]
          exact (ih.cons other).trans List.perm_middle.symm

theorem moneys_fillBlanks {blank : Posting} (one_blank : booking.blankPostings = [blank])
    (money : Money) :
    (moneys { booking with postings := fillBlanks money booking.postings }).Perm
      ([money] ++ booking.moneys) := by
  have all := filterMap_fillBlanks money booking.postings
  rwa [show booking.postings.filter (·.isBlank) = [blank] from one_blank] at all

/-- Inferring an amount keeps the ones that are given. -/
theorem mem_moneys_of_infer (ok : booking.infer = .ok resolved) {money : Money}
    (member : money ∈ booking.moneys) : money ∈ resolved.moneys := by
  rcases infer_eq_ok ok with ⟨-, -, rfl⟩ | ⟨_, _, _, _, one_blank, -, -, rfl⟩
  · exact member
  · exact (moneys_fillBlanks one_blank _).mem_iff.mpr (List.mem_append_right _ member)

/-- Inferring the one omitted amount makes a booking balance exactly, within the same
bound. -/
theorem exactTotal_of_infer (least : Decimal.ledger.tiniest ≤ unit)
    (grid : ∀ money ∈ booking.moneys, money.currency = currency →
      Decimal.OnGrid unit money.amount.value) (ok : booking.infer = .ok resolved)
    (bounded : resolved.turnover currency ≤ 2 * 10 ^ (unit + Decimal.ledger.digits)) :
    resolved.exactTotal currency = 0 := by
  rcases infer_eq_ok ok with ⟨-, accepted, rfl⟩ |
    ⟨_, single, total, amount, one_blank, added, balanced, rfl⟩
  · exact exactTotal_of_validate least grid accepted bounded
  · have faithful := (tracks_imbalance least grid added).faithful
    have opposite : amount.value = -total.value :=
      value_balancing (isRounded_of_addTotals (by rintro currency total ⟨⟩)
        (Outcome.ofNumbers_eq_ok.mp added) single total (by rw [Table.get?, if_pos rfl])) balanced
    have moneys := moneys_fillBlanks one_blank ⟨single, amount⟩
    have share : Money.totalIn currency [⟨single, amount⟩] = -totalOf [(single, total)] currency := by
      rw [Money.totalIn_singleton, totalOf, Table.get?]
      split
      · exact opposite
      · exact (neg_eq_zero.mpr Decimal.value_zero).symm
    have size : Money.turnoverIn currency [⟨single, amount⟩] = |totalOf [(single, total)] currency| := by
      rw [← abs_neg (totalOf _ _), ← share, Money.turnoverIn_singleton, Money.totalIn_singleton]
      split
      · rfl
      · exact abs_zero.symm
    rw [turnover, Money.turnoverIn_perm moneys, Money.turnoverIn_append, size, add_comm] at bounded
    rw [exactTotal, Money.totalIn_perm moneys, Money.totalIn_append, share,
      faithful.eq_of_le bounded, neg_add_cancel]

end Booking
end Daybook
