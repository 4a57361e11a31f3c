import Daybook.Proofs.Decimal.Rounding
import Daybook.Proofs.Money.Forms
import Daybook.Proofs.Outcome

namespace Daybook

/-!
# What is accepted as an amount

A text is accepted if it is an amount and its currency is known or may be bound.  What reading it
comes to is listed here with the condition of every case: two in which there is an amount and two
in which there is none.  Only one of them, the amount in a designator that is met for the first
time, leaves another registry behind.

Applying a minus could fail where the rest succeeded, since it rounds the number and the result
has to stay below a bound that the number itself need not keep.  It takes a million digits to get
there, so the amounts here have fewer.
-/

open Unicode

namespace Literal

/-! ## The sign of an amount -/

def signed (literal : Literal) (number : Decimal) : Except Decimal.Signal Decimal :=
  if literal.negative then number.neg else .ok number

theorem Numeral.abs_value_lt {text : Text} {number : Decimal} (numeral : Numeral text number) :
    |number.value| < (10 : Rat) ^ text.countP isDecimal := by
  cases numeral with
  | @whole digits coefficient spelled =>
      have bound : (coefficient : Rat) < 10 ^ text.countP isDecimal := by
        exact_mod_cast Text.digits?_lt_count spelled
      simpa [Decimal.abs_value] using bound
  | @fraction whole fraction coefficient spelled =>
      have count : (whole ++ '.' :: fraction).countP isDecimal = (whole ++ fraction).countP isDecimal := by
        rw [List.countP_append, List.countP_append, List.countP_cons_of_neg (by decide)]
      have bound : (coefficient : Rat) < 10 ^ (whole ++ fraction).countP isDecimal := by
        exact_mod_cast Text.digits?_lt_count spelled
      have part : (10 : Rat) ^ (-(fraction.length : Int)) ≤ 1 :=
        zpow_le_one_of_nonpos₀ (by norm_num) (by omega)
      rw [count, Decimal.abs_value]
      exact (mul_le_of_le_one_right (Nat.cast_nonneg coefficient) part).trans_lt bound

/-- A number of fewer than a million digits has an opposite. -/
theorem Numeral.exists_signed {literal : Literal} {number : Decimal}
    (numeral : Numeral literal.number number) (short : literal.number.countP isDecimal < 1000000) :
    ∃ amount, literal.signed number = .ok amount := by
  unfold signed
  split
  · have few : (literal.number.countP isDecimal : Int) ≤ Decimal.ledger.largest := by
      have largest : Decimal.ledger.largest = 999999 := rfl
      omega
    refine Decimal.exists_round ?_
    rw [Decimal.value_negated, abs_neg]
    refine numeral.abs_value_lt.trans_le ?_
    rw [← zpow_natCast]
    exact zpow_le_zpow_right₀ (by norm_num) few
  · exact ⟨number, rfl⟩

/-! ## What is refused -/

/-- Whether a cause is a fault of an amount that quotes the amount. -/
structure Faults (text : Text) (cause : Cause) : Prop where
  kind : cause.kind = .money
  quoted : cause.money? = some text

theorem ofText_eq_error {text : Text} {cause : Cause} (refused : ofText text = .error cause) :
    Faults text cause := by
  unfold ofText at refused
  split at refused
  · rename_i result first
    rw [refused] at first
    unfold symbolFirst? at first
    dsimp only at first
    split at first
    · cases first
    · split at first
      · split at first
        · rw [← Except.error.inj (Option.some.inj first)]
          exact ⟨rfl, rfl⟩
        · cases first
      · cases first
  · split at refused
    · cases refused
    · split at refused
      · cases refused
      · rw [← Except.error.inj refused]
        exact ⟨rfl, rfl⟩

theorem value_eq_error {literal : Literal} {text : Text} {cause : Cause}
    (refused : literal.value text = .error cause) : Faults text cause := by
  unfold value at refused
  split at refused
  · rw [← Except.error.inj refused]
    exact ⟨rfl, rfl⟩
  · split at refused
    · rw [← Except.error.inj refused]
      exact ⟨rfl, rfl⟩
    · split at refused
      · cases refused
      · rw [← Except.error.inj refused]
        exact ⟨rfl, rfl⟩

/-- A text is no two amounts. -/
theorem Writes.unique {text : Text} {one other : Literal} (writes : Writes text one)
    (also : Writes text other) : one = other :=
  Except.ok.inj (writes.ofText.symm.trans also.ofText)

end Literal

namespace Money

open Literal

/-- How a text without outer blanks is refused as an amount: it has none of the forms, what stands
for its number is none, a closed registry does not know its currency, or its number has no
opposite. -/
inductive Unread (text : Text) : Failure → Prop
  | form {cause : Cause} (refused : Literal.ofText text = .error cause) : Unread text (.ofCause cause)
  | number {literal : Literal} {cause : Cause} (read : Literal.ofText text = .ok literal)
      (refused : literal.value text = .error cause) : Unread text (.ofCause cause)
  | unknown {literal : Literal} (read : Literal.ofText text = .ok literal) :
      Unread text (.ofCause (.unknownCurrency literal.token))
  | minus {literal : Literal} {value : Decimal} {signal : Decimal.Signal}
      (read : Literal.ofText text = .ok literal) (minus : literal.negative = true)
      (number : literal.value text = .ok value) (refused : value.neg = .error signal) :
      Unread text (.arithmetic signal)

/-- A text that is refused as an amount is refused in one of the known ways. -/
theorem unread_of_ofText {text : Text} {registry after : Registry} {failure : Failure}
    (failed : ofText text registry = (.error failure, after)) : Unread (Text.strip text) failure := by
  unfold ofText at failed
  dsimp only at failed
  split at failed
  · rename_i cause refused
    rcases Except.error.inj (Prod.mk.inj failed).1 with rfl
    exact .form refused
  · rename_i literal read
    split at failed
    · rename_i cause refused
      rcases Except.error.inj (Prod.mk.inj failed).1 with rfl
      exact .number read refused
    · rename_i value number
      split at failed
      · rename_i cause left refused
        rcases Except.error.inj (Prod.mk.inj failed).1 with rfl
        unfold Registry.resolve at refused
        split at refused
        · cases refused
        · split at refused
          · rcases Except.error.inj (Prod.mk.inj refused).1 with rfl
            exact .unknown read
          · cases refused
      · have refused := Outcome.map_eq_error.mp (Prod.mk.inj failed).1
        rcases Outcome.ofNumbers_eq_error.mp refused with ⟨signal, negated, rfl⟩
        split at negated
        · rename_i minus
          exact .minus read minus number negated
        · cases negated

/-! ## What reading comes to -/

/-- What reading a text without outer blanks comes to: an amount or a failure, and the registry
that is left.  The currency of an amount is known, or its designator is met for the first time and
bound in the style of the amount, or a closed registry does not know it. -/
inductive Reading (registry : Registry) (text : Text) : Outcome Money × Registry → Prop
  | known {literal : Literal} {number amount : Decimal} {currency : Currency} (writes : Writes text literal)
      (numeral : Numeral literal.number number) (signed : literal.signed number = .ok amount)
      (found : registry.lookup? literal.token = some currency) :
      Reading registry text (.ok ⟨currency.designator, amount⟩, registry)
  | met {literal : Literal} {number amount : Decimal} (writes : Writes text literal)
      (numeral : Numeral literal.number number) (signed : literal.signed number = .ok amount)
      (unknown : registry.lookup? literal.token = none) (opened : registry.closed = false)
      (fresh : registry.currencies.get? literal.designator = none) :
      Reading registry text
        (.ok ⟨literal.designator, amount⟩, registry.meeting literal.designator literal.style)
  | unknown {literal : Literal} (writes : Writes text literal) (unknown : registry.lookup? literal.token = none)
      (closed : registry.closed = true) :
      Reading registry text (.error (.ofCause (.unknownCurrency literal.token)), registry)
  | malformed {cause : Cause} (no_amount : ∀ literal, ¬ Writes text literal) (faults : Faults text cause) :
      Reading registry text (.error (.ofCause cause), registry)

/-! ## Every text is read as listed -/

section Amounts

variable {registry after : Registry} {text : Text} {literal : Literal} {number : Decimal}
  (writes : Writes (Text.strip text) literal) (measured : literal.value (Text.strip text) = .ok number)
include writes measured

theorem ofText_of_resolve {amount : Decimal} {currency : Currency} (signed : literal.signed number = .ok amount)
    (resolved : registry.resolve literal.token literal.style = (.ok currency, after)) :
    ofText text registry = (.ok ⟨currency.designator, amount⟩, after) := by
  unfold Literal.signed at signed
  unfold ofText
  dsimp only
  rw [writes.ofText]
  dsimp only
  rw [measured]
  dsimp only
  rw [resolved]
  dsimp only
  rw [signed]
  rfl

theorem ofText_of_refused {cause : Cause}
    (refused : registry.resolve literal.token literal.style = (.error cause, after)) :
    ofText text registry = (.error (.ofCause cause), after) := by
  unfold ofText
  dsimp only
  rw [writes.ofText]
  dsimp only
  rw [measured]
  dsimp only
  rw [refused]

end Amounts

theorem reading_of_writes {registry : Registry} {text : Text} {literal : Literal}
    (writes : Writes (Text.strip text) literal) (short : literal.number.countP isDecimal < 1000000) :
    Reading registry (Text.strip text) (ofText text registry) := by
  rcases writes.numeral.exists_value rfl (Text.strip text) with ⟨number, numeral, measured⟩
  rcases numeral.exists_signed short with ⟨amount, signed⟩
  cases found : registry.lookup? literal.token with
  | some currency =>
      rw [ofText_of_resolve writes measured signed (Registry.resolve_of_lookup? found literal.style)]
      exact .known writes numeral signed found
  | none =>
      cases closed : registry.closed with
      | true =>
          rw [ofText_of_refused writes measured (Registry.resolve_of_closed found closed literal.style)]
          exact .unknown writes found closed
      | false =>
          have fresh := Registry.get?_of_unknown found
          rw [ofText_of_resolve writes measured signed (Registry.resolve_of_unknown found closed literal.style)]
          rw [writes.form.designator_eq] at fresh ⊢
          exact .met writes numeral signed found closed fresh

theorem reading_of_not_writes (registry : Registry) {text : Text}
    (no_amount : ∀ literal, ¬ Writes (Text.strip text) literal) :
    Reading registry (Text.strip text) (ofText text registry) := by
  unfold ofText
  dsimp only
  cases read : Literal.ofText (Text.strip text) with
  | error cause => exact .malformed no_amount (ofText_eq_error read)
  | ok literal =>
      rcases ofText_eq_ok_iff.mp read with ⟨form, numeric⟩
      cases measured : literal.value (Text.strip text) with
      | error cause =>
          dsimp only
          rw [measured]
          exact .malformed no_amount (value_eq_error measured)
      | ok number => exact absurd ⟨form, isNumeral_of_value numeric measured⟩ (no_amount literal)

/-- Whether a text is accepted for its form and its currency only.  It has one reading at most, and
it is accepted exactly if it is an amount in a currency that is known or may be bound. -/
structure IsDecided (registry : Registry) (text : Text) : Prop where
  unique : ∀ one other, Writes (Text.strip text) one → Writes (Text.strip text) other → one = other
  accepts_iff : (∃ money after, ofText text registry = (.ok money, after)) ↔
    ∃ literal, Writes (Text.strip text) literal ∧
      (registry.closed = true → registry.lookup? literal.token ≠ none)
  reading : Reading registry (Text.strip text) (ofText text registry)

/-- Every text is decided by every registry, if its number has fewer than a million digits. -/
theorem ofText_decided (registry : Registry) {text : Text}
    (short : ∀ literal, Writes (Text.strip text) literal → literal.number.countP isDecimal < 1000000) :
    IsDecided registry text := by
  have reading : Reading registry (Text.strip text) (ofText text registry) := by
    by_cases amount : ∃ literal, Writes (Text.strip text) literal
    · rcases amount with ⟨literal, writes⟩
      exact reading_of_writes writes (short literal writes)
    · exact reading_of_not_writes registry (not_exists.mp amount)
  refine ⟨fun one other => Writes.unique, ?_, reading⟩
  constructor
  · rintro ⟨money, after, ok⟩
    rw [ok] at reading
    cases reading with
    | known writes numeral signed found => exact ⟨_, writes, fun _ => by simp [found]⟩
    | met writes numeral signed unknown opened => exact ⟨_, writes, fun closed => by simp [opened] at closed⟩
  · rintro ⟨literal, writes, allowed⟩
    cases outcome : ofText text registry with
    | mk result after =>
        rw [outcome] at reading
        cases reading with
        | known => exact ⟨_, _, rfl⟩
        | met => exact ⟨_, _, rfl⟩
        | unknown also unknown closed =>
            rw [writes.unique also] at allowed
            exact absurd unknown (allowed closed)
        | malformed no_amount => exact absurd writes (no_amount literal)

/-- An amount in a code in small letters, met for the first time. -/
theorem dollars_decided :
    ofText " -10.50 usd".toList {} =
        (.ok ⟨"USD".toList, ⟨true, 1050, -2⟩⟩, Registry.meeting {} "USD".toList .code) ∧
      IsDecided {} " -10.50 usd".toList := by
  have read : Literal.ofText (Text.strip " -10.50 usd".toList) =
      .ok ⟨true, "10.50".toList, "usd".toList, .code⟩ := by decide +kernel
  refine ⟨by decide +kernel, ofText_decided {} fun literal writes => ?_⟩
  rw [Except.ok.inj (writes.ofText.symm.trans read)]
  decide +kernel

end Money
end Daybook
