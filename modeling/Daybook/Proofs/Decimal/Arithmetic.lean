import Daybook.Proofs.Decimal.Rounding

namespace Daybook
namespace Decimal

/-!
# Sums and opposites

Addition and negation round an exact result.  For each there is the exact case,
in which the result fits the digits, and the bounded case, in which a total that
is far larger than what is added stays within its bound.  The bounded case needs
no assumption on the number of additions.
-/

/-- Whether the magnitude of a number is at most ten to a power. -/
def Within (power : Int) (d : Decimal) : Prop := |d.value| ≤ 10 ^ power

theorem Within.mono {small large : Int} {d : Decimal} (order : small ≤ large)
    (within : Within small d) : Within large d :=
  within.trans (zpow_le_zpow_right₀ (by norm_num) order)

theorem within_zero (power : Int) : Within power zero := by
  rw [Within, value_zero, abs_zero]
  positivity

/-- How much larger a total has to be than an amount in order not to feel it. -/
def margin : Int := 29

/-! ## Addition -/

theorem add_of_fits {a b : Decimal} {unit : Int} (inside : IsUnit unit)
    (fits : Fits unit (a.value + b.value)) :
    ∃ sum, a.add b = .ok sum ∧ sum.value = a.value + b.value := by
  rw [← value_exactSum] at fits ⊢
  exact round_of_fits inside fits

/-- A sum that fits is exact if there is one; only a sum that is too large for the exponents
need not be there. -/
theorem value_of_add {a b sum : Decimal} {unit : Int} (least : ledger.tiniest ≤ unit)
    (fits : Fits unit (a.value + b.value)) (ok : a.add b = .ok sum) :
    sum.value = a.value + b.value := by
  rw [← value_exactSum] at fits ⊢
  exact round_value_of_fits least fits ok

/-- A sum can be made if it is the value of one that was made. -/
theorem exists_add_of_value {a b c d sum : Decimal} (ok : c.add d = .ok sum)
    (same : a.value + b.value = sum.value) : ∃ other, a.add b = .ok other :=
  exists_round_of_le (by rw [value_exactSum, same]; exact abs_le_greatest ok)

/-- A bounded total with an amount that is small against the bound. -/
theorem add_within {a b : Decimal} {power : Int} (low : 0 ≤ power) (high : power < ledger.largest)
    (total : Within power a) (amount : Within (power - margin) b) :
    ∃ sum, a.add b = .ok sum ∧ Within power sum := by
  apply round_within low high
  rw [value_exactSum]
  exact (abs_add_le a.value b.value).trans (add_le_add total amount)

/-- Two bounded numbers have a sum that is one power of ten larger at most. -/
theorem add_within_succ {a b : Decimal} {power : Int} (low : 0 ≤ power)
    (high : power + 1 < ledger.largest) (first : Within power a) (second : Within power b) :
    ∃ sum, a.add b = .ok sum ∧ Within (power + 1) sum := by
  apply round_within (by omega) high
  rw [value_exactSum]
  have step : (10 : Rat) ^ (power + 1) = 10 * 10 ^ power := by
    rw [zpow_add_one₀ (by norm_num), mul_comm]
  have positive : (0 : Rat) < 10 ^ power := by positivity
  have rest : (0 : Rat) < 10 ^ (power + 1 - 29) := by positivity
  have sum := (abs_add_le a.value b.value).trans (add_le_add first second)
  linarith

theorem overflow_of_add_error {a b : Decimal} {signal : Signal} (failed : a.add b = .error signal) :
    signal = .overflow :=
  (overflow_of_round_error failed).1

theorem add_value_congr {a b c d left right : Decimal} (first : a.value = c.value)
    (second : b.value = d.value) (one : a.add b = .ok left) (other : c.add d = .ok right) :
    left.value = right.value :=
  round_value_congr (by rw [value_exactSum, value_exactSum, first, second]) one other

theorem OnGrid.ofAdd {a b sum : Decimal} {unit : Int} (first : OnGrid unit a.value)
    (second : OnGrid unit b.value) (ok : a.add b = .ok sum) : OnGrid unit sum.value :=
  OnGrid.round (value_exactSum a b ▸ first.add second) ok

/-! ## Opposites and magnitudes -/

theorem value_of_neg {a opposite : Decimal} {unit : Int} (least : ledger.tiniest ≤ unit)
    (fits : Fits unit a.value) (ok : a.neg = .ok opposite) : opposite.value = -a.value := by
  have negated := fits.neg
  rw [← value_negated] at negated ⊢
  exact round_value_of_fits least negated ok

/-- What came out of rounding has an exact opposite. -/
theorem neg_of_round {d rounded opposite : Decimal} (ok : round ledger d = .ok rounded)
    (negated : rounded.neg = .ok opposite) : opposite.value = -rounded.value := by
  rcases round_value ok with ⟨kept, ⟨least, below, -⟩, nearest⟩
  have power : (0 : Rat) < 10 ^ kept := by positivity
  have within : |rounded.value| ≤ 10 ^ (kept + ledger.digits) :=
    nearest.abs_le (onGrid_power (by omega)) (by linarith)
  have grid : OnGrid kept (value { rounded with negative := !rounded.negative && !rounded.isZero }) := by
    rw [value_negated]
    exact nearest.onGrid.neg
  rcases round_exact_or_large least grid negated with same | ⟨large, -⟩
  · rw [same, value_negated]
  · rw [value_negated, abs_neg] at large
    exact absurd large (not_lt.mpr within)

theorem value_unsigned (a : Decimal) : value { a with negative := false } = |a.value| := by
  rw [value_signed, if_neg Bool.false_ne_true, one_mul, abs_value]

/-- A magnitude that fits is exact. -/
theorem abs_of_fits {a : Decimal} {unit : Int} (inside : IsUnit unit) (fits : Fits unit a.value) :
    ∃ magnitude, a.abs = .ok magnitude ∧ magnitude.value = |a.value| := by
  rw [← value_unsigned]
  apply round_of_fits inside
  rw [value_unsigned]
  exact fits.abs

theorem neg_within {a : Decimal} {power : Int} (low : 0 ≤ power) (high : power < ledger.largest)
    (within : Within power a) : ∃ opposite, a.neg = .ok opposite ∧ Within power opposite := by
  apply round_within low high
  rw [value_negated, abs_neg]
  exact within.trans (le_add_of_nonneg_right (by positivity))

theorem OnGrid.ofNeg {a opposite : Decimal} {unit : Int} (grid : OnGrid unit a.value)
    (ok : a.neg = .ok opposite) : OnGrid unit opposite.value :=
  OnGrid.round (value_negated a ▸ grid.neg) ok

end Decimal
end Daybook
