import Daybook.Decimal.Arithmetic
import Mathlib.Algebra.Order.Field.Power
import Mathlib.Algebra.Order.Field.Rat
import Mathlib.Data.Rat.Cast.Order
import Mathlib.Tactic.FieldSimp
import Mathlib.Tactic.Linarith
import Mathlib.Tactic.Positivity
import Mathlib.Tactic.Ring

namespace Daybook
namespace Decimal

/-!
# Values of decimal numbers

The operations on decimal numbers are programs on coefficients and exponents.
What they mean is said of rational values: the exact sum has the sum of the
values, comparing compares values, and the test for zero is one for the value
zero.  A value lies on the grid of a unit when it is a whole number of units;
every number lies on the grid of its own exponent and on all finer ones.
-/

/-- A natural number lies below the power of ten that its digits name. -/
theorem lt_pow_digitCount (value : Nat) : value < 10 ^ digitCount value := by
  fun_induction digitCount value with
  | case1 value small => simpa using small
  | case2 value large ih =>
    have : value / 10 + 1 ≤ 10 ^ digitCount (value / 10) := ih
    rw [Nat.pow_succ]
    omega

/-- A positive natural number is at least the power of ten of one digit less. -/
theorem pow_digitCount_le {value : Nat} (positive : 0 < value) :
    10 ^ (digitCount value - 1) ≤ value := by
  fun_induction digitCount value with
  | case1 value small => exact positive
  | case2 value large ih =>
    have lower := ih (by omega)
    have one : 1 ≤ digitCount (value / 10) := by
      rw [digitCount]; split <;> omega
    rw [Nat.add_sub_cancel]
    calc 10 ^ digitCount (value / 10)
        = 10 ^ (digitCount (value / 10) - 1) * 10 := by
          rw [← Nat.pow_succ]; congr 1; omega
      _ ≤ value / 10 * 10 := Nat.mul_le_mul_right 10 lower
      _ ≤ value := Nat.div_mul_le_self value 10

/-- A number below a power of ten has no more digits than the power. -/
theorem digitCount_le {value count : Nat} (positive : 0 < count) (below : value < 10 ^ count) :
    digitCount value ≤ count := by
  rcases Nat.eq_zero_or_pos value with rfl | some_value
  · rw [digitCount]
    exact positive
  · have least := (pow_digitCount_le some_value).trans_lt below
    rw [Nat.pow_lt_pow_iff_right (by decide)] at least
    omega

theorem magnitudeIn_eq (unit : Int) (d : Decimal) :
    magnitudeIn unit d = d.coefficient * 10 ^ (d.exponent - unit).toNat := rfl

/-- A power of ten counted in a finer one. -/
theorem power_eq_mul {unit exponent : Int} (finer : unit ≤ exponent) :
    (10 : Rat) ^ exponent = 10 ^ (exponent - unit).toNat * 10 ^ unit := by
  rw [← zpow_natCast, ← zpow_add₀ (by norm_num)]
  congr 1
  omega

/-- The value is the signed number of units of any unit that is no coarser. -/
theorem value_eq_unitsIn (d : Decimal) {unit : Int} (finer : unit ≤ d.exponent) :
    d.value = (unitsIn unit d : Rat) * 10 ^ unit := by
  unfold value
  rw [power_eq_mul finer]
  unfold unitsIn
  rw [magnitudeIn_eq]
  split <;> push_cast <;> ring

theorem abs_value (d : Decimal) : |d.value| = (d.coefficient : Rat) * 10 ^ d.exponent := by
  have power : (0 : Rat) < 10 ^ d.exponent := by positivity
  unfold value
  rw [abs_mul, abs_of_pos power]
  split
  · rw [abs_neg, Nat.abs_cast]
  · rw [Nat.abs_cast]

@[simp] theorem value_zero : value zero = 0 := by
  simp [value, zero]

/-- The sign of a coefficient is all that tells a number from its opposite. -/
theorem value_signed (negative : Bool) (coefficient : Nat) (exponent : Int) :
    value ⟨negative, coefficient, exponent⟩ =
      (if negative then -1 else 1) * ((coefficient : Rat) * 10 ^ exponent) := by
  unfold value
  split <;> ring

theorem value_eq_zero_iff (d : Decimal) : d.value = 0 ↔ d.coefficient = 0 := by
  have power : (10 : Rat) ^ d.exponent ≠ 0 := by positivity
  rw [← abs_eq_zero, abs_value, mul_eq_zero, Nat.cast_eq_zero]
  exact or_iff_left power

theorem isZero_iff (d : Decimal) : d.isZero = true ↔ d.value = 0 := by
  rw [value_eq_zero_iff, isZero, beq_iff_eq]

theorem isPositive_iff (d : Decimal) : d.isPositive = true ↔ 0 < d.value := by
  have power : (0 : Rat) < 10 ^ d.exponent := by positivity
  rcases d with ⟨negative, coefficient, exponent⟩
  simp only [isPositive, isZero, Bool.and_eq_true, Bool.not_eq_true', beq_eq_false_iff_ne]
  rw [value_signed]
  cases negative with
  | false =>
      rw [if_neg Bool.false_ne_true, one_mul, mul_pos_iff_of_pos_right power, Nat.cast_pos]
      exact (and_iff_right rfl).trans Nat.pos_iff_ne_zero.symm
  | true =>
      rw [if_pos rfl, neg_one_mul, neg_pos]
      exact iff_of_false (fun both => by cases both.1) (not_lt.mpr (by positivity))

/-- Comparing two numbers compares their values. -/
theorem same_iff (a b : Decimal) : a.same b = true ↔ a.value = b.value := by
  have power : (10 : Rat) ^ commonUnit a b ≠ 0 := by positivity
  rw [same, beq_iff_eq, value_eq_unitsIn a (min_le_left _ _), value_eq_unitsIn b (min_le_right _ _)]
  constructor
  · intro equal
    exact congrArg (fun units : Int => (units : Rat) * 10 ^ commonUnit a b) equal
  · intro equal
    exact_mod_cast mul_right_cancel₀ power equal

/-- The exact sum has the sum of the values. -/
theorem value_exactSum (a b : Decimal) : (exactSum a b).value = a.value + b.value := by
  have first : commonUnit a b ≤ a.exponent := min_le_left _ _
  have second : commonUnit a b ≤ b.exponent := min_le_right _ _
  rw [value_eq_unitsIn a first, value_eq_unitsIn b second, ← add_mul, ← Int.cast_add]
  change value ⟨if unitsIn (commonUnit a b) a + unitsIn (commonUnit a b) b = 0 then _ else _, _, _⟩ =
    _ * (10 : Rat) ^ commonUnit a b
  generalize unitsIn (commonUnit a b) a + unitsIn (commonUnit a b) b = total
  rw [value_signed, ← mul_assoc]
  congr 1
  rw [Nat.cast_natAbs, Int.cast_abs]
  rcases lt_trichotomy total 0 with below | zero | above
  · have : (total : Rat) < 0 := by exact_mod_cast below
    simp [below, below.ne, abs_of_neg this]
  · simp [zero]
  · have : (0 : Rat) < total := by exact_mod_cast above
    simp [above.ne', not_lt.mpr above.le, abs_of_pos this]

theorem value_flipped (d : Decimal) : d.flipped.value = -d.value := by
  rcases d with ⟨negative, coefficient, exponent⟩
  simp only [flipped, value_signed]
  cases negative <;> simp

/-- The sign that negation gives leaves zero alone and turns all else round. -/
theorem value_negated (d : Decimal) :
    value { d with negative := !d.negative && !d.isZero } = -d.value := by
  rcases d with ⟨negative, coefficient, exponent⟩
  simp only [value_signed, isZero]
  by_cases zero : coefficient = 0
  · simp [zero]
  · cases negative <;> simp [zero]

theorem value_ofNat (count : Nat) : value (ofNat count) = count := by
  simp [value, ofNat]

/-- The exact product. -/
theorem value_product (a b : Decimal) :
    value ⟨a.negative != b.negative, a.coefficient * b.coefficient, a.exponent + b.exponent⟩ =
      a.value * b.value := by
  rcases a with ⟨first, coefficient, exponent⟩
  rcases b with ⟨second, other, power⟩
  rw [value_signed, value_signed, value_signed, zpow_add₀ (by norm_num)]
  push_cast
  cases first <;> cases second <;> simp <;> ring

/-- A magnitude in terms of a finer unit. -/
theorem abs_value_eq_magnitudeIn (d : Decimal) {unit : Int} (finer : unit ≤ d.exponent) :
    |d.value| = (magnitudeIn unit d : Rat) * 10 ^ unit := by
  rw [abs_value, power_eq_mul finer, magnitudeIn_eq]
  push_cast
  ring

/-! ## The grid of a unit -/

/-- Whether a value is a whole number of units of ten to the power `unit`. -/
def OnGrid (unit : Int) (value : Rat) : Prop :=
  ∃ units : Int, value = units * 10 ^ unit

namespace OnGrid

variable {unit : Int} {left right : Rat}

theorem zero (unit : Int) : OnGrid unit 0 := ⟨0, by simp⟩

theorem ofValue (d : Decimal) : OnGrid d.exponent d.value :=
  ⟨unitsIn d.exponent d, value_eq_unitsIn d le_rfl⟩

theorem add (first : OnGrid unit left) (second : OnGrid unit right) :
    OnGrid unit (left + right) := by
  rcases first with ⟨n, rfl⟩
  rcases second with ⟨m, rfl⟩
  exact ⟨n + m, by push_cast; ring⟩

theorem neg (first : OnGrid unit left) : OnGrid unit (-left) := by
  rcases first with ⟨n, rfl⟩
  exact ⟨-n, by push_cast; ring⟩

/-- What lies on a grid lies on every finer one. -/
theorem finer {fine : Int} (finer : fine ≤ unit) (coarse : OnGrid unit left) : OnGrid fine left := by
  rcases coarse with ⟨n, rfl⟩
  refine ⟨n * 10 ^ (unit - fine).toNat, ?_⟩
  rw [power_eq_mul finer]
  push_cast
  ring

theorem sum {values : List Rat} (each : ∀ value ∈ values, OnGrid unit value) :
    OnGrid unit values.sum := by
  induction values with
  | nil => exact zero unit
  | cons value rest ih =>
      rw [List.sum_cons]
      exact (each value List.mem_cons_self).add
        (ih fun other member => each other (List.mem_cons_of_mem value member))

/-- Two values on one grid that are less than a unit apart are the same. -/
theorem eq_of_near (first : OnGrid unit left) (second : OnGrid unit right)
    (near : |left - right| < 10 ^ unit) : left = right := by
  rcases first with ⟨n, rfl⟩
  rcases second with ⟨m, rfl⟩
  have power : (0 : Rat) < 10 ^ unit := by positivity
  rw [← sub_mul, abs_mul, abs_of_pos power, mul_lt_iff_lt_one_left power] at near
  have whole : |n - m| < 1 := by exact_mod_cast near
  rw [Int.abs_lt_one_iff, sub_eq_zero] at whole
  rw [whole]

/-- A value on a grid that lies below a multiple of the unit by less than the
unit's distance lies a whole unit below it. -/
theorem le_of_lt_add (first : OnGrid unit left) (second : OnGrid unit right)
    (near : left < right + 10 ^ unit) : left ≤ right := by
  rcases first with ⟨n, rfl⟩
  rcases second with ⟨m, rfl⟩
  have power : (0 : Rat) < 10 ^ unit := by positivity
  have bound : (n : Rat) < m + 1 := by
    by_contra large
    have := mul_le_mul_of_nonneg_right (not_lt.mp large) power.le
    linarith
  have whole : n ≤ m := by
    have : n < m + 1 := by exact_mod_cast bound
    omega
  exact mul_le_mul_of_nonneg_right (by exact_mod_cast whole) power.le

theorem abs (first : OnGrid unit left) : OnGrid unit |left| := by
  rcases abs_choice left with equal | equal
  · rw [equal]; exact first
  · rw [equal]; exact first.neg

end OnGrid

theorem onGrid_power {unit exponent : Int} (finer : unit ≤ exponent) :
    OnGrid unit ((10 : Rat) ^ exponent) :=
  ⟨10 ^ (exponent - unit).toNat, by rw [power_eq_mul finer]; push_cast; rfl⟩

end Decimal
end Daybook
