import Daybook.Proofs.Decimal.Rounding
import Mathlib.Data.Nat.Cast.Field

namespace Daybook
namespace Decimal

/-!
# Quotients are rounded like any other result

A quotient need not have an end.  The program forms one digit more than it keeps and, if
something is left over, makes sure that the last digit is neither a nought nor a five.
Rounding asks only on which side of multiples of five the quotient lies, so that it gives
for the marked quotient what it would give for the exact one.
-/

/-- Whether two values lie alike to all multiples of five units. -/
def Alike (unit : Int) (left right : Rat) : Prop :=
  ∀ count : Int, (count * (5 * 10 ^ unit) ≤ left ↔ count * (5 * 10 ^ unit) ≤ right) ∧
    (left ≤ count * (5 * 10 ^ unit) ↔ right ≤ count * (5 * 10 ^ unit))

namespace Alike

variable {unit coarse : Int} {left right : Rat}

theorem neg (alike : Alike unit left right) : Alike unit (-left) (-right) := by
  intro count
  have opposite := alike (-count)
  push_cast at opposite
  rw [neg_mul] at opposite
  constructor
  · rw [le_neg, le_neg (b := right)]
    exact opposite.2
  · rw [neg_le, neg_le (a := right)]
    exact opposite.1

/-- Half of a coarser unit is a multiple of five units. -/
theorem half_power (coarser : unit < coarse) :
    (10 : Rat) ^ coarse = 2 * 10 ^ (coarse - unit - 1).toNat * (5 * 10 ^ unit) := by
  have tenth : unit + 1 ≤ coarse := coarser
  rw [power_eq_mul tenth, zpow_add_one₀ (by norm_num), Int.sub_sub]
  ring

theorem half_units (coarser : unit < coarse) (halves : Int) :
    ∃ count : Int, (halves : Rat) * (10 ^ coarse / 2) = count * (5 * 10 ^ unit) := by
  refine ⟨halves * 10 ^ (coarse - unit - 1).toNat, ?_⟩
  rw [half_power coarser]
  push_cast
  ring

theorem le_iff (alike : Alike unit left right) (coarser : unit < coarse) (halves : Int) :
    (halves : Rat) * (10 ^ coarse / 2) ≤ left ↔ (halves : Rat) * (10 ^ coarse / 2) ≤ right := by
  rcases half_units coarser halves with ⟨count, same⟩
  rw [same]
  exact (alike count).1

theorem ge_iff (alike : Alike unit left right) (coarser : unit < coarse) (halves : Int) :
    left ≤ (halves : Rat) * (10 ^ coarse / 2) ↔ right ≤ (halves : Rat) * (10 ^ coarse / 2) := by
  rcases half_units coarser halves with ⟨count, same⟩
  rw [same]
  exact (alike count).2

/-- The two values have as many digits. -/
theorem abs_lt_iff (alike : Alike unit left right) (coarser : unit < coarse) :
    |left| < 10 ^ coarse ↔ |right| < 10 ^ coarse := by
  have above := alike.le_iff coarser 2
  have below := alike.ge_iff coarser (-2)
  push_cast at above below
  rw [mul_div_cancel₀ _ (by norm_num)] at above
  rw [neg_mul, mul_div_cancel₀ _ (by norm_num)] at below
  rw [abs_lt, abs_lt, ← not_le, ← not_le, ← not_le, ← not_le, below, above]

/-- Neither value is above the greatest number if the other is not. -/
theorem abs_le_greatest_iff (alike : Alike unit left right) (finer : unit < topUnit) :
    |left| ≤ greatest ↔ |right| ≤ greatest := by
  have halves : ((2 * (10 ^ ledger.digits - 1) : Int) : Rat) * (10 ^ topUnit / 2) = greatest := by
    rw [greatest]
    push_cast
    ring
  have above := alike.ge_iff finer (2 * (10 ^ ledger.digits - 1))
  have below := alike.le_iff finer (-(2 * (10 ^ ledger.digits - 1)))
  rw [Int.cast_neg, neg_mul, halves] at below
  rw [halves] at above
  rw [abs_le, abs_le, above, below]

theorem isRoundingUnit (alike : Alike unit left right) (coarser : unit < coarse)
    (rounds : IsRoundingUnit left coarse) : IsRoundingUnit right coarse := by
  rcases rounds with ⟨least, below, size⟩
  have many : ledger.digits = 28 := rfl
  refine ⟨least, (alike.abs_lt_iff (by omega)).mp below, size.imp_right fun large => ?_⟩
  exact not_lt.mp fun less => not_lt.mpr large ((alike.abs_lt_iff (by omega)).mpr less)

/-- A nearest multiple of a coarser unit is nearest to both. -/
theorem isNearest {rounded : Rat} (alike : Alike unit left right) (coarser : unit < coarse)
    (nearest : IsNearest coarse left rounded) : IsNearest coarse right rounded := by
  rcases nearest with ⟨units, rfl, near, even⟩
  have lower : ((2 * units - 1 : Int) : Rat) * (10 ^ coarse / 2) =
      units * 10 ^ coarse - 10 ^ coarse / 2 := by push_cast; ring
  have upper : ((2 * units + 1 : Int) : Rat) * (10 ^ coarse / 2) =
      units * 10 ^ coarse + 10 ^ coarse / 2 := by push_cast; ring
  have from_below := alike.le_iff coarser (2 * units - 1)
  have from_above := alike.ge_iff coarser (2 * units + 1)
  have at_below := alike.ge_iff coarser (2 * units - 1)
  have at_above := alike.le_iff coarser (2 * units + 1)
  rw [lower] at from_below at_below
  rw [upper] at from_above at_above
  have bounds := abs_le.mp (by linarith : |(units : Rat) * 10 ^ coarse - left| ≤ 10 ^ coarse / 2)
  have first := from_below.mp (by linarith)
  have second := from_above.mp (by linarith)
  refine ⟨units, rfl, ?_, ?_⟩
  · have : |(units : Rat) * 10 ^ coarse - right| ≤ 10 ^ coarse / 2 :=
      abs_le.mpr ⟨by linarith, by linarith⟩
    linarith
  · intro tie
    apply even
    -- A value in the middle between two multiples is met exactly by the other one.
    have half : (0 : Rat) ≤ 10 ^ coarse / 2 := by positivity
    rcases (abs_eq half).mp (by linarith : |(units : Rat) * 10 ^ coarse - right| = 10 ^ coarse / 2)
      with above | below
    · have same : left = units * 10 ^ coarse - 10 ^ coarse / 2 :=
        le_antisymm (at_below.mpr (by linarith)) (by linarith)
      rw [same, sub_sub_cancel, abs_of_nonneg half]
      ring
    · have same : left = units * 10 ^ coarse + 10 ^ coarse / 2 :=
        le_antisymm (by linarith) (at_above.mpr (by linarith))
      rw [same, sub_add_cancel_left, abs_neg, abs_of_nonneg half]
      ring

end Alike

/-! ## The marked quotient -/

/-- The whole part of a quotient with something left over, marked in its last digit. -/
def marked (quotient : Nat) : Nat := if quotient % 5 = 0 then quotient + 1 else quotient

/-- A quotient that does not come out even lies strictly between its whole part and the next
number. -/
theorem compare_quotient {dividend divisor : Nat} (positive : 0 < divisor)
    (rest : dividend % divisor ≠ 0) (bound : Int) :
    ((bound : Rat) ≤ (dividend : Rat) / divisor ↔ bound ≤ (dividend / divisor : Nat)) ∧
      ((dividend : Rat) / divisor ≤ bound ↔ ((dividend / divisor : Nat) : Int) < bound) := by
  have size : (0 : Rat) < divisor := by exact_mod_cast positive
  have parts := Nat.div_add_mod dividend divisor
  have less := Nat.mod_lt dividend positive
  rw [le_div_iff₀ size, div_le_iff₀ size]
  generalize dividend / divisor = quotient at *
  generalize dividend % divisor = remainder at *
  subst parts
  constructor
  · constructor
    · intro reached
      have whole : bound * divisor ≤ divisor * quotient + remainder := by exact_mod_cast reached
      by_contra beyond
      have : (quotient + 1) * (divisor : Int) ≤ bound * divisor :=
        mul_le_mul_of_nonneg_right (by omega) (by omega)
      linarith [(by exact_mod_cast less : (remainder : Int) < divisor)]
    · intro within
      have : bound * divisor ≤ (quotient : Int) * divisor := mul_le_mul_of_nonneg_right within (by omega)
      have whole : bound * divisor ≤ divisor * quotient + remainder := by
        linarith [(by omega : (0 : Int) ≤ remainder)]
      exact_mod_cast whole
  · constructor
    · intro reached
      have whole : divisor * quotient + remainder ≤ bound * divisor := by exact_mod_cast reached
      by_contra within
      have : bound * divisor ≤ (quotient : Int) * divisor :=
        mul_le_mul_of_nonneg_right (by omega) (by omega)
      have some_left : (0 : Int) < remainder := by omega
      linarith
    · intro beyond
      have : (quotient + 1) * (divisor : Int) ≤ bound * divisor :=
        mul_le_mul_of_nonneg_right (by omega) (by omega)
      have whole : divisor * quotient + remainder ≤ bound * divisor := by
        linarith [(by exact_mod_cast less : (remainder : Int) < divisor)]
      exact_mod_cast whole

/-- The marked quotient lies like the exact one. -/
theorem alike_marked {dividend divisor : Nat} (positive : 0 < divisor)
    (rest : dividend % divisor ≠ 0) (unit : Int) :
    Alike unit (marked (dividend / divisor) * 10 ^ unit)
      ((dividend : Rat) / divisor * 10 ^ unit) := by
  have power : (0 : Rat) < 10 ^ unit := by positivity
  intro count
  have exact_ := compare_quotient positive rest (count * 5)
  rw [Int.cast_mul, Int.cast_ofNat] at exact_
  rw [← mul_assoc, mul_le_mul_iff_left₀ power, mul_le_mul_iff_left₀ power,
    mul_le_mul_iff_left₀ power, mul_le_mul_iff_left₀ power, exact_.1, exact_.2]
  generalize dividend / divisor = quotient
  have marked_side : (count * 5 ≤ (marked quotient : Int) ↔ count * 5 ≤ quotient) ∧
      ((marked quotient : Int) ≤ count * 5 ↔ (quotient : Int) < count * 5) := by
    unfold marked
    split <;> omega
  rw [← marked_side.1, ← marked_side.2]
  exact ⟨by norm_cast, by norm_cast⟩

/-- Moving zeros into the exponent keeps the value. -/
theorem value_trimZeros (ideal : Int) (fuel coefficient : Nat) (exponent : Int) :
    ((trimZeros ideal fuel coefficient exponent).1 : Rat) *
      10 ^ (trimZeros ideal fuel coefficient exponent).2 = coefficient * 10 ^ exponent := by
  induction fuel generalizing coefficient exponent with
  | zero => rfl
  | succ fuel ih =>
      rw [trimZeros]
      split
      · rename_i trims
        have tens : coefficient = coefficient / 10 * 10 := by omega
        rw [ih, zpow_add_one₀ (by norm_num), mul_comm _ (10 : Rat), ← mul_assoc]
        congr 1
        exact_mod_cast tens.symm
      · rfl

/-! ## The program -/

/-- The coefficients are shifted against each other so far that the whole part of the quotient
has a digit more than is kept. -/
theorem pow_digits_le_quotient {dividend divisor : Nat} (first : dividend ≠ 0) (second : divisor ≠ 0)
    {shift : Int}
    (shifted : shift = (digitCount divisor : Int) - digitCount dividend + ledger.digits + 1) :
    10 ^ ledger.digits ≤ dividend * Nat.pow 10 shift.toNat / (divisor * Nat.pow 10 (-shift).toNat) := by
  have least := pow_digitCount_le (Nat.pos_of_ne_zero first)
  have most := lt_pow_digitCount divisor
  have one : 1 ≤ digitCount dividend := by
    rw [digitCount]; split <;> omega
  have many : ledger.digits = 28 := rfl
  rw [Nat.pow_eq, Nat.pow_eq, Nat.le_div_iff_mul_le (by positivity)]
  calc 10 ^ ledger.digits * (divisor * 10 ^ (-shift).toNat)
      ≤ 10 ^ ledger.digits * (10 ^ digitCount divisor * 10 ^ (-shift).toNat) :=
        Nat.mul_le_mul_left _ (Nat.mul_le_mul_right _ most.le)
    _ = 10 ^ (digitCount dividend - 1) * 10 ^ shift.toNat := by
        rw [← Nat.pow_add, ← Nat.pow_add, ← Nat.pow_add]
        congr 1
        omega
    _ ≤ dividend * 10 ^ shift.toNat := Nat.mul_le_mul_right _ least

/-- The exact quotient in terms of what is divided. -/
theorem div_value_eq (a b : Decimal) (shift : Int) :
    a.value / b.value = (if a.negative != b.negative then -1 else 1) *
      (((a.coefficient * Nat.pow 10 shift.toNat : Nat) : Rat) /
        (b.coefficient * Nat.pow 10 (-shift).toNat : Nat) * 10 ^ (a.exponent - b.exponent - shift)) := by
  have shifted : (10 : Rat) ^ (a.exponent - b.exponent - shift) =
      10 ^ (-shift).toNat * 10 ^ a.exponent / (10 ^ shift.toNat * 10 ^ b.exponent) := by
    rw [← zpow_natCast, ← zpow_natCast, ← zpow_add₀ (by norm_num), ← zpow_add₀ (by norm_num),
      ← zpow_sub₀ (by norm_num)]
    congr 1
    omega
  rcases a with ⟨first, dividend, exponent⟩
  rcases b with ⟨second, divisor, other⟩
  rw [value_signed, value_signed, shifted, Nat.pow_eq, Nat.pow_eq]
  push_cast
  have one : (10 : Rat) ^ shift.toNat ≠ 0 := by positivity
  have two : (10 : Rat) ^ (-shift).toNat ≠ 0 := by positivity
  rcases eq_or_ne (divisor : Rat) 0 with zero | nonzero
  · simp [zero]
  · have three : (10 : Rat) ^ other ≠ 0 := by positivity
    cases first <;> cases second <;> simp <;> field_simp

/-- Dividing rounds the exact quotient, or a number that lies like it and has more digits than
are kept. -/
theorem div_eq_round {a b : Decimal} (divides : b.isZero = false) :
    ∃ d, a.div b = round ledger d ∧
      (d.value = a.value / b.value ∨
        ∃ unit, Alike unit d.value (a.value / b.value) ∧
          (10 : Rat) ^ (unit + ledger.digits) ≤ |d.value|) := by
  have divisor : b.coefficient ≠ 0 := by
    intro zero
    rw [isZero, zero] at divides
    cases divides
  unfold div
  rw [if_neg (by rw [divides]; exact Bool.false_ne_true)]
  split
  · rename_i zero
    refine ⟨_, rfl, Or.inl ?_⟩
    rw [(isZero_iff a).mp zero, zero_div]
    exact (value_eq_zero_iff _).mpr rfl
  · rename_i nonzero
    have dividend : a.coefficient ≠ 0 := fun zero => nonzero (by rw [isZero, zero]; rfl)
    dsimp only
    generalize shifted :
      (digitCount b.coefficient : Int) - digitCount a.coefficient + ledger.digits + 1 = shift
    have exact_ := div_value_eq a b shift
    have digits := pow_digits_le_quotient dividend divisor shifted.symm
    have positive : 0 < b.coefficient * Nat.pow 10 (-shift).toNat :=
      Nat.mul_pos (Nat.pos_of_ne_zero divisor) (Nat.pow_pos (by decide))
    generalize a.coefficient * Nat.pow 10 shift.toNat = upper at *
    generalize b.coefficient * Nat.pow 10 (-shift).toNat = lower at *
    generalize a.exponent - b.exponent = ideal at *
    split
    · rename_i even
      refine ⟨_, rfl, Or.inl ?_⟩
      rw [value_signed, value_trimZeros, exact_]
      congr 2
      rw [Nat.cast_div (Nat.dvd_of_mod_eq_zero even) (by exact_mod_cast positive.ne')]
    · rename_i rest
      have alike := alike_marked positive rest (ideal - shift)
      refine ⟨⟨a.negative != b.negative, marked (upper / lower), ideal - shift⟩, rfl,
        Or.inr ⟨ideal - shift, ?_, ?_⟩⟩
      · rw [value_signed, exact_]
        split
        · simpa using alike.neg
        · simpa using alike
      · rw [abs_value, add_comm, zpow_add₀ (by norm_num), zpow_natCast]
        refine mul_le_mul_of_nonneg_right ?_ (by positivity)
        have more : upper / lower ≤ marked (upper / lower) := by
          unfold marked; split <;> omega
        exact_mod_cast digits.trans more

/-- A quotient is the exact one rounded. -/
theorem div_value {a b quotient : Decimal} (divides : b.isZero = false)
    (ok : a.div b = .ok quotient) :
    ∃ unit, IsRoundingUnit (a.value / b.value) unit ∧
      IsNearest unit (a.value / b.value) quotient.value := by
  rcases div_eq_round (a := a) divides with ⟨d, same, equal | ⟨fine, alike, digits⟩⟩
  · rw [same] at ok
    exact equal ▸ round_value ok
  · rw [same] at ok
    rcases round_value ok with ⟨unit, kept, nearest⟩
    have coarser : fine < unit := by
      have between := digits.trans_lt kept.2.1
      rw [zpow_lt_zpow_iff_right₀ (by norm_num)] at between
      omega
    exact ⟨unit, alike.isRoundingUnit coarser kept, alike.isNearest coarser nearest⟩

/-- There is a quotient if it is not above the greatest number. -/
theorem exists_div {a b : Decimal} (divides : b.isZero = false)
    (small : |a.value / b.value| ≤ greatest) : ∃ quotient, a.div b = .ok quotient := by
  rcases div_eq_round (a := a) divides with ⟨d, same, equal | ⟨fine, alike, digits⟩⟩
  · rw [same]
    apply exists_round_of_le
    rwa [equal]
  · rw [same]
    apply exists_round_of_le
    have many : ledger.digits = 28 := rfl
    have finer : fine < topUnit := by
      by_contra coarser
      have large : (10 : Rat) ^ (topUnit + ledger.digits) ≤ 10 ^ (fine + ledger.digits) :=
        zpow_le_zpow_right₀ (by norm_num) (by omega)
      have less := (alike.abs_lt_iff (by omega)).mpr (small.trans_lt (greatest_lt.trans_le large))
      exact absurd digits (not_le.mpr less)
    exact (alike.abs_le_greatest_iff finer).mpr small

end Decimal
end Daybook
