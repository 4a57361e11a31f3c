import Daybook.Proofs.Decimal.Quantize

namespace Daybook
namespace Decimal

/-!
# Whole numbers of units

An amount of money is a whole number of units, and what is done with it is meant as
arithmetic on these numbers.  The program computes with decimal numbers and rounds every
result.  As long as the whole numbers stay below what the digits hold, nothing is rounded
away: sums, differences, products and quotients are those of the whole numbers.  How a
number is written, with how many zeros behind the last place of the unit, does not matter.
-/

/-- Whether the digits hold every whole number of units up to a limit. -/
def Holds (unit : Int) (limit : Nat) : Prop :=
  ∀ count : Int, count.natAbs ≤ limit → ∃ fine, IsUnit fine ∧ Fits fine (count * 10 ^ unit)

/-- Whether a number is so many units. -/
def Amounts (unit count : Int) (d : Decimal) : Prop := d.value = count * 10 ^ unit

theorem abs_units_lt {count : Int} {size : Nat} (few : count.natAbs < 10 ^ size) (unit : Int) :
    |(count : Rat) * 10 ^ unit| < 10 ^ (unit + size) := by
  have power : (0 : Rat) < 10 ^ unit := by positivity
  have whole : |(count : Rat)| = (count.natAbs : Rat) := by
    rw [Nat.cast_natAbs, Int.cast_abs]
  rw [abs_mul, abs_of_pos power, whole, add_comm, zpow_add₀ (by norm_num), zpow_natCast]
  exact mul_lt_mul_of_pos_right (by exact_mod_cast few) power

/-- A sign does not change how many units there are. -/
theorem natAbs_signed {sign : Int} (signs : sign.natAbs = 1) (count : Nat) :
    (sign * count).natAbs = count := by
  rw [Int.natAbs_mul, signs, one_mul, Int.natAbs_natCast]

/-- Numbers of all digits are held, if the unit is none of the largest. -/
theorem holds_of_isUnit {unit : Int} (inside : IsUnit unit) : Holds unit (10 ^ ledger.digits - 1) := by
  intro count few
  have positive : 0 < 10 ^ ledger.digits := Nat.pow_pos (by decide)
  exact ⟨unit, inside, ⟨count, rfl⟩, abs_units_lt (by omega) unit⟩

/-- Numbers of one digit less are held in one larger unit, too. -/
theorem holds_of_le {unit : Int} (least : ledger.tiniest ≤ unit) (most : unit ≤ topUnit + 1) :
    Holds unit (10 ^ (ledger.digits - 1) - 1) := by
  intro count few
  have many : ledger.digits = 28 := rfl
  have positive : 0 < 10 ^ (ledger.digits - 1) := Nat.pow_pos (by decide)
  have below := abs_units_lt (by omega : count.natAbs < 10 ^ (ledger.digits - 1)) unit
  rcases le_or_gt unit topUnit with low | high
  · exact ⟨unit, ⟨least, low⟩, ⟨count, rfl⟩,
      below.trans (zpow_lt_zpow_right₀ (by norm_num) (by omega))⟩
  · have top : ledger.tiniest ≤ topUnit := by decide
    refine ⟨topUnit, ⟨top, le_rfl⟩, OnGrid.finer high.le ⟨count, rfl⟩,
      below.trans_le (zpow_le_zpow_right₀ (by norm_num) (by omega))⟩

namespace Amounts

variable {unit n m : Int} {limit : Nat} {a b : Decimal}

theorem abs_value (amounts : Amounts unit n a) : |a.value| = (n.natAbs : Rat) * 10 ^ unit := by
  have power : (0 : Rat) < 10 ^ unit := by positivity
  rw [amounts, abs_mul, abs_of_pos power, Nat.cast_natAbs, Int.cast_abs]

theorem zero (unit : Int) : Amounts unit 0 Decimal.zero := by
  rw [Amounts, value_zero, Int.cast_zero, zero_mul]

theorem isZero_iff (amounts : Amounts unit n a) : a.isZero = true ↔ n = 0 := by
  have power : (10 : Rat) ^ unit ≠ 0 := by positivity
  rw [Decimal.isZero_iff, amounts, mul_eq_zero, Int.cast_eq_zero]
  exact or_iff_left power

theorem single (unit : Int) : Amounts unit 1 ⟨false, 1, unit⟩ := by
  rw [Amounts, value_signed]
  simp

theorem exists_number (unit n : Int) : ∃ number, Amounts unit n number := by
  refine ⟨⟨decide (n < 0), n.natAbs, unit⟩, ?_⟩
  rw [Amounts, value_signed, ← mul_assoc]
  congr 1
  rcases lt_or_ge n 0 with below | above
  · rw [if_pos (decide_eq_true below), neg_one_mul, ← Int.cast_natCast, Int.ofNat_natAbs_of_nonpos below.le]
    push_cast
    ring
  · rw [if_neg (by simpa using above), one_mul, ← Int.cast_natCast, Int.natAbs_of_nonneg above]

/-- A number of units that is held is not rounded. -/
theorem round (holds : Holds unit limit) (amounts : Amounts unit n a) (few : n.natAbs ≤ limit) :
    ∃ rounded, Decimal.round ledger a = .ok rounded ∧ Amounts unit n rounded := by
  rcases holds n few with ⟨fine, inside, fits⟩
  rw [← amounts] at fits
  rcases round_of_fits inside fits with ⟨rounded, ok, same⟩
  exact ⟨rounded, ok, same.trans amounts⟩

theorem add (holds : Holds unit limit) (first : Amounts unit n a) (second : Amounts unit m b)
    (few : (n + m).natAbs ≤ limit) : ∃ sum, a.add b = .ok sum ∧ Amounts unit (n + m) sum := by
  refine round holds ?_ few
  rw [Amounts, value_exactSum, first, second, Int.cast_add, add_mul]

theorem flipped (amounts : Amounts unit n a) : Amounts unit (-n) a.flipped := by
  rw [Amounts, value_flipped, amounts, Int.cast_neg, neg_mul]

theorem sub (holds : Holds unit limit) (first : Amounts unit n a) (second : Amounts unit m b)
    (few : (n - m).natAbs ≤ limit) : ∃ rest, a.sub b = .ok rest ∧ Amounts unit (n - m) rest := by
  rw [sub_eq_add_neg] at few ⊢
  exact add holds first second.flipped few

theorem neg (holds : Holds unit limit) (amounts : Amounts unit n a) (few : n.natAbs ≤ limit) :
    ∃ opposite, a.neg = .ok opposite ∧ Amounts unit (-n) opposite := by
  refine round holds ?_ (by rwa [Int.natAbs_neg])
  rw [Amounts, value_negated, amounts, Int.cast_neg, neg_mul]

theorem abs (holds : Holds unit limit) (amounts : Amounts unit n a) (few : n.natAbs ≤ limit) :
    ∃ magnitude, a.abs = .ok magnitude ∧ Amounts unit n.natAbs magnitude := by
  refine round holds ?_ few
  rw [Amounts, value_unsigned, amounts.abs_value, Int.cast_natCast]

theorem mul (holds : Holds unit limit) (amounts : Amounts unit n a) (times : Nat)
    (few : (n * times).natAbs ≤ limit) :
    ∃ product, a.mul (ofNat times) = .ok product ∧ Amounts unit (n * times) product := by
  refine round holds ?_ few
  rw [Amounts, value_product, amounts, value_ofNat]
  push_cast
  ring

/-- How often a unit fits into so many units. -/
theorem wholeQuotient (amounts : Amounts unit n a) (single : Amounts unit 1 b)
    (few : n.natAbs < 10 ^ ledger.digits) : a.wholeQuotient b = .ok n.natAbs := by
  have power : (0 : Rat) < 10 ^ commonUnit a b := by positivity
  have size := single.abs_value
  have whole := amounts.abs_value
  rw [Int.natAbs_one, Nat.cast_one, one_mul] at size
  rw [← size, abs_value_eq_magnitudeIn a (min_le_left _ _ : commonUnit a b ≤ _),
    abs_value_eq_magnitudeIn b (min_le_right _ _ : commonUnit a b ≤ _), ← mul_assoc] at whole
  have product : magnitudeIn (commonUnit a b) a = n.natAbs * magnitudeIn (commonUnit a b) b := by
    exact_mod_cast mul_right_cancel₀ power.ne' whole
  have nonzero : b.isZero = false := by
    rw [← Bool.not_eq_true, single.isZero_iff]
    decide
  have positive : 0 < magnitudeIn (commonUnit a b) b := by
    rw [isZero, beq_eq_false_iff_ne] at nonzero
    exact Nat.mul_pos (Nat.pos_of_ne_zero nonzero) (Nat.pow_pos (by decide))
  unfold Decimal.wholeQuotient
  rw [if_neg (by rw [nonzero]; exact Bool.false_ne_true)]
  dsimp only
  rw [product, Nat.mul_div_cancel _ positive, if_neg (by rw [Nat.pow_eq]; omega)]

/-- Adding one number again and again, all of one sign. -/
theorem foldlM_replicate (holds : Holds unit limit) {sign : Int} (signs : sign.natAbs = 1)
    {before each times : Nat} {total number : Decimal} (start : Amounts unit (sign * before) total)
    (amounts : Amounts unit (sign * each) number) (few : before + times * each ≤ limit) :
    ∃ sum, (List.replicate times number).foldlM Decimal.add total = .ok sum ∧
      Amounts unit (sign * (before + times * each : Nat)) sum := by
  induction times generalizing before total with
  | zero => exact ⟨total, rfl, by rwa [Nat.zero_mul, Nat.add_zero]⟩
  | succ times ih =>
      have step : before + (times + 1) * each = before + each + times * each := by ring
      rw [step] at few ⊢
      have size : (sign * before + sign * each).natAbs ≤ limit := by
        rw [← mul_add, ← Nat.cast_add, natAbs_signed signs]
        omega
      rcases add holds start amounts size with ⟨next, added, next_amounts⟩
      rw [← mul_add, ← Nat.cast_add] at next_amounts
      rcases ih next_amounts few with ⟨sum, ok, sum_amounts⟩
      exact ⟨sum, by rw [List.replicate_succ, List.foldlM_cons, added]; exact ok, sum_amounts⟩

end Amounts

/-! ## Cutting off at the unit -/

/-- The sign of a number that is not on the wrong side of zero. -/
theorem signed_value {d : Decimal} {sign : Int} (signs : sign.natAbs = 1)
    (side : 0 ≤ (sign : Rat) * d.value) (nonzero : d.isZero = false) :
    (if d.negative then (-1 : Rat) else 1) = sign := by
  have positive : 0 < |d.value| := by
    rw [abs_pos]
    intro zero
    rw [(isZero_iff d).mpr zero] at nonzero
    cases nonzero
  have shape : d.value = (if d.negative then (-1 : Rat) else 1) * |d.value| := by
    rw [abs_value]
    rcases d with ⟨negative, coefficient, exponent⟩
    exact value_signed negative coefficient exponent
  rw [shape, ← mul_assoc] at side
  have same := nonneg_of_mul_nonneg_left side positive
  rcases Int.natAbs_eq sign with up | down
  · rw [up, signs] at same ⊢
    cases negative : d.negative with
    | false => simp
    | true => norm_num [negative] at same
  · rw [down, signs] at same ⊢
    cases negative : d.negative with
    | true => simp
    | false => norm_num [negative] at same

/-- A magnitude between so many units and one more has so many of them. -/
theorem rescaled_down_eq {d : Decimal} {unit : Int} {count : Nat}
    (lower : (count : Rat) * 10 ^ unit ≤ |d.value|)
    (upper : |d.value| < ((count : Rat) + 1) * 10 ^ unit) : rescaled .down unit d = count := by
  have power : (0 : Rat) < 10 ^ unit := by positivity
  have cut := value_cutOff d unit
  have triangle := abs_sub_abs_le_abs_sub d.value (value ⟨d.negative, rescaled .down unit d, unit⟩)
  have magnitude := abs_value ⟨d.negative, rescaled .down unit d, unit⟩
  have above : (count : Rat) * 10 ^ unit < ((rescaled .down unit d : Rat) + 1) * 10 ^ unit := by
    linarith
  have below : (rescaled .down unit d : Rat) * 10 ^ unit < ((count : Rat) + 1) * 10 ^ unit := by
    linarith
  rw [mul_lt_mul_iff_left₀ power] at above below
  have one : count < rescaled .down unit d + 1 := by exact_mod_cast above
  have two : rescaled .down unit d < count + 1 := by exact_mod_cast below
  omega

/-- A number between so many units and one more is cut off at so many. -/
theorem quantize_down {d : Decimal} {unit sign : Int} {count : Nat} (least : ledger.tiniest ≤ unit)
    (most : unit ≤ topUnit + 1) (signs : sign.natAbs = 1) (few : count < 10 ^ (ledger.digits - 1))
    (lower : (count : Rat) * 10 ^ unit ≤ sign * d.value)
    (upper : sign * d.value < ((count : Rat) + 1) * 10 ^ unit) :
    ∃ cut, d.quantize .down unit = .ok cut ∧ Amounts unit (sign * count) cut := by
  have power : (0 : Rat) < 10 ^ unit := by positivity
  have large : ledger.largest = 999999 := rfl
  have many : ledger.digits = 28 := rfl
  have top : topUnit = 999972 := rfl
  have side : 0 ≤ (sign : Rat) * d.value := le_trans (by positivity) lower
  have size : sign * d.value = |d.value| := by
    rw [← abs_of_nonneg side, abs_mul, ← Int.cast_abs, Int.abs_eq_natAbs, signs]
    simp
  rw [size] at lower upper
  have kept := rescaled_down_eq lower upper
  unfold quantize
  rw [if_neg (by omega)]
  split
  · rename_i zero
    refine ⟨_, rfl, ?_⟩
    rw [(isZero_iff d).mp zero, abs_zero] at lower
    have nothing : count = 0 := by
      have := nonpos_of_mul_nonpos_left lower power
      exact_mod_cast le_antisymm this (by positivity)
    rw [nothing, Amounts, Nat.cast_zero, mul_zero, Int.cast_zero, zero_mul, value_eq_zero_iff]
    exact (value_eq_zero_iff d).mp ((isZero_iff d).mp zero)
  · rename_i nonzero
    have coefficient : d.coefficient ≠ 0 := fun zero => nonzero (by rw [isZero, zero]; rfl)
    have first := (power_le_abs_value coefficient).trans_lt upper
    have room : ((count : Rat) + 1) * 10 ^ unit ≤ 10 ^ (unit + 27) := by
      rw [add_comm unit, zpow_add₀ (by norm_num)]
      refine mul_le_mul_of_nonneg_right ?_ power.le
      exact_mod_cast few
    have leading := first.trans_le room
    rw [zpow_lt_zpow_iff_right₀ (by norm_num)] at leading
    have short : digitCount count ≤ 27 := digitCount_le (by decide) few
    rw [if_neg (by omega), kept]
    dsimp only
    rw [if_neg (by omega)]
    refine ⟨_, rfl, ?_⟩
    rw [Amounts, value_signed, signed_value signs side (by simpa using nonzero)]
    push_cast
    ring

end Decimal
end Daybook
