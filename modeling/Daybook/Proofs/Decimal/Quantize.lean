import Daybook.Proofs.Decimal.Arithmetic

namespace Daybook
namespace Decimal

/-!
# Numbers with a fixed number of decimals

A number that is shown has one of the units that a currency can have and no more
digits than are kept.  Quantizing gives such a number and leaves it alone, and so
does rounding; on the grid of the unit nothing is lost on the way.
-/

/-- Whether a number has a unit that a currency can have, and no more digits than
are kept. -/
structure IsShown (unit : Int) (d : Decimal) : Prop where
  exponent : d.exponent = unit
  digits : digitCount d.coefficient ≤ ledger.digits
  least : ledger.tiniest ≤ unit
  most : unit ≤ 0

namespace IsShown

variable {unit : Int} {d : Decimal}

theorem withSign (shown : IsShown unit d) (negative : Bool) :
    IsShown unit { d with negative := negative } :=
  ⟨shown.exponent, shown.digits, shown.least, shown.most⟩

theorem onGrid (shown : IsShown unit d) : OnGrid unit d.value :=
  shown.exponent ▸ OnGrid.ofValue d

theorem within (shown : IsShown unit d) : Within 28 d := by
  have few : (d.coefficient : Rat) ≤ 10 ^ (28 : Nat) := by
    exact_mod_cast ((lt_pow_digitCount d.coefficient).le.trans
      (Nat.pow_le_pow_right (by decide) shown.digits) : d.coefficient ≤ 10 ^ 28)
  have small : (10 : Rat) ^ d.exponent ≤ 1 :=
    zpow_le_one_of_nonpos₀ (by norm_num) (shown.exponent ▸ shown.most)
  rw [Within, abs_value]
  calc (d.coefficient : Rat) * 10 ^ d.exponent ≤ 10 ^ (28 : Nat) * 1 :=
        mul_le_mul few small (by positivity) (by positivity)
    _ = 10 ^ (28 : Int) := by norm_num

theorem fits (shown : IsShown unit d) : Fits unit d.value := by
  refine ⟨shown.onGrid, ?_⟩
  have few := (lt_pow_digitCount d.coefficient).trans_le (Nat.pow_le_pow_right (by decide) shown.digits)
  rw [abs_value, shown.exponent, add_comm, zpow_add₀ (by norm_num), zpow_natCast]
  exact mul_lt_mul_of_pos_right (by exact_mod_cast few) (by positivity)

/-- A shown number is within the bounds. -/
theorem round_eq (shown : IsShown unit d) : round ledger d = .ok d := by
  rcases shown with ⟨same, digits, least, most⟩
  have bounds : ledger.tiniest ≤ d.exponent ∧ d.exponent ≤ 0 := same ▸ ⟨least, most⟩
  have large : ledger.largest = 999999 := rfl
  have many : ledger.digits = 28 := rfl
  rw [many] at digits
  unfold round
  split
  · rw [min_eq_left (by omega), max_eq_right bounds.1]
  · dsimp only
    rw [large, many, if_neg (by omega), if_pos (max_le (by omega) bounds.1)]

theorem quantize_eq (shown : IsShown unit d) (mode : Rounding) : d.quantize mode unit = .ok d := by
  rcases shown with ⟨same, digits, least, most⟩
  have large : ledger.largest = 999999 := rfl
  have rescaled_eq : rescaled mode unit d = d.coefficient := by
    rw [rescaled, if_pos same.ge, magnitudeIn_eq, same, sub_self]
    exact Nat.mul_one _
  have many : ledger.digits = 28 := rfl
  rw [many] at digits
  unfold quantize
  rw [if_neg (by omega)]
  split
  · rw [← same]
  · rw [many, large, if_neg (by unfold leading; omega), rescaled_eq, if_neg (by omega), ← same]

theorem abs_eq (shown : IsShown unit d) : d.abs = .ok { d with negative := false } :=
  (shown.withSign false).round_eq

end IsShown

theorem rescaled_of_isZero {d : Decimal} (zero : d.isZero = true) (mode : Rounding) (unit : Int) :
    rescaled mode unit d = 0 := by
  rw [isZero, beq_iff_eq] at zero
  rw [rescaled, magnitudeIn_eq, zero, Nat.zero_mul]
  cases mode with
  | down => simp [dropDigits]
  | halfEven => simp [dropDigits]

/-- What quantizing gives has the coefficient over the unit, and that is not too long. -/
theorem quantize_eq_ok {d shown : Decimal} {mode : Rounding} {unit : Int}
    (ok : d.quantize mode unit = .ok shown) :
    shown = ⟨d.negative, rescaled mode unit d, unit⟩ ∧ ledger.tiniest ≤ unit ∧
      digitCount (rescaled mode unit d) ≤ ledger.digits := by
  unfold quantize at ok
  split at ok
  · cases ok
  · rename_i inside
    rw [not_or, not_lt] at inside
    split at ok
    · rename_i zero
      have nothing := rescaled_of_isZero zero mode unit
      rw [isZero, beq_iff_eq] at zero
      rw [← Except.ok.inj ok, nothing, zero]
      exact ⟨rfl, inside.1, by rw [digitCount]; decide⟩
    · split at ok
      · cases ok
      · dsimp only at ok
        split at ok
        · cases ok
        · rename_i fits
          rw [not_or, not_lt] at fits
          exact ⟨(Except.ok.inj ok).symm, inside.1, fits.1⟩

/-- What quantizing gives is shown. -/
theorem isShown_of_quantize {d shown : Decimal} {mode : Rounding} {unit : Int} (most : unit ≤ 0)
    (ok : d.quantize mode unit = .ok shown) : IsShown unit shown := by
  rcases quantize_eq_ok ok with ⟨rfl, least, short⟩
  exact ⟨rfl, short, least, most⟩

/-! ## The sign -/

theorem negative_of_round {d rounded : Decimal} (ok : round ledger d = .ok rounded) :
    rounded.negative = d.negative := by
  have rounds := rounds_round d
  rw [ok] at rounds
  cases rounds with
  | zero zero => rfl
  | whole nonzero small fine => rfl
  | dropped nonzero small coarse short => rfl
  | carried nonzero small coarse carry room => rfl

theorem negative_of_abs {d magnitude : Decimal} (ok : d.abs = .ok magnitude) : magnitude.negative = false :=
  negative_of_round ok

theorem negative_of_quantize {d shown : Decimal} {mode : Rounding} {unit : Int}
    (ok : d.quantize mode unit = .ok shown) : shown.negative = d.negative := by
  rw [(quantize_eq_ok ok).1]

/-! ## Nearest values -/

/-- The coefficient of a number over another unit belongs to a nearest value. -/
theorem isNearest_rescaled (d : Decimal) (unit : Int) :
    IsNearest unit d.value (value ⟨d.negative, rescaled .halfEven unit d, unit⟩) := by
  have power : (0 : Rat) < 10 ^ unit := by positivity
  rw [rescaled]
  split
  · rename_i finer
    have same : value ⟨d.negative, magnitudeIn unit d, unit⟩ = d.value := by
      rw [value_signed, value_signed, magnitudeIn_eq, power_eq_mul finer]
      push_cast
      ring
    rw [same]
    exact .self ((OnGrid.ofValue d).finer finer)
  · rename_i coarser
    exact isNearest_dropDigits d (not_le.mp coarser).le

/-- Quantizing half-even gives a nearest value. -/
theorem isNearest_quantize {d shown : Decimal} {unit : Int}
    (ok : d.quantize .halfEven unit = .ok shown) : IsNearest unit d.value shown.value := by
  rw [(quantize_eq_ok ok).1]
  exact isNearest_rescaled d unit

/-- On the grid of the unit quantizing changes no value. -/
theorem value_quantize {d shown : Decimal} {unit : Int} (grid : OnGrid unit d.value)
    (ok : d.quantize .halfEven unit = .ok shown) : shown.value = d.value :=
  (isNearest_quantize ok).eq_of_onGrid grid

/-- Quantizing half-even fails only on numbers that come out with too many digits. -/
theorem quantize_eq_error {d : Decimal} {unit : Int} {signal : Signal} (least : ledger.tiniest ≤ unit)
    (most : unit ≤ 0) (failed : d.quantize .halfEven unit = .error signal) :
    signal = .invalidOperation ∧
      (10 : Rat) ^ (unit + ledger.digits) ≤ |d.value| + 10 ^ unit / 2 := by
  have power : (0 : Rat) < 10 ^ unit := by positivity
  have large : ledger.largest = 999999 := rfl
  have many : ledger.digits = 28 := rfl
  unfold quantize at failed
  rw [if_neg (by omega)] at failed
  split at failed
  · cases failed
  · rename_i nonzero
    have coefficient : d.coefficient ≠ 0 := fun zero => nonzero (by rw [isZero, zero]; rfl)
    split at failed
    · rename_i long
      refine ⟨(Except.error.inj failed).symm, ?_⟩
      have first : (10 : Rat) ^ (unit + ledger.digits) ≤ 10 ^ d.leading :=
        zpow_le_zpow_right₀ (by norm_num) (by omega)
      linarith [power_le_abs_value coefficient]
    · dsimp only at failed
      split at failed
      · rename_i long
        refine ⟨(Except.error.inj failed).symm, ?_⟩
        obtain ⟨-, -, near, -⟩ := isNearest_rescaled d unit
        have digits : 10 ^ ledger.digits ≤ rescaled .halfEven unit d := by
          by_contra short
          have := digitCount_le (by decide) (not_le.mp short)
          omega
        have size : (10 : Rat) ^ (unit + ledger.digits) ≤
            |value ⟨d.negative, rescaled .halfEven unit d, unit⟩| := by
          rw [abs_value, add_comm, zpow_add₀ (by norm_num), zpow_natCast]
          exact mul_le_mul_of_nonneg_right (by exact_mod_cast digits) power.le
        have triangle := abs_sub_abs_le_abs_sub
          (value ⟨d.negative, rescaled .halfEven unit d, unit⟩) d.value
        linarith
      · cases failed

/-! ## Cutting digits off -/

/-- The digits that are left when a number is cut off at a unit. -/
theorem value_cutOff (d : Decimal) (unit : Int) :
    |value ⟨d.negative, rescaled .down unit d, unit⟩| ≤ |d.value| ∧
      |d.value - value ⟨d.negative, rescaled .down unit d, unit⟩| < 10 ^ unit := by
  have power : (0 : Rat) < 10 ^ d.exponent := by positivity
  have unit_power : (0 : Rat) < 10 ^ unit := by positivity
  have magnitude : (0 : Rat) ≤ d.coefficient * 10 ^ d.exponent - rescaled .down unit d * 10 ^ unit ∧
      d.coefficient * 10 ^ d.exponent - rescaled .down unit d * 10 ^ unit < (10 : Rat) ^ unit := by
    unfold rescaled
    split
    · rename_i finer
      rw [magnitudeIn_eq, power_eq_mul finer]
      push_cast
      rw [mul_assoc, sub_self]
      exact ⟨le_rfl, unit_power⟩
    · rename_i coarser
      rw [power_eq_mul (not_le.mp coarser).le]
      generalize (unit - d.exponent).toNat = count
      rw [show dropDigits .down d.coefficient count = d.coefficient / 10 ^ count from rfl]
      have parts := Nat.div_add_mod d.coefficient (10 ^ count)
      have small := Nat.mod_lt d.coefficient (Nat.pow_pos (n := count) (Nat.succ_pos 9))
      generalize d.coefficient / 10 ^ count = quotient at *
      generalize d.coefficient % 10 ^ count = dropped at *
      have whole : (d.coefficient : Rat) = 10 ^ count * quotient + dropped := by
        exact_mod_cast parts.symm
      have less : (dropped : Rat) < 10 ^ count := by exact_mod_cast small
      have rest : (d.coefficient : Rat) * 10 ^ d.exponent -
          quotient * (10 ^ count * 10 ^ d.exponent) = dropped * 10 ^ d.exponent := by
        rw [whole]; ring
      rw [rest]
      exact ⟨by positivity, mul_lt_mul_of_pos_right less power⟩
  have difference : |d.value - value ⟨d.negative, rescaled .down unit d, unit⟩| =
      |(d.coefficient : Rat) * 10 ^ d.exponent - rescaled .down unit d * 10 ^ unit| := by
    generalize rescaled .down unit d = kept
    rcases d with ⟨negative, coefficient, exponent⟩
    rw [value_signed, value_signed, ← mul_sub, abs_mul]
    cases negative <;> simp
  rw [difference, abs_of_nonneg magnitude.1, abs_value, abs_value]
  exact ⟨by linarith [magnitude.1], magnitude.2⟩

/-- A number with few enough digits before the unit can be cut off there. -/
theorem exists_cutOff {d : Decimal} {unit : Int} (least : ledger.tiniest ≤ unit) (most : unit ≤ 0)
    (below : |d.value| < 10 ^ (unit + ledger.digits)) :
    ∃ cut, d.quantize .down unit = .ok cut ∧ |cut.value| ≤ |d.value| ∧
      |d.value - cut.value| < 10 ^ unit := by
  have power : (0 : Rat) < 10 ^ unit := by positivity
  have large : ledger.largest = 999999 := rfl
  have many : ledger.digits = 28 := rfl
  unfold quantize
  rw [if_neg (by omega)]
  split
  · rename_i zero
    have nothing : value { d with exponent := unit } = 0 :=
      (value_eq_zero_iff _).mpr ((value_eq_zero_iff d).mp ((isZero_iff d).mp zero))
    refine ⟨_, rfl, ?_⟩
    rw [nothing, (isZero_iff d).mp zero]
    exact ⟨le_rfl, by simpa using power⟩
  · rename_i nonzero
    have coefficient : d.coefficient ≠ 0 := fun zero => nonzero (by rw [isZero, zero]; rfl)
    have first := (power_le_abs_value coefficient).trans_lt below
    rw [zpow_lt_zpow_iff_right₀ (by norm_num)] at first
    rw [if_neg (by omega)]
    have cut := value_cutOff d unit
    have short : digitCount (rescaled .down unit d) ≤ ledger.digits := by
      have within := cut.1.trans_lt below
      rw [abs_value, add_comm, zpow_add₀ (by norm_num), zpow_natCast,
        mul_lt_mul_iff_left₀ power] at within
      exact digitCount_le (by decide) (by exact_mod_cast within)
    dsimp only
    rw [if_neg (by omega)]
    exact ⟨_, rfl, cut⟩

/-! ## Units of currencies -/

/-- The unit of a currency whose decimals the exponents can count. -/
theorem smallestUnit_of_inside {precision : Int} (coarse : -precision ≤ ledger.largest)
    (fine : ledger.tiniest ≤ -precision) : smallestUnit precision = .ok ⟨false, 1, -precision⟩ := by
  have large : ledger.largest = 999999 := rfl
  have tiny : ledger.tiniest = -1000026 := by decide
  have count : digitCount 1 = 1 := by rw [digitCount]; rfl
  rw [tiny] at fine
  unfold smallestUnit round
  rw [if_neg (by rw [large, show ledger.digits = 28 from rfl]; omega), if_neg Nat.one_ne_zero]
  dsimp only
  rw [count, tiny, large, show ledger.digits = 28 from rfl, if_neg (by omega), if_pos (by omega)]

/-- The unit of a currency with no more decimals than the finest exponent has. -/
theorem smallestUnit_of_fine {precision : Int} (positive : 0 ≤ precision)
    (fine : ledger.tiniest ≤ -precision) : smallestUnit precision = .ok ⟨false, 1, -precision⟩ := by
  have large : ledger.largest = 999999 := rfl
  exact smallestUnit_of_inside (by omega) fine

/-- Only numbers of decimals far outside the bounds are refused. -/
theorem smallestUnit_eq_error {precision : Int} {signal : Signal} (positive : 0 ≤ precision)
    (failed : smallestUnit precision = .error signal) :
    signal = .invalidOperation ∧ 2 * (ledger.largest + ledger.digits) < precision := by
  unfold smallestUnit at failed
  split at failed
  · rename_i far
    exact ⟨(Except.error.inj failed).symm, by omega⟩
  · have small : |value ⟨false, 1, -precision⟩| < 10 ^ ledger.largest := by
      have large : ledger.largest = 999999 := rfl
      rw [abs_value, Nat.cast_one, one_mul]
      exact zpow_lt_zpow_right₀ (by norm_num) (by dsimp only; omega)
    rcases exists_round small with ⟨rounded, same⟩
    rw [same] at failed
    cases failed

/-- Rounding drops digits at the end only. -/
theorem exponent_le_of_round {d rounded : Decimal} (nonzero : d.coefficient ≠ 0)
    (ok : round ledger d = .ok rounded) : d.exponent ≤ rounded.exponent := by
  have rounds := rounds_round d
  rw [ok] at rounds
  cases rounds with
  | zero zero => exact absurd zero nonzero
  | whole _ small fine => exact le_rfl
  | dropped _ small coarse short => exact coarse.le
  | carried _ small coarse carry room => exact coarse.le.trans (lt_add_one _).le

theorem exponent_le_of_smallestUnit {precision : Int} {unit : Decimal}
    (ok : smallestUnit precision = .ok unit) : -precision ≤ unit.exponent := by
  unfold smallestUnit at ok
  split at ok
  · cases ok
  · exact exponent_le_of_round Nat.one_ne_zero ok

/-- The unit of a currency is at most one, and it is shown with a unit that a
currency can have. -/
theorem smallestUnit_eq_ok {precision : Int} {unit : Decimal} (positive : 0 ≤ precision)
    (ok : smallestUnit precision = .ok unit) :
    ledger.tiniest ≤ unit.exponent ∧ unit.exponent ≤ 0 ∧ Within 0 unit := by
  unfold smallestUnit at ok
  split at ok
  · cases ok
  · have small : |value ⟨false, 1, -precision⟩| ≤ 10 ^ (0 : Int) + 10 ^ ((0 : Int) - 29) := by
      have one : (10 : Rat) ^ (-precision) ≤ 10 ^ (0 : Int) :=
        zpow_le_zpow_right₀ (by norm_num) (by omega)
      rw [abs_value, Nat.cast_one, one_mul]
      exact one.trans (le_add_of_nonneg_right (by positivity))
    rcases round_within le_rfl (by decide) small with ⟨rounded, same, within⟩
    obtain rfl : rounded = unit := Except.ok.inj (same.symm.trans ok)
    have first : digitCount 1 = 1 := by rw [digitCount]; rfl
    have many : ledger.digits = 28 := rfl
    have tiny : ledger.tiniest = -1000026 := by decide
    have least : ledger.tiniest ≤ keptUnit ⟨false, 1, -precision⟩ := le_max_right _ _
    have most : keptUnit ⟨false, 1, -precision⟩ + 1 ≤ 0 := by
      rw [keptUnit, leading, first, many, tiny]
      dsimp only
      omega
    have rounds := rounds_round ⟨false, 1, -precision⟩
    rw [ok] at rounds
    cases rounds with
    | zero zero => exact absurd zero Nat.one_ne_zero
    | whole _ small fine => exact ⟨least.trans fine, neg_nonpos.mpr positive, within⟩
    | dropped _ small coarse short => exact ⟨least, (lt_add_one _).le.trans most, within⟩
    | carried _ small coarse carry room => exact ⟨least.trans (lt_add_one _).le, most, within⟩

end Decimal
end Daybook
