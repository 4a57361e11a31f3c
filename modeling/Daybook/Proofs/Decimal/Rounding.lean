import Daybook.Proofs.Decimal.Value
import Mathlib.Algebra.Ring.Parity
import Mathlib.Tactic.NormNum

namespace Daybook
namespace Decimal

/-!
# What rounding does to a value

Rounding is a program on digits.  Here it is tied to values: the value alone
decides the unit that is kept, and the result is the multiple of that unit
nearest to the value, the even one of two.  Three consequences carry all later
arithmetic.  A value on a grid that the digits can hold comes out unchanged;
numbers of one value round to one value; and adding small amounts to a bounded
total never leads beyond the bound, since digits below the last place are lost.
-/

/-- The unit to which a value is rounded: the finest one, or else the one that
leaves as many digits as are kept. -/
def IsRoundingUnit (value : Rat) (unit : Int) : Prop :=
  ledger.tiniest ≤ unit ∧ |value| < 10 ^ (unit + ledger.digits) ∧
    (unit = ledger.tiniest ∨ (10 : Rat) ^ (unit + ledger.digits - 1) ≤ |value|)

/-- Whether a value is the multiple of a unit nearest to another value, the even
one if two are equally near. -/
def IsNearest (unit : Int) (exact rounded : Rat) : Prop :=
  ∃ units : Int, rounded = units * 10 ^ unit ∧ 2 * |rounded - exact| ≤ 10 ^ unit ∧
    (2 * |rounded - exact| = 10 ^ unit → Even units)

/-- The value decides the unit. -/
theorem IsRoundingUnit.unique {value : Rat} {first second : Int}
    (one : IsRoundingUnit value first) (other : IsRoundingUnit value second) : first = second := by
  have not_above : ∀ {low high : Int}, IsRoundingUnit value low → IsRoundingUnit value high →
      ¬ low < high := by
    intro low high lower higher less
    rcases higher.2.2 with finest | large
    · exact absurd lower.1 (not_le.mpr (finest ▸ less))
    · have between := large.trans_lt lower.2.1
      rw [zpow_lt_zpow_iff_right₀ (by norm_num)] at between
      omega
  exact le_antisymm (not_lt.mp (not_above other one)) (not_lt.mp (not_above one other))

namespace IsNearest

variable {unit : Int} {exact rounded : Rat}

theorem onGrid (nearest : IsNearest unit exact rounded) : OnGrid unit rounded := by
  rcases nearest with ⟨units, equal, -⟩
  exact ⟨units, equal⟩

/-- A multiple of the unit is nearest to itself. -/
theorem self (grid : OnGrid unit exact) : IsNearest unit exact exact := by
  have power : (0 : Rat) < 10 ^ unit := by positivity
  rcases grid with ⟨units, equal⟩
  refine ⟨units, equal, by simpa using power.le, fun far => ?_⟩
  rw [sub_self, abs_zero, mul_zero] at far
  exact absurd far power.ne

/-- A multiple of the unit is nearest to itself only. -/
theorem eq_of_onGrid (nearest : IsNearest unit exact rounded) (grid : OnGrid unit exact) :
    rounded = exact := by
  have power : (0 : Rat) < 10 ^ unit := by positivity
  rcases nearest with ⟨units, equal, near, -⟩
  exact OnGrid.eq_of_near ⟨units, equal⟩ grid (by linarith)

/-- Of two equally near multiples only one is even. -/
theorem unique {other : Rat} (one : IsNearest unit exact rounded)
    (two : IsNearest unit exact other) : rounded = other := by
  have power : (0 : Rat) < 10 ^ unit := by positivity
  rcases one with ⟨n, rfl, near, even⟩
  rcases two with ⟨m, rfl, near', even'⟩
  have apart : |(n : Rat) * 10 ^ unit - m * 10 ^ unit| ≤ 10 ^ unit := by
    have := abs_sub_le ((n : Rat) * 10 ^ unit) exact (m * 10 ^ unit)
    rw [abs_sub_comm exact] at this
    linarith
  rcases apart.lt_or_eq with close | far
  · exact OnGrid.eq_of_near ⟨n, rfl⟩ ⟨m, rfl⟩ close
  · have triangle := abs_sub_le ((n : Rat) * 10 ^ unit) exact (m * 10 ^ unit)
    rw [abs_sub_comm exact] at triangle
    rcases even (by linarith) with ⟨j, rfl⟩
    rcases even' (by linarith) with ⟨k, rfl⟩
    rw [← sub_mul, abs_mul, abs_of_pos power, mul_eq_right₀ power.ne'] at far
    have odd : |j + j - (k + k)| = 1 := by exact_mod_cast far
    rcases (abs_eq one_pos.le).mp odd with above | below <;> omega

/-- A bound on the grid that is passed by less than half a unit is not passed by
the rounded value. -/
theorem abs_le (nearest : IsNearest unit exact rounded) {bound : Rat} (grid : OnGrid unit bound)
    (close : 2 * |exact| < 2 * bound + 10 ^ unit) : |rounded| ≤ bound := by
  have onGrid := nearest.onGrid
  rcases nearest with ⟨units, equal, near, -⟩
  have triangle := abs_sub_abs_le_abs_sub rounded exact
  exact OnGrid.le_of_lt_add onGrid.abs grid (by linarith)

/-- A bound on the grid that is reached is also reached by the rounded value. -/
theorem le_abs (nearest : IsNearest unit exact rounded) {bound : Rat} (grid : OnGrid unit bound)
    (large : bound ≤ |exact|) : bound ≤ |rounded| := by
  have onGrid := nearest.onGrid
  have power : (0 : Rat) < 10 ^ unit := by positivity
  rcases nearest with ⟨units, equal, near, -⟩
  have triangle := abs_sub_abs_le_abs_sub exact rounded
  rw [abs_sub_comm] at triangle
  exact OnGrid.le_of_lt_add grid onGrid.abs (by linarith)

/-- No other multiple is nearer. -/
theorem near_of_onGrid (nearest : IsNearest unit exact rounded) {other : Rat} (grid : OnGrid unit other) :
    |rounded - exact| ≤ |other - exact| := by
  have onGrid := nearest.onGrid
  rcases nearest with ⟨units, -, near, -⟩
  by_contra nearer
  have triangle := abs_sub_le other exact rounded
  rw [abs_sub_comm exact] at triangle
  have same := OnGrid.eq_of_near grid onGrid (by linarith [not_le.mp nearer])
  exact nearer (same ▸ le_rfl)

theorem neg (nearest : IsNearest unit exact rounded) : IsNearest unit (-exact) (-rounded) := by
  rcases nearest with ⟨units, rfl, near, even⟩
  have opposite : |-((units : Rat) * 10 ^ unit) - -exact| = |(units : Rat) * 10 ^ unit - exact| := by
    rw [neg_sub_neg, abs_sub_comm]
  exact ⟨-units, by push_cast; ring, opposite ▸ near, fun tie => (even (opposite ▸ tie)).neg⟩

end IsNearest

/-! ## The program on digits -/

/-- Dropping digits gives the nearest number without them, the even one of
two. -/
theorem dropDigits_near (coefficient count : Nat) :
    let kept := dropDigits .halfEven coefficient count
    2 * (kept * 10 ^ count) ≤ 2 * coefficient + 10 ^ count ∧
      2 * coefficient ≤ 2 * (kept * 10 ^ count) + 10 ^ count ∧
      (2 * (kept * 10 ^ count) = 2 * coefficient + 10 ^ count ∨
        2 * coefficient = 2 * (kept * 10 ^ count) + 10 ^ count → kept % 2 = 0) := by
  have parts := Nat.div_add_mod coefficient (10 ^ count)
  have small := Nat.mod_lt coefficient (Nat.pow_pos (n := count) (Nat.succ_pos 9))
  unfold dropDigits
  simp only [Nat.pow_eq]
  generalize coefficient / 10 ^ count = quotient at *
  generalize coefficient % 10 ^ count = dropped at *
  generalize 10 ^ count = power at *
  have step : (quotient + 1) * power = power * quotient + power := by ring
  have same : quotient * power = power * quotient := by ring
  split
  · rename_i up
    rw [step]
    refine ⟨by omega, by omega, ?_⟩
    omega
  · rename_i down
    rw [same]
    refine ⟨by omega, by omega, ?_⟩
    omega

/-- The magnitude in terms of the first digit. -/
theorem power_le_abs_value {d : Decimal} (nonzero : d.coefficient ≠ 0) :
    (10 : Rat) ^ d.leading ≤ |d.value| := by
  have digits := pow_digitCount_le (Nat.pos_of_ne_zero nonzero)
  have one : 1 ≤ digitCount d.coefficient := by
    rw [digitCount]; split <;> omega
  have shape : d.leading = (digitCount d.coefficient - 1 : Nat) + d.exponent := by
    unfold leading; omega
  rw [abs_value, shape, zpow_add₀ (by norm_num), zpow_natCast]
  exact mul_le_mul_of_nonneg_right (by exact_mod_cast digits) (by positivity)

theorem abs_value_lt_power (d : Decimal) : |d.value| < (10 : Rat) ^ (d.leading + 1) := by
  have digits := lt_pow_digitCount d.coefficient
  have shape : d.leading + 1 = (digitCount d.coefficient : Nat) + d.exponent := by
    unfold leading; omega
  rw [abs_value, shape, zpow_add₀ (by norm_num), zpow_natCast]
  exact mul_lt_mul_of_pos_right (by exact_mod_cast digits) (by positivity)

/-- The unit that the program computes. -/
def keptUnit (d : Decimal) : Int :=
  max (d.leading + 1 - ledger.digits) ledger.tiniest

theorem isRoundingUnit_keptUnit {d : Decimal} (nonzero : d.coefficient ≠ 0) :
    IsRoundingUnit d.value (keptUnit d) := by
  refine ⟨le_max_right _ _, ?_, ?_⟩
  · refine (abs_value_lt_power d).trans_le ?_
    exact zpow_le_zpow_right₀ (by norm_num) (by unfold keptUnit; omega)
  · rcases max_choice (d.leading + 1 - ledger.digits) ledger.tiniest with leading | finest
    · right
      have same : keptUnit d + ledger.digits - 1 = d.leading := by
        unfold keptUnit; omega
      rw [same]
      exact power_le_abs_value nonzero
    · exact Or.inl finest

/-- A number with its last digits dropped is a nearest one. -/
theorem isNearest_dropDigits (d : Decimal) {unit : Int} (coarser : d.exponent ≤ unit) :
    IsNearest unit d.value
      (value ⟨d.negative, dropDigits .halfEven d.coefficient (unit - d.exponent).toNat, unit⟩) := by
  have near := dropDigits_near d.coefficient (unit - d.exponent).toNat
  have power : (0 : Rat) < 10 ^ d.exponent := by positivity
  have scale := power_eq_mul coarser
  set kept := dropDigits .halfEven d.coefficient (unit - d.exponent).toNat
  generalize (unit - d.exponent).toNat = count at near scale
  rcases near with ⟨below, above, tie⟩
  have below' : 2 * ((kept : Rat) * 10 ^ count) ≤ 2 * d.coefficient + 10 ^ count := by
    exact_mod_cast below
  have above' : 2 * (d.coefficient : Rat) ≤ 2 * ((kept : Rat) * 10 ^ count) + 10 ^ count := by
    exact_mod_cast above
  have distance : |(kept : Rat) * 10 ^ unit - d.coefficient * 10 ^ d.exponent| =
      |(kept : Rat) * 10 ^ count - d.coefficient| * 10 ^ d.exponent := by
    rw [scale, ← mul_assoc, ← sub_mul, abs_mul, abs_of_pos power]
  have close : 2 * |(kept : Rat) * 10 ^ count - d.coefficient| ≤ 10 ^ count := by
    rcases abs_choice ((kept : Rat) * 10 ^ count - d.coefficient) with equal | equal <;>
      rw [equal] <;> linarith
  have even : 2 * |(kept : Rat) * 10 ^ count - d.coefficient| = 10 ^ count → kept % 2 = 0 := by
    intro far
    apply tie
    rcases abs_choice ((kept : Rat) * 10 ^ count - d.coefficient) with equal | equal
    · left
      rw [equal] at far
      have : 2 * ((kept : Rat) * 10 ^ count) = 2 * d.coefficient + 10 ^ count := by linarith
      exact_mod_cast this
    · right
      rw [equal] at far
      have : 2 * (d.coefficient : Rat) = 2 * (kept * 10 ^ count) + 10 ^ count := by linarith
      exact_mod_cast this
  have positive : IsNearest unit (d.coefficient * 10 ^ d.exponent) (kept * 10 ^ unit) := by
    refine ⟨kept, by push_cast; rfl, ?_, ?_⟩
    · rw [distance, scale, ← mul_assoc]
      exact mul_le_mul_of_nonneg_right close power.le
    · intro far
      rw [distance, scale, ← mul_assoc] at far
      have := even (mul_right_cancel₀ power.ne' far)
      exact_mod_cast Nat.even_iff.mpr this
  rcases d with ⟨negative, coefficient, exponent⟩
  rw [value_signed, value_signed]
  cases negative
  · simpa using positive
  · simpa using positive.neg

/-- The digits of a number in which more are left than are kept are those of a
power of ten: rounding up has carried through all of them. -/
theorem coefficient_of_carry {d : Decimal} (nonzero : d.coefficient ≠ 0)
    (coarser : d.exponent ≤ keptUnit d)
    (long : ledger.digits <
      digitCount (dropDigits .halfEven d.coefficient (keptUnit d - d.exponent).toNat)) :
    dropDigits .halfEven d.coefficient (keptUnit d - d.exponent).toNat = 10 ^ ledger.digits := by
  have nearest := isNearest_dropDigits d coarser
  have unit := isRoundingUnit_keptUnit nonzero
  set kept := dropDigits .halfEven d.coefficient (keptUnit d - d.exponent).toNat
  have power : (0 : Rat) < 10 ^ keptUnit d := by positivity
  have positive : 0 < kept := by
    by_contra zero
    rw [Nat.eq_zero_of_not_pos zero, digitCount] at long
    exact absurd long (by decide)
  have least : 10 ^ ledger.digits ≤ kept :=
    (Nat.pow_le_pow_right (by decide) (by omega)).trans (pow_digitCount_le positive)
  have most := nearest.abs_le (onGrid_power (by omega : keptUnit d ≤ keptUnit d + ledger.digits))
    (by linarith [unit.2.1])
  rw [abs_value, add_comm, zpow_add₀ (by norm_num), zpow_natCast, mul_le_mul_iff_left₀ power] at most
  exact le_antisymm (by exact_mod_cast most) least

/-- What rounding makes of a number, and how the number was found to be.  A zero only takes an
exponent that there is.  Otherwise the first digit may lie beyond the largest exponent, all digits
may be kept, or those below the unit are dropped; rounding up may then carry through all digits,
with room for one more or beyond the largest exponent. -/
inductive Rounds (d : Decimal) : Except Signal Decimal → Prop
  | zero (zero : d.coefficient = 0) :
      Rounds d (.ok { d with exponent := max ledger.tiniest (min d.exponent ledger.largest) })
  | large (nonzero : d.coefficient ≠ 0) (large : ledger.largest < d.leading) : Rounds d (.error .overflow)
  | whole (nonzero : d.coefficient ≠ 0) (small : d.leading ≤ ledger.largest)
      (fine : keptUnit d ≤ d.exponent) : Rounds d (.ok d)
  | dropped (nonzero : d.coefficient ≠ 0) (small : d.leading ≤ ledger.largest)
      (coarse : d.exponent < keptUnit d)
      (short : digitCount (dropDigits .halfEven d.coefficient (keptUnit d - d.exponent).toNat) ≤
        ledger.digits) :
      Rounds d (.ok
        ⟨d.negative, dropDigits .halfEven d.coefficient (keptUnit d - d.exponent).toNat, keptUnit d⟩)
  | carried (nonzero : d.coefficient ≠ 0) (small : d.leading ≤ ledger.largest)
      (coarse : d.exponent < keptUnit d)
      (carry : dropDigits .halfEven d.coefficient (keptUnit d - d.exponent).toNat = 10 ^ ledger.digits)
      (room : keptUnit d + ledger.digits ≤ ledger.largest) :
      Rounds d (.ok ⟨d.negative, 10 ^ ledger.digits / 10, keptUnit d + 1⟩)
  | beyond (nonzero : d.coefficient ≠ 0) (coarse : d.exponent < keptUnit d)
      (carry : dropDigits .halfEven d.coefficient (keptUnit d - d.exponent).toNat = 10 ^ ledger.digits)
      (top : keptUnit d = ledger.largest - ledger.digits + 1) : Rounds d (.error .overflow)

/-- The program rounds in one of these ways. -/
theorem rounds_round (d : Decimal) : Rounds d (round ledger d) := by
  have kept : max (d.exponent + digitCount d.coefficient - ledger.digits) ledger.tiniest = keptUnit d := by
    unfold keptUnit leading; congr 1; omega
  have leading : d.leading = d.exponent + digitCount d.coefficient - 1 := rfl
  have least : ledger.tiniest ≤ ledger.largest - ledger.digits + 1 := by decide
  unfold round
  by_cases zero : d.coefficient = 0
  · rw [if_pos zero]
    exact .zero zero
  · rw [if_neg zero]
    dsimp only
    rw [kept]
    split
    · rename_i large
      exact .large zero (by omega)
    · rename_i small
      replace small : d.leading ≤ ledger.largest := by omega
      split
      · rename_i fine
        exact .whole zero small fine
      · rename_i coarse
        have shape : rescaled .halfEven (keptUnit d) d =
            dropDigits .halfEven d.coefficient (keptUnit d - d.exponent).toNat := if_neg coarse
        replace coarse := not_le.mp coarse
        rw [shape]
        split
        · rename_i long
          have carry := coefficient_of_carry zero coarse.le long
          split
          · rename_i last
            exact .beyond zero coarse carry (by omega)
          · rw [carry]
            exact .carried zero small coarse carry (by omega)
        · rename_i short
          exact .dropped zero small coarse (not_lt.mp short)

/-- What rounding does, said of values. -/
theorem round_value {d rounded : Decimal} (ok : round ledger d = .ok rounded) :
    ∃ unit, IsRoundingUnit d.value unit ∧ IsNearest unit d.value rounded.value := by
  have rounds := rounds_round d
  rw [ok] at rounds
  cases rounds with
  | zero zero =>
      have first : d.value = 0 := (value_eq_zero_iff d).mpr zero
      have second : value { d with exponent := max ledger.tiniest (min d.exponent ledger.largest) } = 0 :=
        (value_eq_zero_iff _).mpr zero
      rw [first, second]
      exact ⟨ledger.tiniest, ⟨le_rfl, by rw [abs_zero]; positivity, Or.inl rfl⟩, .self (OnGrid.zero _)⟩
  | whole nonzero small fine =>
      exact ⟨keptUnit d, isRoundingUnit_keptUnit nonzero, .self ((OnGrid.ofValue d).finer fine)⟩
  | dropped nonzero small coarse short =>
      exact ⟨keptUnit d, isRoundingUnit_keptUnit nonzero, isNearest_dropDigits d coarse.le⟩
  | carried nonzero small coarse carry room =>
      have nearest := isNearest_dropDigits d coarse.le
      rw [carry] at nearest
      have same : value ⟨d.negative, 10 ^ ledger.digits / 10, keptUnit d + 1⟩ =
          value ⟨d.negative, 10 ^ ledger.digits, keptUnit d⟩ := by
        have tenth : ((10 ^ ledger.digits / 10 : Nat) : Rat) * 10 = (10 ^ ledger.digits : Nat) := by
          exact_mod_cast (by decide : 10 ^ ledger.digits / 10 * 10 = 10 ^ ledger.digits)
        rw [value_signed, value_signed, zpow_add_one₀ (by norm_num), ← tenth]
        ring
      exact ⟨keptUnit d, isRoundingUnit_keptUnit nonzero, same ▸ nearest⟩

/-- Rounding fails only on values that the largest exponent cannot hold, not even
after the last kept digit is given up. -/
theorem overflow_of_round_error {d : Decimal} {signal : Signal}
    (failed : round ledger d = .error signal) :
    signal = .overflow ∧
      (10 : Rat) ^ (ledger.largest + 1) ≤
        |d.value| + 10 ^ (ledger.largest - ledger.digits + 1) / 2 := by
  have half : (0 : Rat) ≤ 10 ^ (ledger.largest - ledger.digits + 1) / 2 := by positivity
  have rounds := rounds_round d
  rw [failed] at rounds
  cases rounds with
  | large nonzero large =>
      have first : (10 : Rat) ^ (ledger.largest + 1) ≤ 10 ^ d.leading :=
        zpow_le_zpow_right₀ (by norm_num) (by omega)
      exact ⟨rfl, by linarith [power_le_abs_value nonzero]⟩
  | beyond nonzero coarse carry top =>
      have nearest := isNearest_dropDigits d coarse.le
      rw [carry] at nearest
      have near := nearest.choose_spec.2.1
      have size := abs_value ⟨d.negative, 10 ^ ledger.digits, keptUnit d⟩
      have triangle := abs_sub_abs_le_abs_sub
        (value ⟨d.negative, 10 ^ ledger.digits, keptUnit d⟩) d.value
      have whole : ((10 ^ ledger.digits : Nat) : Rat) * 10 ^ keptUnit d = 10 ^ (ledger.largest + 1) := by
        rw [top, Nat.cast_pow, Nat.cast_ofNat, ← zpow_natCast, ← zpow_add₀ (by norm_num)]
        congr 1
      rw [size, whole] at triangle
      rw [top] at near triangle
      exact ⟨rfl, by linarith⟩

/-! ## Consequences -/

/-- A value that the digits can hold on the grid of a unit. -/
def Fits (unit : Int) (value : Rat) : Prop :=
  OnGrid unit value ∧ |value| < 10 ^ (unit + ledger.digits)

theorem Fits.neg {unit : Int} {value : Rat} (fits : Fits unit value) : Fits unit (-value) :=
  ⟨OnGrid.neg fits.1, by rw [abs_neg]; exact fits.2⟩

theorem Fits.abs {unit : Int} {value : Rat} (fits : Fits unit value) : Fits unit |value| :=
  ⟨OnGrid.abs fits.1, by rw [abs_abs]; exact fits.2⟩

/-- The units on whose grids the digits can hold values. -/
def IsUnit (unit : Int) : Prop :=
  ledger.tiniest ≤ unit ∧ unit ≤ ledger.largest - ledger.digits + 1

/-- A value that fits is not changed. -/
theorem round_of_fits {d : Decimal} {unit : Int} (inside : IsUnit unit) (fits : Fits unit d.value) :
    ∃ rounded, round ledger d = .ok rounded ∧ rounded.value = d.value := by
  cases result : round ledger d with
  | ok rounded =>
      refine ⟨rounded, rfl, ?_⟩
      rcases round_value result with ⟨kept, ⟨-, -, size⟩, nearest⟩
      have finer : kept ≤ unit := by
        rcases size with finest | large
        · exact finest ▸ inside.1
        · have between := large.trans_lt fits.2
          rw [zpow_lt_zpow_iff_right₀ (by norm_num)] at between
          omega
      exact nearest.eq_of_onGrid (fits.1.finer finer)
  | error signal =>
      have large := (overflow_of_round_error result).2
      have power : (0 : Rat) < 10 ^ unit := by positivity
      have less : |d.value| + 10 ^ unit ≤ 10 ^ (unit + ledger.digits) := by
        by_contra near
        have touching : (10 : Rat) ^ (unit + ledger.digits) ≤ |d.value| :=
          OnGrid.le_of_lt_add (onGrid_power (by omega)) fits.1.abs (not_le.mp near)
        exact absurd fits.2 (not_lt.mpr touching)
      have coarser : (10 : Rat) ^ unit ≤ 10 ^ (ledger.largest - ledger.digits + 1) :=
        zpow_le_zpow_right₀ (by norm_num) inside.2
      have all : ledger.largest + 1 = (ledger.largest - ledger.digits + 1) + ledger.digits := by decide
      rw [add_comm unit, zpow_add₀ (by norm_num), zpow_natCast] at less
      rw [all, add_comm (ledger.largest - ledger.digits + 1), zpow_add₀ (by norm_num),
        zpow_natCast] at large
      have positive : (0 : Rat) < 10 ^ (ledger.largest - ledger.digits + 1) := by positivity
      generalize (10 : Rat) ^ (ledger.largest - ledger.digits + 1) = top at *
      have many : (1 : Rat) ≤ 10 ^ ledger.digits := by norm_num [ledger]
      generalize (10 : Rat) ^ ledger.digits = digits at *
      nlinarith

/-- Rounding on a grid is exact, or else the value has more units than the digits hold,
and the rounded value still has as many as they hold. -/
theorem round_exact_or_large {d rounded : Decimal} {unit : Int} (least : ledger.tiniest ≤ unit)
    (grid : OnGrid unit d.value) (ok : round ledger d = .ok rounded) :
    rounded.value = d.value ∨
      (10 : Rat) ^ (unit + ledger.digits) < |d.value| ∧
        (10 : Rat) ^ (unit + ledger.digits) ≤ |rounded.value| := by
  rcases round_value ok with ⟨kept, ⟨-, -, size⟩, nearest⟩
  rcases le_or_gt kept unit with finer | coarser
  · exact Or.inl (nearest.eq_of_onGrid (grid.finer finer))
  have long : (10 : Rat) ^ (kept + ledger.digits - 1) ≤ |d.value| := size.resolve_left (by omega)
  have bound : (10 : Rat) ^ (unit + ledger.digits) ≤ 10 ^ (kept + ledger.digits - 1) :=
    zpow_le_zpow_right₀ (by norm_num) (by omega)
  have full : OnGrid kept ((10 : Rat) ^ (kept + ledger.digits - 1)) :=
    onGrid_power (by rw [show ledger.digits = 28 from rfl]; omega)
  rcases (bound.trans long).lt_or_eq with more | least
  · exact Or.inr ⟨more, bound.trans (nearest.le_abs full long)⟩
  · -- The digits hold a power of ten whatever its size.
    left
    have same : |d.value| = 10 ^ (kept + ledger.digits - 1) := le_antisymm (least ▸ bound) long
    apply nearest.eq_of_onGrid
    rcases abs_choice d.value with equal | equal
    · rw [← equal, same]
      exact full
    · rw [← neg_neg d.value, ← equal, same]
      exact full.neg

/-- A value that fits is not changed, however large its unit is, if rounding has a result. -/
theorem round_value_of_fits {d rounded : Decimal} {unit : Int} (least : ledger.tiniest ≤ unit)
    (fits : Fits unit d.value) (ok : round ledger d = .ok rounded) : rounded.value = d.value :=
  (round_exact_or_large least fits.1 ok).resolve_right fun large => absurd fits.2 (not_lt.mpr large.1.le)

/-- Numbers of one value round to one value. -/
theorem round_value_congr {first second left right : Decimal} (same : first.value = second.value)
    (one : round ledger first = .ok left) (other : round ledger second = .ok right) :
    left.value = right.value := by
  rcases round_value one with ⟨unit, kept, nearest⟩
  rcases round_value other with ⟨unit', kept', nearest'⟩
  rw [← same] at kept' nearest'
  rcases kept.unique kept' with rfl
  exact nearest.unique nearest'

/-- Rounding does not leave a grid. -/
theorem OnGrid.round {d rounded : Decimal} {unit : Int} (grid : OnGrid unit d.value)
    (ok : round ledger d = .ok rounded) : OnGrid unit rounded.value := by
  rcases round_value ok with ⟨kept, -, nearest⟩
  rcases le_total kept unit with finer | coarser
  · rw [nearest.eq_of_onGrid (grid.finer finer)]
    exact grid
  · exact nearest.onGrid.finer coarser

/-- Values well below the largest exponent are rounded. -/
theorem exists_round {d : Decimal} (small : |d.value| < (10 : Rat) ^ ledger.largest) :
    ∃ rounded, round ledger d = .ok rounded := by
  cases result : round ledger d with
  | ok rounded => exact ⟨rounded, rfl⟩
  | error signal =>
      have large := (overflow_of_round_error result).2
      have step : (10 : Rat) ^ (ledger.largest + 1) = 10 * 10 ^ ledger.largest := by
        rw [zpow_add_one₀ (by norm_num), mul_comm]
      have last : (10 : Rat) ^ (ledger.largest - ledger.digits + 1) ≤ 10 ^ ledger.largest :=
        zpow_le_zpow_right₀ (by norm_num) (by decide)
      have positive : (0 : Rat) < 10 ^ ledger.largest := by positivity
      linarith

/-- A value that passes the largest one with all digits is not changed by more than it
passes it. -/
theorem exists_round_near {d : Decimal} {unit : Int} (least : ledger.tiniest ≤ unit) (most : unit ≤ 0)
    (grid : OnGrid unit d.value) {excess : Rat} (nonneg : 0 ≤ excess)
    (size : |d.value| ≤ 10 ^ (unit + ledger.digits) + excess)
    (small : excess ≤ 10 ^ (unit + ledger.digits)) :
    ∃ rounded, round ledger d = .ok rounded ∧ |rounded.value - d.value| ≤ excess := by
  have full : (0 : Rat) < 10 ^ (unit + ledger.digits) := by positivity
  have step : (10 : Rat) ^ (unit + ledger.digits + 1) = 10 * 10 ^ (unit + ledger.digits) := by
    rw [zpow_add_one₀ (by norm_num), mul_comm]
  have below : |d.value| < 10 ^ (unit + ledger.digits + 1) := by linarith
  rcases exists_round (below.trans_le (zpow_le_zpow_right₀ (by norm_num)
    (by have : ledger.largest = 999999 := rfl; have : ledger.digits = 28 := rfl; omega))) with
    ⟨rounded, ok⟩
  refine ⟨rounded, ok, ?_⟩
  rcases round_exact_or_large least grid ok with same | ⟨passes, -⟩
  · rwa [same, sub_self, abs_zero]
  · rcases round_value ok with ⟨kept, ⟨-, -, leading⟩, nearest⟩
    have finer : kept ≤ unit + ledger.digits := by
      rcases leading with finest | large
      · omega
      · have between := large.trans_lt below
        rw [zpow_lt_zpow_iff_right₀ (by norm_num)] at between
        have : ledger.digits = 28 := rfl
        omega
    rcases abs_choice d.value with equal | equal
    · rw [equal] at passes size
      refine (nearest.near_of_onGrid (onGrid_power finer)).trans ?_
      rw [abs_sub_comm, abs_of_nonneg (by linarith)]
      linarith
    · rw [equal] at passes size
      refine (nearest.near_of_onGrid (onGrid_power finer).neg).trans ?_
      rw [abs_of_nonneg (by linarith)]
      linarith

/-! ## The greatest number -/

/-- The unit of the greatest number that rounding can give. -/
def topUnit : Int := ledger.largest - ledger.digits + 1

def greatest : Rat := (10 ^ ledger.digits - 1) * 10 ^ topUnit

/-- The greatest number lies between the largest power of ten and the next one. -/
theorem power_le_greatest : (10 : Rat) ^ ledger.largest ≤ greatest := by
  have shape : (10 : Rat) ^ ledger.largest = 10 ^ (ledger.digits - 1) * 10 ^ topUnit := by
    rw [← zpow_natCast, ← zpow_add₀ (by norm_num)]
    congr 1
  rw [shape, greatest]
  exact mul_le_mul_of_nonneg_right (by norm_num [ledger]) (by positivity)

theorem greatest_lt : greatest < (10 : Rat) ^ (topUnit + ledger.digits) := by
  have power : (0 : Rat) < 10 ^ topUnit := by positivity
  rw [greatest, add_comm, zpow_add₀ (by norm_num), zpow_natCast]
  exact mul_lt_mul_of_pos_right (sub_one_lt _) power

/-- What has no more digits than are kept, and not too many places, is not above the greatest
number. -/
theorem abs_value_le_greatest {d : Decimal} {count : Nat} (digits : d.coefficient < 10 ^ count)
    (short : count ≤ ledger.digits) (low : d.exponent + count - ledger.digits ≤ topUnit) :
    |d.value| ≤ greatest := by
  have power : (0 : Rat) < 10 ^ d.exponent := by positivity
  have finer : (10 : Rat) ^ (d.exponent + count - ledger.digits) ≤ 10 ^ d.exponent :=
    zpow_le_zpow_right₀ (by norm_num) (by omega)
  have whole : (10 : Rat) ^ count * 10 ^ d.exponent =
      10 ^ ledger.digits * 10 ^ (d.exponent + count - ledger.digits) := by
    rw [← zpow_natCast, ← zpow_natCast, ← zpow_add₀ (by norm_num), ← zpow_add₀ (by norm_num)]
    congr 1
    omega
  have coefficient : (d.coefficient : Rat) + 1 ≤ 10 ^ count := by exact_mod_cast digits
  have many : (0 : Rat) ≤ 10 ^ ledger.digits - 1 := by norm_num [ledger]
  calc |d.value| = d.coefficient * 10 ^ d.exponent := abs_value d
    _ ≤ (10 ^ count - 1) * 10 ^ d.exponent :=
        mul_le_mul_of_nonneg_right (by linarith) power.le
    _ ≤ (10 ^ ledger.digits - 1) * 10 ^ (d.exponent + count - ledger.digits) := by
        rw [sub_mul, sub_mul, whole, one_mul, one_mul]
        linarith
    _ ≤ greatest :=
        mul_le_mul_of_nonneg_left (zpow_le_zpow_right₀ (by norm_num) low) many

/-- Nothing is rounded to more than the greatest number. -/
theorem abs_le_greatest {d rounded : Decimal} (ok : round ledger d = .ok rounded) :
    |rounded.value| ≤ greatest := by
  have top : topUnit = ledger.largest - ledger.digits + 1 := rfl
  have least : ledger.tiniest ≤ topUnit := by decide
  have leading : d.leading = d.exponent + digitCount d.coefficient - 1 := rfl
  have kept_le (small : d.leading ≤ ledger.largest) : keptUnit d ≤ topUnit := by
    unfold keptUnit
    omega
  have rounds := rounds_round d
  rw [ok] at rounds
  cases rounds with
  | zero zero =>
      have nothing : value { d with exponent := max ledger.tiniest (min d.exponent ledger.largest) } = 0 :=
        (value_eq_zero_iff _).mpr zero
      rw [nothing, abs_zero, greatest]
      exact mul_nonneg (by norm_num [ledger]) (by positivity)
  | whole nonzero small fine =>
      refine abs_value_le_greatest (lt_pow_digitCount d.coefficient) ?_ (by omega)
      unfold keptUnit at fine
      omega
  | dropped nonzero small coarse short =>
      refine abs_value_le_greatest (lt_of_lt_of_le (lt_pow_digitCount _)
        (Nat.pow_le_pow_right (by decide) short)) le_rfl ?_
      change keptUnit d + _ - _ ≤ topUnit
      have := kept_le small
      omega
  | carried nonzero small coarse carry room =>
      have tenth : 10 ^ ledger.digits / 10 < 10 ^ ledger.digits := by decide
      refine abs_value_le_greatest tenth le_rfl ?_
      change keptUnit d + 1 + _ - _ ≤ topUnit
      omega

/-- Everything up to the greatest number is rounded. -/
theorem exists_round_of_le {d : Decimal} (small : |d.value| ≤ greatest) :
    ∃ rounded, round ledger d = .ok rounded := by
  cases result : round ledger d with
  | ok rounded => exact ⟨rounded, rfl⟩
  | error signal =>
      have large := (overflow_of_round_error result).2
      have whole : (10 : Rat) ^ (ledger.largest + 1) = 10 ^ ledger.digits * 10 ^ topUnit := by
        rw [← zpow_natCast, ← zpow_add₀ (by norm_num)]
        congr 1
      have unit : (0 : Rat) < 10 ^ topUnit := by positivity
      rw [whole, show ledger.largest - ledger.digits + 1 = topUnit from rfl] at large
      rw [greatest, sub_mul, one_mul] at small
      linarith

/-- A bound that is passed by so little that the digits cannot show it is not
passed by the rounded value. -/
theorem round_within {d : Decimal} {power : Int} (low : 0 ≤ power) (high : power < ledger.largest)
    (close : |d.value| ≤ 10 ^ power + 10 ^ (power - 29)) :
    ∃ rounded, round ledger d = .ok rounded ∧ |rounded.value| ≤ 10 ^ power := by
  have step : (10 : Rat) ^ (power + 1) = 10 * 10 ^ power := by
    rw [zpow_add_one₀ (by norm_num), mul_comm]
  have lesser : (10 : Rat) ^ (power - 29) ≤ 10 ^ power :=
    zpow_le_zpow_right₀ (by norm_num) (by omega)
  have positive : (0 : Rat) < 10 ^ power := by positivity
  have size : |d.value| < 10 ^ (power + 1) := by linarith
  obtain ⟨rounded, ok⟩ :=
    exists_round (size.trans_le (zpow_le_zpow_right₀ (by norm_num) (by omega)))
  refine ⟨rounded, ok, ?_⟩
  rcases round_value ok with ⟨kept, ⟨-, below, least⟩, nearest⟩
  have finer : kept ≤ power := by
    rcases least with finest | large
    · exact finest ▸ (by decide : ledger.tiniest ≤ 0).trans low
    · have between := large.trans_lt size
      rw [zpow_lt_zpow_iff_right₀ (by norm_num)] at between
      simp only [ledger] at between
      omega
  apply nearest.abs_le (onGrid_power finer)
  have unit : (0 : Rat) < 10 ^ kept := by positivity
  by_cases inside : |d.value| ≤ 10 ^ power
  · linarith
  · have between := (not_le.mp inside).trans below
    rw [zpow_lt_zpow_iff_right₀ (by norm_num)] at between
    have far : (10 : Rat) ^ (power - 29) ≤ 10 ^ (kept - 2) :=
      zpow_le_zpow_right₀ (by norm_num) (by simp only [ledger] at between; omega)
    have hundred : (10 : Rat) ^ kept = 10 ^ (kept - 2) * 10 ^ (2 : Int) := by
      rw [← zpow_add₀ (by norm_num)]
      congr 1
      omega
    have tiny : (0 : Rat) < 10 ^ (kept - 2) := by positivity
    norm_num at hundred
    linarith

end Decimal
end Daybook
