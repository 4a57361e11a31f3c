import Daybook.Proofs.Decimal.Division
import Daybook.Proofs.Money.Shares

namespace Daybook

/-!
# Amounts that can be divided

Dividing an amount fails in two ways that have nothing to do with its size: a unit that is
zero does not go into anything, and more units than two for each party cannot be handed
out.  The first concerns only currencies with more decimals than the finest exponent has.
The second never happens.  The quotient is off by at most half a unit, cutting it off loses
less than a whole one, and the product of the cut quotient and the number of parties is
rounded only as far as it passes the amount; together this is less than two units for each
party.
-/

namespace Decimal

/-- The number of times that one magnitude fits into another, when it is not too large. -/
theorem exists_wholeQuotient {a b : Decimal} (divides : b.isZero = false) {limit : Nat}
    (short : limit < 10 ^ ledger.digits) (size : |a.value| ≤ limit * |b.value|) :
    ∃ count, wholeQuotient a b = .ok count ∧ count ≤ limit := by
  have power : (0 : Rat) < 10 ^ commonUnit a b := by positivity
  have first : commonUnit a b ≤ a.exponent := min_le_left _ _
  have second : commonUnit a b ≤ b.exponent := min_le_right _ _
  rw [abs_value_eq_magnitudeIn a first, abs_value_eq_magnitudeIn b second, ← mul_assoc,
    mul_le_mul_iff_left₀ power] at size
  have whole : magnitudeIn (commonUnit a b) a ≤ magnitudeIn (commonUnit a b) b * limit := by
    rw [Nat.mul_comm]
    exact_mod_cast size
  have count := Nat.div_le_of_le_mul whole
  unfold wholeQuotient
  rw [if_neg (by rw [divides]; exact Bool.false_ne_true)]
  dsimp only
  rw [if_neg (by rw [Nat.pow_eq]; omega)]
  exact ⟨_, rfl, count⟩

end Decimal

namespace Money

open Decimal

variable {amount : Decimal} {unit : Int} {parts : Nat}

/-- The quotient of an amount that fits its unit is off by half a unit at most. -/
theorem exists_quotient (least : ledger.tiniest ≤ unit) (most : unit ≤ 0)
    (fits : Fits unit amount.value) (some_parts : 1 ≤ parts) :
    ∃ quotient, amount.div (ofNat parts) = .ok quotient ∧
      2 * |quotient.value - amount.value / parts| ≤ 10 ^ unit := by
  have many : (1 : Rat) ≤ parts := by exact_mod_cast some_parts
  have divides : (ofNat parts).isZero = false := by
    rw [isZero, beq_eq_false_iff_ne]
    exact (Nat.one_le_iff_ne_zero.mp some_parts : parts ≠ 0)
  have smaller : |amount.value / parts| ≤ |amount.value| := by
    rw [abs_div, abs_of_pos (by linarith : (0 : Rat) < parts)]
    exact div_le_self (abs_nonneg _) many
  have below := smaller.trans_lt fits.2
  have bits : ledger.digits = 28 := rfl
  have far : ledger.largest = 999999 := rfl
  have high : (10 : Rat) ^ (unit + ledger.digits) ≤ greatest :=
    (zpow_le_zpow_right₀ (by norm_num) (by omega)).trans power_le_greatest
  rcases exists_div (a := amount) divides (by rw [value_ofNat]; exact (below.trans_le high).le) with
    ⟨quotient, ok⟩
  refine ⟨quotient, ok, ?_⟩
  rcases div_value divides ok with ⟨kept, ⟨-, -, leading⟩, -, -, near, -⟩
  rw [value_ofNat] at leading near
  have finer : kept ≤ unit := by
    rcases leading with finest | large
    · exact finest ▸ least
    · have between := large.trans_lt below
      rw [zpow_lt_zpow_iff_right₀ (by norm_num)] at between
      omega
  exact near.trans (zpow_le_zpow_right₀ (by norm_num) finer)

/-- The share that everyone gets is no further from the quotient than one and a half units, and
larger by half a unit at most. -/
theorem exists_baseShare (least : ledger.tiniest ≤ unit) (most : unit ≤ 0)
    (fits : Fits unit amount.value) (some_parts : 1 ≤ parts) :
    ∃ base, baseShare amount ⟨false, 1, unit⟩ parts = .ok base ∧ IsShown unit base ∧
      2 * |amount.value / parts - base.value| ≤ 3 * 10 ^ unit ∧
      |base.value| ≤ |amount.value| / parts + 10 ^ unit / 2 := by
  have power : (0 : Rat) < 10 ^ unit := by positivity
  have many : (1 : Rat) ≤ parts := by exact_mod_cast some_parts
  have size : |amount.value / parts| = |amount.value| / parts := by
    rw [abs_div, abs_of_pos (by linarith : (0 : Rat) < parts)]
  have smaller : |amount.value| / parts ≤ |amount.value| := div_le_self (abs_nonneg _) many
  rcases exists_quotient least most fits some_parts with ⟨quotient, divided, near⟩
  have quotient_size : |quotient.value| ≤ |amount.value| / parts + 10 ^ unit / 2 := by
    have triangle := abs_sub_abs_le_abs_sub quotient.value (amount.value / parts)
    linarith
  -- The amount lies a whole unit below what the digits cannot hold any more.
  have room : |amount.value| + 10 ^ unit ≤ 10 ^ (unit + ledger.digits) := by
    by_contra near
    exact absurd fits.2 (not_lt.mpr (OnGrid.le_of_lt_add
      (onGrid_power (by have : ledger.digits = 28 := rfl; omega)) fits.1.abs (not_le.mp near)))
  rcases exists_cutOff least most (by linarith : |quotient.value| < 10 ^ (unit + ledger.digits)) with
    ⟨base, cut, lower, close⟩
  refine ⟨base, by rw [baseShare, divided]; exact cut, isShown_of_quantize most cut, ?_,
    lower.trans quotient_size⟩
  have triangle := abs_sub_le (amount.value / parts) quotient.value base.value
  rw [abs_sub_comm (amount.value / parts) quotient.value] at triangle
  linarith

/-- So many units are less than what the digits cannot hold. -/
theorem units_lt_power {count : Nat} (few : count < 10 ^ ledger.digits) (unit : Int) :
    (count : Rat) * 10 ^ unit < 10 ^ (unit + ledger.digits) := by
  have power : (0 : Rat) < 10 ^ unit := by positivity
  rw [add_comm, zpow_add₀ (by norm_num), zpow_natCast]
  exact mul_lt_mul_of_pos_right (by exact_mod_cast few) power

/-- What the shares come to is rounded only as far as it passes the amount, which is half a unit
for each party at most. -/
theorem exists_shareProduct (least : ledger.tiniest ≤ unit) (most : unit ≤ 0)
    (fits : Fits unit amount.value) (some_parts : 1 ≤ parts)
    (few : 2 * parts < 10 ^ ledger.digits) {base : Decimal} (shown : IsShown unit base)
    (size : |base.value| ≤ |amount.value| / parts + 10 ^ unit / 2) :
    ∃ product, base.mul (ofNat parts) = .ok product ∧ OnGrid unit product.value ∧
      |product.value - base.value * parts| ≤ parts * 10 ^ unit / 2 := by
  have many : (0 : Rat) < parts := by exact_mod_cast some_parts
  have area : (0 : Rat) < parts * 10 ^ unit := by positivity
  have units := units_lt_power few unit
  push_cast at units
  have grid : OnGrid unit (base.value * parts) := by
    rcases shown.onGrid with ⟨count, equal⟩
    exact ⟨count * parts, by rw [equal]; push_cast; ring⟩
  have product_size : |base.value * parts| ≤ |amount.value| + parts * 10 ^ unit / 2 := by
    rw [abs_mul, abs_of_pos many]
    have scaled := mul_le_mul_of_nonneg_right size many.le
    rw [add_mul, div_mul_cancel₀ _ many.ne'] at scaled
    linarith
  have exact_value := value_product base (ofNat parts)
  rw [value_ofNat] at exact_value
  obtain ⟨product, multiplied, near⟩ := exists_round_near least most (exact_value ▸ grid)
    (by positivity : (0 : Rat) ≤ parts * 10 ^ unit / 2)
    (by rw [exact_value]; linarith [fits.2]) (by linarith)
  exact ⟨product, multiplied, OnGrid.round (exact_value ▸ grid) multiplied, exact_value ▸ near⟩

/-- What is left over is less than two units for each party. -/
theorem exists_remainder (least : ledger.tiniest ≤ unit) (most : unit ≤ 0)
    (fits : Fits unit amount.value) (some_parts : 1 ≤ parts)
    (few : 2 * parts < 10 ^ ledger.digits) {base : Decimal} (shown : IsShown unit base)
    (near : 2 * |amount.value / parts - base.value| ≤ 3 * 10 ^ unit)
    (size : |base.value| ≤ |amount.value| / parts + 10 ^ unit / 2) :
    ∃ remainder, (do amount.sub (← base.mul (ofNat parts))) = .ok remainder ∧
      Fits unit remainder.value ∧ |remainder.value| ≤ ((2 * parts : Nat) : Rat) * 10 ^ unit := by
  have many : (0 : Rat) < parts := by exact_mod_cast some_parts
  rcases exists_shareProduct least most fits some_parts few shown size with
    ⟨product, multiplied, product_grid, rounded⟩
  have distance : |amount.value - base.value * parts| ≤ 3 * parts * 10 ^ unit / 2 := by
    have split_off : amount.value - base.value * parts = (amount.value / parts - base.value) * parts := by
      rw [sub_mul, div_mul_cancel₀ _ many.ne']
    rw [split_off, abs_mul, abs_of_pos many]
    have scaled := mul_le_mul_of_nonneg_right near many.le
    linarith
  have difference : |amount.value + product.flipped.value| ≤ (2 * parts : Nat) * 10 ^ unit := by
    rw [value_flipped, ← sub_eq_add_neg]
    have triangle := abs_sub_le amount.value (base.value * parts) product.value
    rw [abs_sub_comm (base.value * parts)] at triangle
    push_cast
    linarith
  have grid : OnGrid unit (amount.value + product.flipped.value) := by
    rw [value_flipped]
    exact fits.1.add product_grid.neg
  have inside : Decimal.IsUnit unit := ⟨least, most.trans (by decide)⟩
  have remains : Fits unit (amount.value + product.flipped.value) :=
    ⟨grid, difference.trans_lt (units_lt_power few unit)⟩
  rcases add_of_fits inside remains with ⟨remainder, subtracted, value⟩
  refine ⟨remainder, ?_, value ▸ remains, value ▸ difference⟩
  rw [multiplied]
  exact subtracted

/-- An amount that fits the unit of its currency can be divided evenly, unless the parties are so
many that the units between them cannot be counted. -/
theorem exists_splitEven {money : Money} {parts precision : Int} (positive : 0 ≤ precision)
    (fine : ledger.tiniest ≤ -precision) (fits : Fits (-precision) money.amount.value)
    (some_parts : 1 ≤ parts) (few : 2 * parts < 10 ^ ledger.digits) :
    ∃ shares, money.splitEven parts precision = .ok shares := by
  obtain ⟨count, rfl⟩ : ∃ count : Nat, parts = count := ⟨parts.toNat, by omega⟩
  have smallest := smallestUnit_of_fine positive fine
  generalize unit_eq : -precision = unit at *
  have most : unit ≤ 0 := by omega
  have power : (0 : Rat) < 10 ^ unit := by positivity
  have one : |value ⟨false, 1, unit⟩| = 10 ^ unit := by rw [abs_value]; simp
  have some_count : 1 ≤ count := by omega
  have few_units : 2 * count < 10 ^ ledger.digits := by exact_mod_cast few
  rcases exists_baseShare fine most fits some_count with ⟨base, divided, shown, near, size⟩
  rcases exists_remainder fine most fits some_count few_units shown near size with
    ⟨remainder, subtracted, remains, left⟩
  rcases abs_of_fits ⟨fine, most.trans (by decide)⟩ remains with ⟨magnitude, unsigned, magnitude_value⟩
  have divides : isZero ⟨false, 1, unit⟩ = false := rfl
  obtain ⟨units, counted, handed⟩ := exists_wholeQuotient (a := magnitude) divides few_units (by
    rw [magnitude_value, abs_abs, one]
    exact left)
  have amount_bounds : InBounds unit 28 money.amount := by
    refine ⟨fits.1, fits.2.le.trans (zpow_le_zpow_right₀ (by norm_num) ?_)⟩
    have : ledger.digits = 28 := rfl
    omega
  have unit_bounds : InBounds unit 0 ⟨false, 1, unit⟩ := by
    refine ⟨OnGrid.ofValue ⟨false, 1, unit⟩, ?_⟩
    rw [Within, one]
    exact zpow_le_zpow_right₀ (by norm_num) most
  obtain ⟨step, turned, step_bounds⟩ : ∃ step,
      (if remainder.isPositive then .ok ⟨false, 1, unit⟩ else Decimal.neg ⟨false, 1, unit⟩) = .ok step ∧
        InBounds unit 0 step := by
    split
    · exact ⟨_, rfl, unit_bounds⟩
    · rcases neg_within le_rfl (by decide) unit_bounds.within with ⟨opposite, negated, -⟩
      exact ⟨opposite, negated, unit_bounds.neg le_rfl (by decide) negated⟩
  have received : receivers? count units = some _ := if_neg (by omega)
  obtain ⟨stepped, given, residue, rest, topped, last, -⟩ :=
    exists_distribution amount_bounds (InBounds.ofShown shown) step_bounds count
      ((List.range' (2 * count - units) units).map (· % count))
  have counted : (do wholeQuotient (← remainder.abs) ⟨false, 1, unit⟩) = .ok units := by
    rw [unsigned]
    exact counted
  exact ⟨_, splitEven_eq_ok_iff.mpr ⟨some_parts, ⟨_, base, remainder, step, units, _, stepped, residue,
    topped, smallest, divided, subtracted, turned, counted, received, given, rest, last⟩, rfl⟩⟩

end Money
end Daybook
