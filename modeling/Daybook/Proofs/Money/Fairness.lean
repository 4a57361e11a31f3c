import Daybook.Proofs.Decimal.Amounts
import Daybook.Proofs.Decimal.Division
import Daybook.Proofs.Money.Shares
import Daybook.Proofs.Table
import Mathlib.Data.Nat.Cast.Order.Field

namespace Daybook

/-!
# Even shares are exact and fair

The quotient of an amount is rounded to the digits that are kept before it is cut off at
the unit, and a quotient that lies just below a whole number of units could be rounded up
to it.  It cannot, as long as the amount has one digit less than is kept and the unit is
not among the last ones: a quotient that is not whole misses the next whole number by one
part of the number of parties, which is more than half of the last digit kept.  So everyone
gets the whole quotient, as many as there are units left over get one unit more, and no
step of the program rounds anything away.
-/

namespace Decimal

/-- A multiple of the unit that is not above a value is not above the rounded value. -/
theorem IsNearest.le_of_onGrid {unit : Int} {exact rounded bound : Rat}
    (nearest : IsNearest unit exact rounded) (grid : OnGrid unit bound) (below : bound ≤ exact) :
    bound ≤ rounded := by
  have onGrid := nearest.onGrid
  have power : (0 : Rat) < 10 ^ unit := by positivity
  rcases nearest with ⟨units, -, near, -⟩
  have close := neg_abs_le (rounded - exact)
  exact OnGrid.le_of_lt_add grid onGrid (by linarith)

theorem IsNearest.signed {unit sign : Int} {exact rounded : Rat} (signs : sign.natAbs = 1)
    (nearest : IsNearest unit (sign * exact) rounded) : IsNearest unit exact (sign * rounded) := by
  rcases Int.natAbs_eq sign with up | down
  · rw [up, signs] at nearest ⊢
    simpa using nearest
  · rw [down, signs] at nearest ⊢
    simpa using nearest.neg

end Decimal

namespace Money

open Decimal

/-! ## The share that everyone gets -/

section Quotient

variable {unit sign kept : Int} {whole parts : Nat} {quotient : Rat}

/-- What a quotient lacks to the next whole number of units. -/
theorem gap_eq (whole : Nat) (some_parts : 1 ≤ parts) (unit : Int) :
    ((whole / parts : Nat) + 1 : Rat) * 10 ^ unit - (whole : Rat) / parts * 10 ^ unit =
      ((parts - whole % parts : Nat) : Rat) / parts * 10 ^ unit := by
  have positive : (parts : Rat) ≠ 0 := by exact_mod_cast (by omega : parts ≠ 0)
  have less := Nat.mod_lt whole (by omega : 0 < parts)
  have split : (whole : Rat) = parts * (whole / parts : Nat) + (whole % parts : Nat) := by
    exact_mod_cast (Nat.div_add_mod whole parts).symm
  rw [← sub_mul, Nat.cast_sub less.le]
  congr 1
  rw [eq_div_iff positive, sub_mul, div_mul_cancel₀ _ positive]
  linarith

/-- The finest unit is so fine that even the smallest gap is far above it. -/
theorem gap_gt_of_finest (few : whole < 10 ^ (ledger.digits - 1)) (some_parts : 1 ≤ parts)
    (coarse : ledger.smallest ≤ unit) :
    (10 : Rat) ^ ledger.tiniest / 2 < ((parts - whole % parts : Nat) : Rat) / parts * 10 ^ unit := by
  have positive : (0 : Rat) < parts := by exact_mod_cast some_parts
  have less := Nat.mod_lt whole some_parts
  have many : ledger.digits = 28 := rfl
  have fine : (10 : Rat) ^ ledger.tiniest ≤ 10 ^ (unit - 27) :=
    zpow_le_zpow_right₀ (by norm_num) (by
      have tiny : ledger.tiniest = ledger.smallest - 27 := by decide
      omega)
  have scale : (10 : Rat) ^ unit = 10 ^ 27 * 10 ^ (unit - 27) := by
    rw [← zpow_natCast, ← zpow_add₀ (by norm_num)]
    congr 1
    omega
  have gap : parts < 2 * ((parts - whole % parts) * 10 ^ 27) := by
    have bound := Nat.mod_le whole parts
    rw [many] at few
    rcases Nat.lt_or_ge parts (10 ^ 27) with small | big
    · have one : 1 ≤ parts - whole % parts := by omega
      nlinarith
    · omega
  have gap' : (parts : Rat) < 2 * (((parts - whole % parts : Nat) : Rat) * 10 ^ 27) := by
    exact_mod_cast gap
  have below : (0 : Rat) < 10 ^ (unit - 27) := by positivity
  rw [div_mul_eq_mul_div, lt_div_iff₀ positive, scale]
  nlinarith

/-- A quotient that fills its digits is so large that one part of the number of parties is more
than its last digit. -/
theorem gap_gt_of_filled (few : whole < 10 ^ (ledger.digits - 1)) (some_parts : 1 ≤ parts)
    (filled : (10 : Rat) ^ (kept + ledger.digits - 1) ≤ |(whole : Rat) / parts * 10 ^ unit|) :
    (10 : Rat) ^ kept / 2 < ((parts - whole % parts : Nat) : Rat) / parts * 10 ^ unit := by
  have power : (0 : Rat) < 10 ^ unit := by positivity
  have last : (0 : Rat) < 10 ^ kept := by positivity
  have positive : (0 : Rat) < parts := by exact_mod_cast some_parts
  have less := Nat.mod_lt whole some_parts
  have many : ledger.digits = 28 := rfl
  have shape : (10 : Rat) ^ (kept + ledger.digits - 1) = 10 ^ 27 * 10 ^ kept := by
    rw [← zpow_natCast, ← zpow_add₀ (by norm_num)]
    congr 1
    rw [many]
    omega
  rw [abs_of_nonneg (by positivity), shape, div_mul_eq_mul_div, le_div_iff₀ positive] at filled
  have one : (1 : Rat) ≤ (parts - whole % parts : Nat) := by
    exact_mod_cast (by omega : 1 ≤ parts - whole % parts)
  have short : (whole : Rat) < 10 ^ 27 := by
    rw [many] at few
    exact_mod_cast few
  have inside : (10 : Rat) ^ kept * parts < 10 ^ unit := by
    by_contra outside
    have : (whole : Rat) * 10 ^ unit < 10 ^ 27 * 10 ^ unit := mul_lt_mul_of_pos_right short power
    linarith [not_lt.mp outside]
  have area : (0 : Rat) < 10 ^ kept * parts := by positivity
  rw [div_mul_eq_mul_div, lt_div_iff₀ positive]
  nlinarith

/-- The gap is more than half of the last digit kept, unless the unit is among the last. -/
theorem gap_gt (few : whole < 10 ^ (ledger.digits - 1)) (some_parts : 1 ≤ parts)
    (rounds : IsRoundingUnit ((whole : Rat) / parts * 10 ^ unit) kept) (coarse : ledger.smallest ≤ unit) :
    (10 : Rat) ^ kept / 2 < ((parts - whole % parts : Nat) : Rat) / parts * 10 ^ unit := by
  rcases rounds.2.2 with finest | filled
  · exact finest ▸ gap_gt_of_finest few some_parts coarse
  · exact gap_gt_of_filled few some_parts filled

/-- The last digit kept of a quotient of whole units lies in the unit or below it. -/
theorem kept_le (least : ledger.tiniest ≤ unit) (few : whole < 10 ^ (ledger.digits - 1))
    (some_parts : 1 ≤ parts) (rounds : IsRoundingUnit ((whole : Rat) / parts * 10 ^ unit) kept) :
    kept ≤ unit := by
  have power : (0 : Rat) < 10 ^ unit := by positivity
  have many : ledger.digits = 28 := rfl
  rcases rounds.2.2 with finest | filled
  · exact finest ▸ least
  · have small : |(whole : Rat) / parts * 10 ^ unit| < 10 ^ (unit + (ledger.digits - 1 : Nat)) := by
      rw [abs_of_nonneg (by positivity)]
      have size := abs_units_lt (show (whole : Int).natAbs < 10 ^ (ledger.digits - 1) from few) unit
      refine lt_of_le_of_lt ?_ ((le_abs_self _).trans_lt size)
      refine mul_le_mul_of_nonneg_right ?_ power.le
      exact div_le_self (by positivity) (by exact_mod_cast some_parts)
    have between := filled.trans_lt small
    rw [zpow_lt_zpow_iff_right₀ (by norm_num)] at between
    omega

/-- Where the rounded quotient lies: the next whole number is reached only for units among the
last ones, and only from at most half a unit below. -/
theorem quotient_cases (least : ledger.tiniest ≤ unit) (few : whole < 10 ^ (ledger.digits - 1))
    (some_parts : 1 ≤ parts) (rounds : IsRoundingUnit ((whole : Rat) / parts * 10 ^ unit) kept)
    (nearest : IsNearest kept ((whole : Rat) / parts * 10 ^ unit) quotient) :
    ∃ count : Nat, (count : Rat) * 10 ^ unit ≤ quotient ∧ quotient < ((count : Rat) + 1) * 10 ^ unit ∧
      (count = whole / parts ∨ count = whole / parts + 1 ∧ parts ≤ 2 * (whole % parts) ∧
        unit < ledger.smallest) := by
  have power : (0 : Rat) < 10 ^ unit := by positivity
  have positive : (0 : Rat) < parts := by exact_mod_cast (by omega : 0 < parts)
  have gap := gap_eq whole some_parts unit
  have less := Nat.mod_lt whole (by omega : 0 < parts)
  have whole_part : ((whole / parts : Nat) : Rat) * 10 ^ unit ≤ (whole : Rat) / parts * 10 ^ unit :=
    mul_le_mul_of_nonneg_right Nat.cast_div_le power.le
  have finer := kept_le least few some_parts rounds
  have grid : OnGrid kept (((whole / parts : Nat) : Rat) * 10 ^ unit) :=
    OnGrid.finer finer ⟨(whole / parts : Nat), by push_cast; rfl⟩
  have lower := nearest.le_of_onGrid grid whole_part
  have last : (10 : Rat) ^ kept ≤ 10 ^ unit := zpow_le_zpow_right₀ (by norm_num) finer
  have near := nearest.choose_spec.2.1
  have above := (abs_le.mp (by linarith : |quotient - (whole : Rat) / parts * 10 ^ unit| ≤ 10 ^ kept / 2)).2
  have some_gap : (0 : Rat) < ((parts - whole % parts : Nat) : Rat) / parts * 10 ^ unit := by
    have : (0 : Rat) < (parts - whole % parts : Nat) := by
      exact_mod_cast (by omega : 0 < parts - whole % parts)
    positivity
  by_cases reached : quotient < ((whole / parts : Nat) + 1 : Rat) * 10 ^ unit
  · exact ⟨whole / parts, lower, reached, Or.inl rfl⟩
  · have reached := not_lt.mp reached
    refine ⟨whole / parts + 1, by push_cast; exact reached, ?_, Or.inr ⟨rfl, ?_, ?_⟩⟩
    · push_cast
      linarith
    · have half : ((parts - whole % parts : Nat) : Rat) / parts * 10 ^ unit ≤ 1 / 2 * 10 ^ unit := by
        linarith
      rw [mul_le_mul_iff_left₀ power, div_le_div_iff₀ positive (by norm_num)] at half
      have : (parts - whole % parts) * 2 ≤ 1 * parts := by exact_mod_cast half
      omega
    · by_contra coarse
      have wide := gap_gt few some_parts rounds (not_lt.mp coarse)
      linarith

end Quotient

variable {unit sign : Int} {whole parts : Nat} {amount : Decimal}

/-- A quotient of fewer units than the digits hold is far below the greatest number. -/
theorem quotient_le_greatest (most : unit ≤ topUnit + 1) (few : whole < 10 ^ (ledger.digits - 1))
    (some_parts : 1 ≤ parts) : (whole : Rat) / parts * 10 ^ unit ≤ greatest := by
  have power : (0 : Rat) < 10 ^ unit := by positivity
  have many : ledger.digits = 28 := rfl
  have fewer : (whole : Rat) / parts ≤ 10 ^ 27 - 1 := by
    have : (whole : Rat) + 1 ≤ 10 ^ 27 := by exact_mod_cast few
    exact (div_le_self (by positivity) (by exact_mod_cast some_parts)).trans (by linarith)
  have scale : (10 : Rat) ^ (topUnit + 1) = 10 * 10 ^ topUnit := by
    rw [zpow_add_one₀ (by norm_num), mul_comm]
  have high : (10 : Rat) ^ unit ≤ 10 ^ (topUnit + 1) := zpow_le_zpow_right₀ (by norm_num) most
  have top : (0 : Rat) < 10 ^ topUnit := by positivity
  calc (whole : Rat) / parts * 10 ^ unit
      ≤ (10 ^ 27 - 1) * 10 ^ (topUnit + 1) :=
        mul_le_mul fewer high power.le (by norm_num)
    _ ≤ greatest := by
        rw [scale, greatest, many, ← mul_assoc]
        exact mul_le_mul_of_nonneg_right (by norm_num) top.le

/-- A unit more than the quotient does not take another digit, since it is only reached among two
parties or more. -/
theorem succ_quotient_lt (few : whole < 10 ^ (ledger.digits - 1)) (some_parts : 1 ≤ parts)
    (half : parts ≤ 2 * (whole % parts)) : whole / parts + 1 < 10 ^ (ledger.digits - 1) := by
  have many : ledger.digits = 28 := rfl
  have two : 2 ≤ parts := by
    have := Nat.mod_lt whole some_parts
    omega
  have halved : whole / parts ≤ whole / 2 := Nat.div_le_div_left two (by decide)
  rw [many] at few ⊢
  omega

/-- The share that everyone gets is the whole quotient; among the last units it may be one unit
more. -/
theorem exists_baseShare_units (least : ledger.tiniest ≤ unit) (most : unit ≤ topUnit + 1)
    (signs : sign.natAbs = 1) (amounts : Amounts unit (sign * whole) amount)
    (few : whole < 10 ^ (ledger.digits - 1)) (some_parts : 1 ≤ parts) :
    ∃ base, ∃ count : Nat, baseShare amount ⟨false, 1, unit⟩ parts = .ok base ∧
      Amounts unit (sign * count) base ∧
      (count = whole / parts ∨ count = whole / parts + 1 ∧ parts ≤ 2 * (whole % parts) ∧
        unit < ledger.smallest) := by
  have power : (0 : Rat) < 10 ^ unit := by positivity
  have divides : (ofNat parts).isZero = false := by
    rw [isZero, beq_eq_false_iff_ne]
    exact (Nat.one_le_iff_ne_zero.mp some_parts : parts ≠ 0)
  have exact_value : amount.value / (ofNat parts).value = sign * ((whole : Rat) / parts * 10 ^ unit) := by
    rw [amounts, value_ofNat]
    push_cast
    ring
  have size : |(sign : Rat)| = 1 := by
    rw [← Int.cast_abs, Int.abs_eq_natAbs, signs]
    norm_num
  have magnitude : |amount.value / (ofNat parts).value| = (whole : Rat) / parts * 10 ^ unit := by
    rw [exact_value, abs_mul, size, one_mul, abs_of_nonneg (by positivity)]
  have held := quotient_le_greatest most few some_parts
  rcases exists_div divides (magnitude ▸ held : |amount.value / _| ≤ greatest) with ⟨quotient, divided⟩
  rcases div_value divides divided with ⟨kept, rounds, nearest⟩
  have rounds' : IsRoundingUnit ((whole : Rat) / parts * 10 ^ unit) kept := by
    rw [IsRoundingUnit, magnitude] at rounds
    rwa [IsRoundingUnit, abs_of_nonneg (by positivity)]
  rw [exact_value] at nearest
  rcases quotient_cases least few some_parts rounds' (nearest.signed signs) with
    ⟨count, lower, upper, shape⟩
  have short : count < 10 ^ (ledger.digits - 1) := by
    rcases shape with rfl | ⟨rfl, half, -⟩
    · exact (Nat.div_le_self whole parts).trans_lt few
    · exact succ_quotient_lt few some_parts half
  rcases quantize_down least most signs short lower upper with ⟨base, cut, base_amounts⟩
  exact ⟨base, count, by rw [baseShare, divided]; exact cut, base_amounts, shape⟩

/-! ## Sharing whole units -/

/-- A way to share a whole number of units: the first parties get `count` units each, and the last
ones, `extra` in number, get one unit more or one less. -/
structure Plan (whole parts : Nat) where
  front : Nat
  extra : Nat
  count : Nat
  more : Nat
  parties : front + extra = parts
  next : more = count + 1 ∨ count = more + 1
  total : front * count + extra * more = whole

namespace Plan

/-- Everyone gets the whole quotient, and the units that are left over go to the last parties. -/
def even (whole : Nat) (some_parts : 1 ≤ parts) : Plan whole parts where
  front := parts - whole % parts
  extra := whole % parts
  count := whole / parts
  more := whole / parts + 1
  parties := Nat.sub_add_cancel (Nat.mod_lt whole some_parts).le
  next := Or.inl rfl
  total := by
    have less := Nat.mod_lt whole some_parts
    rw [mul_add_one, ← add_assoc, ← add_mul, Nat.sub_add_cancel less.le]
    exact Nat.div_add_mod whole parts

/-- Everyone gets a unit more than the whole quotient, and the last parties give back what is
missing. -/
def raised (whole : Nat) (some_parts : 1 ≤ parts) : Plan whole parts where
  front := whole % parts
  extra := parts - whole % parts
  count := whole / parts + 1
  more := whole / parts
  parties := Nat.add_sub_cancel' (Nat.mod_lt whole some_parts).le
  next := Or.inr rfl
  total := by
    have less := Nat.mod_lt whole some_parts
    rw [mul_add_one, add_right_comm, ← add_mul, Nat.add_sub_cancel' less.le]
    exact Nat.div_add_mod whole parts

variable (plan : Plan whole parts)

/-- What each party gets. -/
def units : List Nat :=
  List.replicate plan.front plan.count ++ List.replicate plan.extra plan.more

theorem length_units : plan.units.length = parts := by
  rw [units, List.length_append, List.length_replicate, List.length_replicate, plan.parties]

theorem sum_units : plan.units.sum = whole := by
  rw [units, List.sum_append, List.sum_replicate, List.sum_replicate, nsmul_eq_mul, nsmul_eq_mul,
    Nat.cast_id, Nat.cast_id, plan.total]

/-- What is left over once everyone got `count` units is one unit for each of the last parties, in
the direction of the difference. -/
theorem remainder_eq (sign : Int) :
    sign * whole - sign * plan.count * parts = plan.extra * (sign * ((plan.more : Int) - plan.count)) := by
  have total : (whole : Int) = plan.front * plan.count + plan.extra * plan.more := by
    exact_mod_cast plan.total.symm
  have parties : (parts : Int) = plan.front + plan.extra := by exact_mod_cast plan.parties.symm
  rw [total, parties]
  ring

theorem natAbs_remainder (signs : sign.natAbs = 1) :
    (plan.extra * (sign * ((plan.more : Int) - plan.count))).natAbs = plan.extra := by
  have next := plan.next
  rw [Int.natAbs_mul, Int.natAbs_mul, signs, (by omega : ((plan.more : Int) - plan.count).natAbs = 1),
    one_mul, mul_one, Int.natAbs_natCast]

theorem extra_le {limit : Nat} (few : whole ≤ limit) (product_few : plan.count * parts ≤ limit) :
    plan.extra ≤ limit := by
  have total := plan.total
  have parties := plan.parties
  rcases plan.next with one_more | one_less
  · rw [one_more] at total
    nlinarith
  · rw [one_less] at product_few
    nlinarith

/-- No party gets more than what is shared. -/
theorem le_of_mem {number : Nat} (member : number ∈ plan.units) : number ≤ whole :=
  plan.sum_units ▸ List.le_sum_of_mem member

/-- What two parties get differs by one unit at most. -/
theorem apart {first second : Nat} (here : first ∈ plan.units) (there : second ∈ plan.units) :
    first ≤ second + 1 := by
  have either : ∀ number ∈ plan.units, number = plan.count ∨ number = plan.more := by
    intro number member
    exact (List.mem_append.mp member).imp List.eq_of_mem_replicate List.eq_of_mem_replicate
  have next := plan.next
  have one := either first here
  have other := either second there
  omega

end Plan

/-! ## Handing out what is left over -/

/-- As many places as there are units receive one, and they are the last ones. -/
theorem receivers?_eq {units : Nat} (enough : units ≤ parts) :
    receivers? parts units = some (List.range' (parts - units) units) := by
  rw [receivers?, if_neg (by omega)]
  congr 1
  refine List.ext_getElem (by simp) fun place below _ => ?_
  simp only [List.length_map, List.length_range'] at below
  rw [List.getElem_map, List.getElem_range', List.getElem_range', one_mul]
  have beyond : 2 * parts - units + place = parts - units + place + parts := by omega
  rw [beyond, Nat.add_mod_right, Nat.mod_eq_of_lt (by omega)]

/-- Handing out one step each to the last places. -/
theorem handOut_last {step base next : Decimal} {units : Nat}
    (added : units ≠ 0 → base.add step = .ok next) (front : List Decimal) :
    handOut step (List.range' front.length units) (front ++ List.replicate units base) =
      .ok (front ++ List.replicate units next) := by
  induction units generalizing front with
  | zero => rfl
  | succ units ih =>
      have here : (front ++ List.replicate (units + 1) base)[front.length]? = some base := by
        rw [List.getElem?_append_right le_rfl, Nat.sub_self, List.replicate_succ]
        rfl
      have moved : (front ++ List.replicate (units + 1) base).set front.length next =
          (front ++ [next]) ++ List.replicate units base := by
        rw [List.set_append_right _ _ le_rfl, Nat.sub_self, List.replicate_succ, List.set_cons_zero,
          List.append_assoc, List.singleton_append]
      have final : front ++ List.replicate (units + 1) next =
          (front ++ [next]) ++ List.replicate units next := by
        rw [List.replicate_succ, List.append_assoc, List.singleton_append]
      have rest := ih (fun _ => added (Nat.succ_ne_zero units)) (front ++ [next])
      rw [List.length_append, List.length_singleton] at rest
      rw [List.range'_succ, handOut, here]
      dsimp only
      rw [added (Nat.succ_ne_zero units), final, ← rest, ← moved]
      rfl

/-- The shares of one unit, each with its number of units. -/
def Counted (currency : Text) (unit : Int) (counts : List Int) (shares : List Money) : Prop :=
  List.Forall₂ (fun count share => share.currency = currency ∧ Amounts unit count share.amount)
    counts shares

/-- Nothing is left for the last share to take in. -/
theorem topUpLast_zero {unit : Int} {limit : Nat} (holds : Holds unit limit) {residue : Decimal}
    (nothing : Amounts unit 0 residue) {counts : List Int} {shares : List Decimal}
    (some_shares : shares ≠ []) (few : ∀ count ∈ counts, count.natAbs ≤ limit)
    (counted : List.Forall₂ (Amounts unit) counts shares) :
    ∃ topped, topUpLast residue shares = .ok topped ∧ List.Forall₂ (Amounts unit) counts topped := by
  rw [← List.dropLast_append_getLast some_shares] at counted
  have before := List.forall₂_take_append counts _ _ counted
  have final := List.forall₂_drop_append counts _ _ counted
  rcases List.forall₂_cons_right_iff.mp final with ⟨count, rest, here, none, split⟩
  rcases List.forall₂_nil_right_iff.mp none with rfl
  have small := few count (List.mem_of_mem_drop (split ▸ List.mem_cons_self))
  rcases Amounts.add holds here nothing (by rwa [add_zero]) with ⟨next, added, amounts⟩
  rw [add_zero] at amounts
  have last : List.Forall₂ (Amounts unit) [count] [next] := .cons amounts .nil
  rw [← split] at last
  have whole : List.Forall₂ (Amounts unit) (_ ++ _) (_ ++ _) := List.rel_append before last
  rw [List.take_append_drop] at whole
  refine ⟨shares.dropLast ++ [next], ?_, whole⟩
  unfold topUpLast
  rw [List.getLast?_eq_some_getLast some_shares]
  dsimp only
  rw [added]
  rfl

/-- The step that is handed out points to where the remainder lies. -/
theorem exists_step {limit : Nat} (holds : Holds unit limit) (some_units : 1 ≤ limit)
    {difference : Int} {remainder : Decimal} (amounts : Amounts unit difference remainder) :
    ∃ step, ∃ count : Int,
      (if remainder.isPositive then .ok ⟨false, 1, unit⟩ else Decimal.neg ⟨false, 1, unit⟩) = .ok step ∧
      Amounts unit count step ∧ (difference ≠ 0 → count = difference.sign) := by
  have power : (0 : Rat) < 10 ^ unit := by positivity
  have single := Amounts.single unit
  have side : remainder.isPositive = true ↔ 0 < difference := by
    rw [isPositive_iff, amounts, mul_pos_iff_of_pos_right power, Int.cast_pos]
  by_cases positive : 0 < difference
  · rw [if_pos (side.mpr positive)]
    exact ⟨_, 1, rfl, single, fun _ => (Int.sign_eq_one_of_pos positive).symm⟩
  · rw [if_neg (side.not.mpr positive)]
    rcases single.neg holds (by simpa using some_units) with ⟨step, negated, step_amounts⟩
    refine ⟨step, -1, negated, step_amounts, fun other => ?_⟩
    exact (Int.sign_eq_neg_one_of_neg (by omega)).symm

/-- The total of the shares after the units are handed out. -/
theorem exists_sum_stepped {limit front count extra more : Nat} {base last : Decimal}
    (holds : Holds unit limit) (signs : sign.natAbs = 1) (base_amounts : Amounts unit (sign * count) base)
    (last_amounts : Amounts unit (sign * more) last) (few : front * count + extra * more ≤ limit) :
    ∃ total, sum (List.replicate front base ++ List.replicate extra last) = .ok total ∧
      Amounts unit (sign * (front * count + extra * more : Nat)) total := by
  have start : Amounts unit (sign * (0 : Nat)) Decimal.zero := by
    rw [Nat.cast_zero, mul_zero]
    exact Amounts.zero unit
  rcases Amounts.foldlM_replicate holds signs start base_amounts (by omega : 0 + front * count ≤ limit)
    with ⟨partial_sum, first, partial_amounts⟩
  rw [zero_add] at partial_amounts
  rcases Amounts.foldlM_replicate holds signs partial_amounts last_amounts few with
    ⟨total, second, total_amounts⟩
  refine ⟨total, ?_, total_amounts⟩
  rw [sum, List.foldlM_append, first]
  exact second

/-- The share of the last parties: with a step more, it has the other number of units. -/
theorem exists_last {limit count more extra : Nat} {difference direction : Int} {base step : Decimal}
    (holds : Holds unit limit) (signs : sign.natAbs = 1) (base_amounts : Amounts unit (sign * count) base)
    (step_amounts : Amounts unit direction step) (next : more = count + 1 ∨ count = more + 1)
    (shape : difference = extra * (sign * ((more : Int) - count)))
    (directed : difference ≠ 0 → direction = difference.sign) (few : extra * more ≤ limit) :
    ∃ last, Amounts unit (sign * more) last ∧ (extra ≠ 0 → base.add step = .ok last) := by
  have single : (sign * ((more : Int) - count)).natAbs = 1 := by
    rw [Int.natAbs_mul, signs]
    omega
  by_cases none : extra = 0
  · rcases Amounts.exists_number unit (sign * more) with ⟨last, amounts⟩
    exact ⟨last, amounts, fun some_extra => absurd none some_extra⟩
  · have turned : (sign * ((more : Int) - count)).sign = sign * ((more : Int) - count) := by
      rcases Int.natAbs_eq (sign * ((more : Int) - count)) with up | down
      · rw [up, single]
        rfl
      · rw [down, single]
        rfl
    have some_difference : difference ≠ 0 := by
      rw [shape]
      exact Int.mul_ne_zero (Int.natCast_ne_zero.mpr none) (by omega)
    have same : sign * count + direction = sign * more := by
      rw [directed some_difference, shape, Int.sign_mul, Int.sign_natCast_of_ne_zero none, one_mul, turned]
      ring
    have more_few : more ≤ limit := (Nat.le_mul_of_pos_left more (Nat.pos_of_ne_zero none)).trans few
    rcases base_amounts.add holds step_amounts (by
      rw [same, natAbs_signed signs]
      exact more_few) with ⟨last, added, amounts⟩
    exact ⟨last, same ▸ amounts, fun _ => added⟩

/-- Once the share that everyone gets is known, the shares are as they were meant: the last ones
differ from it by one unit, and nothing is rounded away. -/
theorem exists_splitEven_units {money : Money} {precision : Int} {limit : Nat} (plan : Plan whole parts)
    {base : Decimal} (holds : Holds (-precision) limit) (some_units : 1 ≤ limit)
    (short : limit < 10 ^ ledger.digits)
    (smallest : smallestUnit precision = .ok ⟨false, 1, -precision⟩) (signs : sign.natAbs = 1)
    (amounts : Amounts (-precision) (sign * whole) money.amount) (some_parts : 1 ≤ parts)
    (divided : baseShare money.amount ⟨false, 1, -precision⟩ parts = .ok base)
    (base_amounts : Amounts (-precision) (sign * plan.count) base) (few : whole ≤ limit)
    (product_few : plan.count * parts ≤ limit) :
    ∃ shares, money.splitEven parts precision = .ok shares ∧
      Counted money.currency (-precision) (plan.units.map fun count : Nat => sign * count) shares := by
  generalize -precision = unit at *
  have size := plan.natAbs_remainder signs
  have extra_few := plan.extra_le few product_few
  -- The remainder is one unit for each of the last shares.
  rcases base_amounts.mul holds parts (by
    rw [mul_assoc, ← Nat.cast_mul, natAbs_signed signs]
    exact product_few) with ⟨product, multiplied, product_amounts⟩
  rcases amounts.sub holds product_amounts (by rw [plan.remainder_eq, size]; exact extra_few) with
    ⟨remainder, left_over, remainder_amounts⟩
  have subtracted : (do money.amount.sub (← base.mul (ofNat parts))) = .ok remainder := by
    rw [multiplied]
    exact left_over
  rw [plan.remainder_eq] at remainder_amounts
  rcases exists_step holds some_units remainder_amounts with
    ⟨step, direction, turned, step_amounts, directed⟩
  rcases remainder_amounts.abs holds (by rw [size]; exact extra_few) with
    ⟨magnitude, unsigned, magnitude_amounts⟩
  rw [size] at magnitude_amounts
  have counted : (do wholeQuotient (← remainder.abs) ⟨false, 1, unit⟩) = .ok plan.extra := by
    rw [unsigned]
    exact magnitude_amounts.wholeQuotient (Amounts.single unit) (extra_few.trans_lt short)
  -- Handing the units out leaves the shares that were meant.
  rcases exists_last holds signs base_amounts step_amounts plan.next rfl directed
    ((Nat.le_add_left _ _).trans (plan.total.trans_le few)) with ⟨last, last_amounts, added⟩
  have received : receivers? parts plan.extra = some (List.range' plan.front plan.extra) := by
    rw [receivers?_eq ((Nat.le_add_left _ _).trans_eq plan.parties), Nat.sub_eq_of_eq_add plan.parties.symm]
  have handed := handOut_last added (List.replicate plan.front base)
  rw [List.length_replicate, List.replicate_append_replicate, plan.parties] at handed
  -- They come to the whole amount, so the last share has nothing to take in.
  rcases exists_sum_stepped holds signs base_amounts last_amounts (plan.total.trans_le few) with
    ⟨total, summed, total_amounts⟩
  rw [plan.total] at total_amounts
  rcases amounts.sub holds total_amounts (by rw [sub_self]; exact Nat.zero_le _) with
    ⟨residue, rest, residue_amounts⟩
  have left : (do money.amount.sub (← sum (List.replicate plan.front base ++
      List.replicate plan.extra last))) = .ok residue := by
    rw [summed]
    exact rest
  rw [sub_self] at residue_amounts
  have stepped_amounts : List.Forall₂ (Amounts unit) (plan.units.map fun count : Nat => sign * count)
      (List.replicate plan.front base ++ List.replicate plan.extra last) := by
    rw [Plan.units, List.map_append, List.map_replicate, List.map_replicate]
    exact List.rel_append (forall₂_replicate base_amounts _) (forall₂_replicate last_amounts _)
  have some_shares : List.replicate plan.front base ++ List.replicate plan.extra last ≠ [] := by
    refine List.ne_nil_of_length_pos ?_
    rw [← List.Forall₂.length_eq stepped_amounts, List.length_map, plan.length_units]
    exact some_parts
  have each_few : ∀ count ∈ plan.units.map fun count : Nat => sign * (count : Int), count.natAbs ≤ limit := by
    intro count member
    rcases List.mem_map.mp member with ⟨number, inside, rfl⟩
    rw [natAbs_signed signs]
    exact (plan.le_of_mem inside).trans few
  rcases topUpLast_zero holds residue_amounts some_shares each_few stepped_amounts with
    ⟨topped, last_topped, topped_amounts⟩
  refine ⟨_, splitEven_eq_ok_iff.mpr ⟨by exact_mod_cast some_parts, ⟨_, base, remainder, step, plan.extra,
    _, _, residue, topped, smallest, divided, subtracted, turned, counted, received, handed, left,
    last_topped⟩, rfl⟩, ?_⟩
  exact List.forall₂_map_right_iff.mpr (topped_amounts.imp fun _ _ held => ⟨rfl, held⟩)

/-! ## The shares of an amount -/

/-- The shares of a whole number of units: for all but the finest units, everyone gets the whole
quotient, and the last ones, as many as units are left over, get one more. -/
theorem exists_splitEven_counts {money : Money} {precision : Int} (least : ledger.tiniest ≤ -precision)
    (most : -precision ≤ topUnit + 1) (signs : sign.natAbs = 1)
    (amounts : Amounts (-precision) (sign * whole) money.amount)
    (few : whole < 10 ^ (ledger.digits - 1)) (some_parts : 1 ≤ parts) :
    ∃ shares, money.splitEven parts precision = .ok shares ∧ ∃ plan : Plan whole parts,
      Counted money.currency (-precision) (plan.units.map fun count : Nat => sign * count) shares ∧
      (plan = .even whole some_parts ∨ -precision < ledger.smallest) := by
  have many : ledger.digits = 28 := rfl
  have large : ledger.largest = 999999 := rfl
  have top : topUnit = 999972 := rfl
  have smallest := smallestUnit_of_inside (by omega) least
  have product : whole / parts * parts ≤ whole := Nat.div_mul_le_self whole parts
  rcases exists_baseShare_units least most signs amounts few some_parts with
    ⟨base, count, divided, base_amounts, rfl | ⟨rfl, half, fine⟩⟩
  · rcases exists_splitEven_units (.even whole some_parts) (holds_of_le least most) (by decide) (by decide)
      smallest signs amounts some_parts divided base_amounts (by omega)
      (product.trans (by omega)) with ⟨shares, ok, counted⟩
    exact ⟨shares, ok, _, counted, Or.inl rfl⟩
  · have small : ledger.smallest ≤ topUnit := by decide
    have below : whole % parts ≤ whole := Nat.mod_le whole parts
    have raised : (whole / parts + 1) * parts ≤ whole + parts := by
      rw [add_one_mul]
      exact Nat.add_le_add_right product parts
    rw [many] at few
    rcases exists_splitEven_units (.raised whole some_parts) (holds_of_isUnit ⟨least, by omega⟩) (by decide)
      (by decide) smallest signs amounts some_parts divided base_amounts (by rw [many]; omega)
      (raised.trans (by rw [many]; omega)) with ⟨shares, ok, counted⟩
    exact ⟨shares, ok, _, counted, Or.inr fine⟩

/-- Whatever the unit, the shares are whole numbers of units of one sign that add up to all of them. -/
theorem exists_splitEven_sum {money : Money} {precision : Int} (least : ledger.tiniest ≤ -precision)
    (most : -precision ≤ topUnit + 1) (signs : sign.natAbs = 1)
    (amounts : Amounts (-precision) (sign * whole) money.amount)
    (few : whole < 10 ^ (ledger.digits - 1)) (some_parts : 1 ≤ parts) :
    ∃ shares, money.splitEven parts precision = .ok shares ∧ ∃ counts : List Nat,
      counts.length = parts ∧ counts.sum = whole ∧
      Counted money.currency (-precision) (counts.map fun count : Nat => sign * count) shares := by
  rcases exists_splitEven_counts least most signs amounts few some_parts with
    ⟨shares, ok, plan, counted, -⟩
  exact ⟨shares, ok, plan.units, plan.length_units, plan.sum_units, counted⟩

theorem exists_sign (n : Int) : ∃ sign : Int, sign.natAbs = 1 ∧ n = sign * n.natAbs ∧
    (n ≠ 0 → sign = n.sign) := by
  rcases eq_or_ne n 0 with rfl | some_units
  · exact ⟨1, rfl, rfl, fun other => absurd rfl other⟩
  · exact ⟨n.sign, Int.natAbs_sign_of_ne_zero some_units, (Int.sign_mul_natAbs n).symm, fun _ => rfl⟩

namespace Counted

variable {currency : Text} {counts : List Int} {shares : List Money}

theorem length_eq (counted : Counted currency unit counts shares) : shares.length = counts.length :=
  (List.Forall₂.length_eq counted).symm

theorem currency_eq (counted : Counted currency unit counts shares) :
    ∀ share ∈ shares, share.currency = currency := by
  intro share member
  rcases exists_of_forall₂ counted member with ⟨count, -, same, -⟩
  exact same

theorem exists_count (counted : Counted currency unit counts shares) {share : Money}
    (member : share ∈ shares) : ∃ count ∈ counts, Amounts unit count share.amount := by
  rcases exists_of_forall₂ counted member with ⟨count, inside, -, amounts⟩
  exact ⟨count, inside, amounts⟩

theorem values_eq (counted : Counted currency unit counts shares) :
    shares.map (·.amount.value) = counts.map fun count : Int => (count : Rat) * 10 ^ unit := by
  induction counted with
  | nil => rfl
  | cons first _ ih => rw [List.map_cons, List.map_cons, ih, first.2]

/-- The shares come to as many units as they have together. -/
theorem sum_values (counted : Counted currency unit counts shares) :
    (shares.map (·.amount.value)).sum = (counts.sum : Rat) * 10 ^ unit := by
  induction counted with
  | nil => rw [List.map_nil, List.sum_nil, List.sum_nil, Int.cast_zero, zero_mul]
  | cons first _ ih =>
      rw [List.map_cons, List.sum_cons, ih, first.2, List.sum_cons, Int.cast_add, add_mul]

end Counted

theorem sum_signed (sign : Int) (counts : List Nat) :
    (counts.map fun count : Nat => sign * (count : Int)).sum = sign * (counts.sum : Nat) := by
  induction counts with
  | nil => rw [List.map_nil, List.sum_nil, List.sum_nil, Nat.cast_zero, mul_zero]
  | cons count rest ih => rw [List.map_cons, List.sum_cons, List.sum_cons, ih, Nat.cast_add, mul_add]

/-- An amount is divided exactly and fairly: everyone gets the whole quotient, the last ones, as
many as units are left over, get one unit more, and all shares have the sign of the amount. -/
theorem splitEven_fair {money : Money} {precision n : Int} {parts : Nat} (positive : 0 ≤ precision)
    (bounded : precision ≤ 999999) (amounts : money.amount.value = n * 10 ^ (-precision))
    (few : n.natAbs < 10 ^ 27) (some_parts : 1 ≤ parts) :
    ∃ shares, money.splitEven parts precision = .ok shares ∧ shares.length = parts ∧
      (∀ share ∈ shares, share.currency = money.currency) ∧
      shares.map (·.amount.value) =
        List.replicate (parts - n.natAbs % parts)
            (((n.sign * (n.natAbs / parts : Nat) : Int) : Rat) * 10 ^ (-precision)) ++
          List.replicate (n.natAbs % parts)
            (((n.sign * (n.natAbs / parts + 1 : Nat) : Int) : Rat) * 10 ^ (-precision)) ∧
      (shares.map (·.amount.value)).sum = money.amount.value ∧
      ∀ first ∈ shares, ∀ second ∈ shares,
        |first.amount.value - second.amount.value| ≤ 10 ^ (-precision) := by
  have coarse : ledger.smallest ≤ -precision := by
    have : ledger.smallest = -999999 := rfl
    omega
  have least : ledger.tiniest ≤ -precision := le_trans (by decide) coarse
  have most : -precision ≤ topUnit + 1 := (by omega : -precision ≤ 0).trans (by decide)
  rcases exists_sign n with ⟨sign, signs, signed, same_sign⟩
  rcases exists_splitEven_counts least most signs (signed ▸ amounts) few some_parts with
    ⟨shares, ok, plan, counted, rfl | fine⟩
  · have counts : ((Plan.even n.natAbs some_parts).units.map fun count : Nat => sign * (count : Int)) =
        List.replicate (parts - n.natAbs % parts) (n.sign * (n.natAbs / parts : Nat)) ++
          List.replicate (n.natAbs % parts) (n.sign * (n.natAbs / parts + 1 : Nat)) := by
      rw [Plan.units, List.map_append, List.map_replicate, List.map_replicate]
      rcases eq_or_ne n 0 with rfl | some_units
      · simp [Plan.even]
      · rw [same_sign some_units]
        rfl
    have values := counted.values_eq
    rw [counts, List.map_append, List.map_replicate, List.map_replicate] at values
    refine ⟨shares, ok, ?_, counted.currency_eq, values, ?_, ?_⟩
    · rw [counted.length_eq, List.length_map, Plan.length_units]
    · rw [counted.sum_values, sum_signed, Plan.sum_units, ← signed]
      exact amounts.symm
    · intro first here second there
      have power : (0 : Rat) < 10 ^ (-precision) := by positivity
      rcases counted.exists_count here with ⟨_, listed, first_amounts⟩
      rcases List.mem_map.mp listed with ⟨one, one_listed, rfl⟩
      rcases counted.exists_count there with ⟨_, listed, second_amounts⟩
      rcases List.mem_map.mp listed with ⟨other, other_listed, rfl⟩
      have upper := Plan.apart _ one_listed other_listed
      have lower := Plan.apart _ other_listed one_listed
      have apart : (sign * one - sign * other).natAbs ≤ 1 := by
        rw [← mul_sub, Int.natAbs_mul, signs]
        omega
      rw [first_amounts, second_amounts, ← sub_mul, abs_mul, abs_of_pos power, ← Int.cast_sub,
        ← Int.cast_abs, Int.abs_eq_natAbs]
      exact mul_le_of_le_one_left power.le (by exact_mod_cast apart)
  · omega

/-- Ten dollars owed, written with one zero too many, among three. -/
theorem splitEven_fair_thirds :
    (0 : Int) ≤ 2 ∧ (2 : Int) ≤ 999999 ∧
      (⟨true, 10000, -3⟩ : Decimal).value = ((-1000 : Int) : Rat) * 10 ^ (-2 : Int) ∧
      (-1000 : Int).natAbs < 10 ^ 27 ∧ 1 ≤ 3 ∧
      ∃ shares, splitEven ⟨['$'], ⟨true, 10000, -3⟩⟩ (3 : Nat) 2 = .ok shares ∧
        shares.map (·.amount.value) = [-3.33, -3.33, -3.34] := by
  have amounts : (⟨true, 10000, -3⟩ : Decimal).value = ((-1000 : Int) : Rat) * 10 ^ (-2 : Int) := by
    norm_num [Decimal.value]
  refine ⟨by decide, by decide, amounts, by decide, by decide, ?_⟩
  rcases @splitEven_fair ⟨['$'], ⟨true, 10000, -3⟩⟩ 2 (-1000) 3 (by decide) (by decide) amounts
    (by decide) (by decide) with ⟨shares, ok, -, -, values, -⟩
  have owed : (-1000 : Int).sign = -1 := rfl
  rw [owed] at values
  refine ⟨shares, ok, values.trans ?_⟩
  norm_num [List.replicate]

end Money
end Daybook
