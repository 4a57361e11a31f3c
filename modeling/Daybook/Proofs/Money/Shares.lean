import Daybook.Money.Shares
import Daybook.Proofs.Money.Printed

namespace Daybook

/-!
# Shares lie on the grid of the amount

Dividing an amount rounds in several places, yet every share is a whole number of the
smallest amounts of the currency: what is divided off lies on the grid, and sums and
differences do not leave it.  Nor can a share be large, however many there are, since
a total that is large against the steps does not feel them.  A division that succeeds
has succeeded in each of its steps; they are listed once, with the numbers between them,
so that nothing that is said of shares has to take the program apart again.
-/

namespace Decimal

/-- Whether a number lies on the grid of a unit and within a power of ten. -/
structure InBounds (unit power : Int) (d : Decimal) : Prop where
  grid : OnGrid unit d.value
  within : Within power d

namespace InBounds

variable {unit power : Int} {a b : Decimal}

theorem mono {larger : Int} (order : power ≤ larger) (bounds : InBounds unit power a) :
    InBounds unit larger a := ⟨bounds.grid, bounds.within.mono order⟩

theorem zero (unit power : Int) : InBounds unit power Decimal.zero :=
  ⟨by rw [value_zero]; exact OnGrid.zero unit, within_zero power⟩

theorem flipped (bounds : InBounds unit power a) : InBounds unit power a.flipped := by
  refine ⟨?_, ?_⟩
  · rw [value_flipped]
    exact bounds.grid.neg
  · rw [Within, value_flipped, abs_neg]
    exact bounds.within

/-- A total takes in a number that is small against its bound. -/
theorem exists_add (low : 0 ≤ power) (high : power < ledger.largest) (total : InBounds unit power a)
    (small : InBounds unit (power - margin) b) :
    ∃ sum, a.add b = .ok sum ∧ InBounds unit power sum := by
  rcases add_within low high total.within small.within with ⟨sum, ok, within⟩
  exact ⟨sum, ok, OnGrid.ofAdd total.grid small.grid ok, within⟩

theorem add {sum : Decimal} (low : 0 ≤ power) (high : power < ledger.largest)
    (total : InBounds unit power a) (small : InBounds unit (power - margin) b)
    (ok : a.add b = .ok sum) : InBounds unit power sum := by
  rcases total.exists_add low high small with ⟨known, same, bounds⟩
  exact Except.ok.inj (same.symm.trans ok) ▸ bounds

theorem exists_add_succ (low : 0 ≤ power) (high : power + 1 < ledger.largest)
    (first : InBounds unit power a) (second : InBounds unit power b) :
    ∃ sum, a.add b = .ok sum ∧ InBounds unit (power + 1) sum := by
  rcases add_within_succ low high first.within second.within with ⟨sum, ok, within⟩
  exact ⟨sum, ok, OnGrid.ofAdd first.grid second.grid ok, within⟩

theorem neg {opposite : Decimal} (low : 0 ≤ power) (high : power < ledger.largest)
    (bounds : InBounds unit power a) (ok : a.neg = .ok opposite) : InBounds unit power opposite := by
  rcases neg_within low high bounds.within with ⟨known, same, within⟩
  rcases Except.ok.inj (same.symm.trans ok) with rfl
  exact ⟨OnGrid.ofNeg bounds.grid ok, within⟩

theorem ofShown (shown : IsShown unit a) : InBounds unit 28 a := ⟨shown.onGrid, shown.within⟩

end InBounds

/-- Numbers that are small against a bound have a sum within it, however many they are. -/
theorem InBounds.exists_foldlM_add {unit power : Int} (low : 0 ≤ power) (high : power < ledger.largest)
    {numbers : List Decimal} {total : Decimal} (start : InBounds unit power total)
    (small : ∀ number ∈ numbers, InBounds unit (power - margin) number) :
    ∃ sum, numbers.foldlM Decimal.add total = .ok sum ∧ InBounds unit power sum := by
  induction numbers generalizing total with
  | nil => exact ⟨total, rfl, start⟩
  | cons number rest ih =>
      rcases start.exists_add low high (small number List.mem_cons_self) with ⟨next, added, bounds⟩
      rcases ih bounds (fun other member => small other (List.mem_cons_of_mem _ member)) with
        ⟨sum, ok, within⟩
      exact ⟨sum, by rw [List.foldlM_cons, added]; exact ok, within⟩

end Decimal

namespace Money

open Decimal

/-- The power of ten that bounds shares while steps are handed out. -/
def sharePower : Int := 28 + margin

/-- The power of ten that bounds the shares of an amount. -/
def splitPower : Int := sharePower + margin + 2

variable {unit power : Int}

/-- Handing out small steps succeeds and keeps the shares in bounds. -/
theorem exists_handOut (low : 0 ≤ power) (high : power < ledger.largest) {step : Decimal}
    (small : InBounds unit (power - margin) step) (places : List Nat) {shares : List Decimal}
    (before : ∀ share ∈ shares, InBounds unit power share) :
    ∃ stepped, handOut step places shares = .ok stepped ∧
      ∀ share ∈ stepped, InBounds unit power share := by
  induction places generalizing shares with
  | nil => exact ⟨shares, rfl, before⟩
  | cons place rest ih =>
      rw [handOut]
      split
      · rename_i share found
        rcases (before share (List.mem_of_getElem? found)).exists_add low high small with
          ⟨next, added, bounds⟩
        rw [added]
        refine ih fun other member => ?_
        rcases List.mem_or_eq_of_mem_set member with inside | rfl
        · exact before other inside
        · exact bounds
      · exact ih before

/-- The last share takes in a residue. -/
theorem exists_topUpLast (low : 0 ≤ power) (high : power + 1 < ledger.largest) {residue : Decimal}
    (rest : InBounds unit power residue) {shares : List Decimal}
    (before : ∀ share ∈ shares, InBounds unit power share) :
    ∃ topped, topUpLast residue shares = .ok topped ∧
      ∀ share ∈ topped, InBounds unit (power + 1) share := by
  unfold topUpLast
  split
  · rename_i last found
    rcases (before last (List.mem_of_getLast? found)).exists_add_succ low high rest with
      ⟨next, added, bounds⟩
    rw [added]
    refine ⟨_, rfl, fun share member => ?_⟩
    rcases List.mem_append.mp member with inside | inside
    · exact (before share (List.mem_of_mem_dropLast inside)).mono (by omega)
    · exact List.mem_singleton.mp inside ▸ bounds
  · exact ⟨[], rfl, fun _ member => by cases member⟩

/-- Once it is known who gets a unit more, nothing can go wrong: the totals stay far below the
largest exponent. -/
theorem exists_distribution {amount base step : Decimal} (amount_bounds : InBounds unit 28 amount)
    (base_bounds : InBounds unit 28 base) (step_bounds : InBounds unit 0 step) (count : Nat)
    (places : List Nat) :
    ∃ stepped, handOut step places (List.replicate count base) = .ok stepped ∧
      ∃ residue, (do amount.sub (← sum stepped)) = .ok residue ∧
        ∃ topped, topUpLast residue stepped = .ok topped ∧
          ∀ share ∈ topped, InBounds unit splitPower share := by
  have start : ∀ share ∈ List.replicate count base, InBounds unit sharePower share := by
    intro share member
    rw [(List.mem_replicate.mp member).2]
    exact base_bounds.mono (by decide)
  rcases exists_handOut (by decide) (by decide) (step_bounds.mono (by decide)) places start with
    ⟨stepped, handed, shares⟩
  have small : ∀ share ∈ stepped, InBounds unit (sharePower + margin - margin) share := by
    rw [add_sub_cancel_right]
    exact shares
  rcases InBounds.exists_foldlM_add (by decide) (by decide) (InBounds.zero unit _) small with
    ⟨total, summed, total_bounds⟩
  have whole : InBounds unit (sharePower + margin) amount := amount_bounds.mono (by decide)
  rcases whole.exists_add_succ (by decide) (by decide) total_bounds.flipped with
    ⟨residue, rest, residue_bounds⟩
  rcases exists_topUpLast (by decide) (by decide) residue_bounds
    (fun share member => (shares share member).mono (by decide)) with ⟨topped, last, topped_bounds⟩
  exact ⟨stepped, handed, residue, by rw [Decimal.sum, summed]; exact rest, topped, last,
    fun share member => (topped_bounds share member).mono (by decide)⟩

/-! ## The steps of a division -/

/-- The numbers that an even split passes through, from the smallest amount of the currency to
the shares. -/
structure Division (amount : Decimal) (count : Nat) (precision : Int) where
  unit : Decimal
  base : Decimal
  remainder : Decimal
  step : Decimal
  units : Nat
  places : List Nat
  stepped : List Decimal
  residue : Decimal
  shares : List Decimal
  smallest : smallestUnit precision = .ok unit
  divided : baseShare amount unit count = .ok base
  subtracted : (do amount.sub (← base.mul (ofNat count))) = .ok remainder
  turned : (if remainder.isPositive then .ok unit else unit.neg) = .ok step
  counted : (do wholeQuotient (← remainder.abs) unit) = .ok units
  received : receivers? count units = some places
  handed : handOut step places (List.replicate count base) = .ok stepped
  left : (do amount.sub (← sum stepped)) = .ok residue
  topped : topUpLast residue stepped = .ok shares

/-- The choice of the step, whose negation is computed with numbers. -/
theorem turned_eq_ok_iff {remainder unit step : Decimal} :
    (if remainder.isPositive then .ok unit else Outcome.ofNumbers unit.neg : Outcome Decimal) = .ok step ↔
      (if remainder.isPositive then .ok unit else unit.neg) = .ok step := by
  split
  · exact ⟨fun ok => Except.ok.inj ok ▸ rfl, fun ok => Except.ok.inj ok ▸ rfl⟩
  · exact Outcome.ofNumbers_eq_ok

/-- An even split among one party or more succeeds when each of its steps does. -/
theorem splitEven_eq_ok_iff {money : Money} {parts precision : Int} {shares : List Money} :
    money.splitEven parts precision = .ok shares ↔
      1 ≤ parts ∧ ∃ division : Division money.amount parts.toNat precision,
        shares = division.shares.map fun share => ⟨money.currency, share⟩ := by
  unfold splitEven
  constructor
  · intro ok
    split at ok
    · cases ok
    rename_i some_parts
    rcases Outcome.bind_eq_ok.mp ok with ⟨unit, smallest, ok⟩
    rcases Outcome.bind_eq_ok.mp ok with ⟨base, divided, ok⟩
    rcases Outcome.bind_eq_ok.mp ok with ⟨remainder, subtracted, ok⟩
    rcases Outcome.bind_eq_ok.mp (Outcome.choice_eq_bind.symm.trans ok) with ⟨step, turned, ok⟩
    rcases Outcome.bind_eq_ok.mp ok with ⟨units, counted, ok⟩
    split at ok
    · cases ok
    rename_i places received
    rcases Outcome.bind_eq_ok.mp ok with ⟨stepped, handed, ok⟩
    rcases Outcome.bind_eq_ok.mp ok with ⟨residue, left, ok⟩
    rcases Outcome.bind_eq_ok.mp ok with ⟨topped, last, ok⟩
    rw [Outcome.ofNumbers_eq_ok] at smallest divided subtracted counted handed left last
    exact ⟨not_lt.mp some_parts, ⟨unit, base, remainder, step, units, places, stepped, residue, topped,
      smallest, divided, subtracted, turned_eq_ok_iff.mp turned, counted, received, handed, left, last⟩,
      (Except.ok.inj ok).symm⟩
  · rintro ⟨some_parts, division, rfl⟩
    rw [if_neg (by omega)]
    refine Outcome.bind_eq_ok.mpr ⟨_, Outcome.ofNumbers_eq_ok.mpr division.smallest, ?_⟩
    refine Outcome.bind_eq_ok.mpr ⟨_, Outcome.ofNumbers_eq_ok.mpr division.divided, ?_⟩
    refine Outcome.bind_eq_ok.mpr ⟨_, Outcome.ofNumbers_eq_ok.mpr division.subtracted, ?_⟩
    refine Outcome.choice_eq_bind.trans
      (Outcome.bind_eq_ok.mpr ⟨_, turned_eq_ok_iff.mpr division.turned, ?_⟩)
    refine Outcome.bind_eq_ok.mpr ⟨_, Outcome.ofNumbers_eq_ok.mpr division.counted, ?_⟩
    rw [division.received]
    refine Outcome.bind_eq_ok.mpr ⟨_, Outcome.ofNumbers_eq_ok.mpr division.handed, ?_⟩
    refine Outcome.bind_eq_ok.mpr ⟨_, Outcome.ofNumbers_eq_ok.mpr division.left, ?_⟩
    exact Outcome.bind_eq_ok.mpr ⟨_, Outcome.ofNumbers_eq_ok.mpr division.topped, rfl⟩

namespace Division

variable {amount : Decimal} {count : Nat} {precision : Int}

theorem unitExponent_eq (division : Division amount count precision) :
    unitExponent precision = .ok division.unit.exponent := by
  rw [unitExponent, division.smallest]
  rfl

theorem unit_bounds (division : Division amount count precision) (positive : 0 ≤ precision) :
    InBounds division.unit.exponent 0 division.unit :=
  ⟨OnGrid.ofValue division.unit, (smallestUnit_eq_ok positive division.smallest).2.2⟩

theorem base_bounds (division : Division amount count precision) (positive : 0 ≤ precision) :
    InBounds division.unit.exponent 28 division.base := by
  rcases Outcome.bind_eq_ok.mp division.divided with ⟨quotient, -, quantized⟩
  have most := (smallestUnit_eq_ok positive division.smallest).2.1
  exact InBounds.ofShown (isShown_of_quantize most quantized)

theorem step_bounds (division : Division amount count precision) (positive : 0 ≤ precision) :
    InBounds division.unit.exponent 0 division.step := by
  have turned := division.turned
  split at turned
  · exact Except.ok.inj turned ▸ division.unit_bounds positive
  · exact (division.unit_bounds positive).neg le_rfl (by decide) turned

theorem shares_bounds (division : Division amount count precision) (positive : 0 ≤ precision)
    (bounds : InBounds division.unit.exponent 28 amount) :
    ∀ share ∈ division.shares, InBounds division.unit.exponent splitPower share := by
  obtain ⟨stepped, handed, residue, left, topped, last, bounds⟩ :=
    exists_distribution bounds (division.base_bounds positive) (division.step_bounds positive) count
      division.places
  rcases Except.ok.inj (division.handed.symm.trans handed) with rfl
  rcases Except.ok.inj (division.left.symm.trans left) with rfl
  rcases Except.ok.inj (division.topped.symm.trans last) with rfl
  exact bounds

end Division

/-- An amount is only divided in a currency that has a smallest unit. -/
theorem exists_unit_of_splitEven {money : Money} {parts precision : Int} {shares : List Money}
    (ok : money.splitEven parts precision = .ok shares) :
    ∃ unit, unitExponent precision = .ok unit := by
  rcases splitEven_eq_ok_iff.mp ok with ⟨-, division, -⟩
  exact ⟨_, division.unitExponent_eq⟩

/-- The shares are in the currency of what is divided. -/
theorem currency_of_splitEven {money : Money} {parts precision : Int} {shares : List Money}
    (ok : money.splitEven parts precision = .ok shares) :
    ∀ share ∈ shares, share.currency = money.currency := by
  rcases splitEven_eq_ok_iff.mp ok with ⟨-, division, rfl⟩
  intro share member
  rcases List.mem_map.mp member with ⟨number, -, rfl⟩
  rfl

/-- The shares of an amount on the grid of its currency. -/
theorem splitEven_eq_ok {money : Money} {parts precision : Int} {shares : List Money}
    (positive : 0 ≤ precision)
    (bounds : ∀ unit, unitExponent precision = .ok unit → InBounds unit 28 money.amount)
    (ok : money.splitEven parts precision = .ok shares) :
    ∀ share ∈ shares, share.currency = money.currency ∧
      ∀ unit, unitExponent precision = .ok unit → InBounds unit splitPower share.amount := by
  rcases splitEven_eq_ok_iff.mp ok with ⟨-, division, rfl⟩
  have exponent := division.unitExponent_eq
  intro share member
  rcases List.mem_map.mp member with ⟨number, inside, rfl⟩
  refine ⟨rfl, ?_⟩
  intro unit same
  rcases Except.ok.inj (exponent.symm.trans same) with rfl
  exact division.shares_bounds positive (bounds _ exponent) number inside

end Money
end Daybook
