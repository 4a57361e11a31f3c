import Daybook.Money.Basic
import Daybook.Proofs.Decimal.Value
import Daybook.Proofs.Table
import Mathlib.Algebra.BigOperators.Group.List.Basic

namespace Daybook

/-!
# Totals of amounts of money

What a list of amounts adds up to in a currency is said of values, so that nothing is
rounded.  A list that shows the totals of another names every currency of it once, and no
other; a table of amounts under their currencies is such a list.
-/

namespace Money

def totalIn (currency : Text) (moneys : List Money) : Rat :=
  ((moneys.filter (·.currency == currency)).map (·.amount.value)).sum

/-- What the amounts in a currency add up to without their signs. -/
def turnoverIn (currency : Text) (moneys : List Money) : Rat :=
  ((moneys.filter (·.currency == currency)).map (|·.amount.value|)).sum

variable {currency : Text} {money : Money} {moneys others : List Money}

theorem totalIn_append : totalIn currency (moneys ++ others) =
    totalIn currency moneys + totalIn currency others := by
  rw [totalIn, List.filter_append, List.map_append, List.sum_append, ← totalIn, ← totalIn]

theorem totalIn_cons (money : Money) (moneys : List Money) :
    totalIn currency (money :: moneys) = totalIn currency [money] + totalIn currency moneys := by
  rw [← totalIn_append, List.singleton_append]

theorem turnoverIn_append : turnoverIn currency (moneys ++ others) =
    turnoverIn currency moneys + turnoverIn currency others := by
  rw [turnoverIn, List.filter_append, List.map_append, List.sum_append, ← turnoverIn, ← turnoverIn]

theorem totalIn_perm (same : moneys.Perm others) : totalIn currency moneys = totalIn currency others :=
  ((same.filter _).map _).sum_eq

theorem turnoverIn_perm (same : moneys.Perm others) :
    turnoverIn currency moneys = turnoverIn currency others :=
  ((same.filter _).map _).sum_eq

theorem totalIn_singleton :
    totalIn currency [money] = if money.currency = currency then money.amount.value else 0 := by
  by_cases here : money.currency = currency
  · simp [totalIn, here]
  · simp [totalIn, here]

theorem turnoverIn_singleton :
    turnoverIn currency [money] = if money.currency = currency then |money.amount.value| else 0 := by
  by_cases here : money.currency = currency
  · simp [turnoverIn, here]
  · simp [turnoverIn, here]

theorem abs_totalIn_le (currency : Text) (moneys : List Money) :
    |totalIn currency moneys| ≤ turnoverIn currency moneys := by
  unfold totalIn turnoverIn
  induction moneys.filter (·.currency == currency) with
  | nil => simp
  | cons money rest ih =>
      rw [List.map_cons, List.sum_cons, List.map_cons, List.sum_cons]
      exact (abs_add_le _ _).trans (add_le_add_right ih _)

/-- Parts that each add up to zero do so together. -/
theorem totalIn_flatMap_eq_zero {α : Type} {parts : List α} {moneysOf : α → List Money}
    (each : ∀ part ∈ parts, totalIn currency (moneysOf part) = 0) :
    totalIn currency (parts.flatMap moneysOf) = 0 := by
  induction parts with
  | nil => rfl
  | cons part rest ih =>
      rw [List.flatMap_cons, totalIn_append, each part List.mem_cons_self,
        ih fun other member => each other (List.mem_cons_of_mem part member), add_zero]

theorem totalIn_eq_zero (absent : currency ∉ moneys.map (·.currency)) : totalIn currency moneys = 0 := by
  have nothing : moneys.filter (·.currency == currency) = [] := by
    refine List.filter_eq_nil_iff.mpr fun money member same => ?_
    exact absent (beq_iff_eq.mp same ▸ List.mem_map_of_mem (f := Money.currency) member)
  rw [totalIn, nothing, List.map_nil, List.sum_nil]

/-! ## Tables of amounts -/

/-- Whether every amount of a table stands under its own currency, and no currency is
listed twice. -/
structure IsTable (amounts : Table Text Money) : Prop where
  distinct : amounts.keys.Nodup
  own : ∀ entry ∈ amounts, entry.2.currency = entry.1

variable {amounts : Table Text Money}

theorem isTable_nil : IsTable [] := ⟨List.nodup_nil, fun _ member => by cases member⟩

theorem IsTable.put (table : IsTable amounts) (same : money.currency = currency) :
    IsTable (amounts.put currency money) := by
  have distinct := Table.nodup_keys_put table.distinct currency money
  refine ⟨distinct, fun entry member => ?_⟩
  have found := (Table.get?_eq_some_iff distinct entry.1 entry.2).mpr member
  rw [Table.get?_put] at found
  split at found
  · rename_i here
    rw [← Option.some.inj found, ← here, same]
  · exact table.own entry (Table.mem_of_get? found)

theorem IsTable.currencies (table : IsTable amounts) : amounts.values.map (·.currency) = amounts.keys := by
  rw [Table.values, Table.keys, List.map_map]
  exact List.map_congr_left table.own

theorem IsTable.currency_getD (table : IsTable amounts) (currency : Text) :
    ((amounts.get? currency).getD (.zero currency)).currency = currency := by
  cases found : amounts.get? currency with
  | none => rfl
  | some money => exact table.own (currency, money) (Table.mem_of_get? found)

/-- Under every currency a table has its total. -/
theorem IsTable.totalIn_values (table : IsTable amounts) (currency : Text) :
    totalIn currency amounts.values = (amounts.get? currency).elim 0 (·.amount.value) := by
  induction amounts with
  | nil => rfl
  | cons entry rest ih =>
      rcases entry with ⟨known, money⟩
      have parts := List.nodup_cons.mp table.distinct
      have rest_table : IsTable rest :=
        ⟨parts.2, fun other member => table.own other (List.mem_cons_of_mem _ member)⟩
      have own : money.currency = known := table.own (known, money) List.mem_cons_self
      rw [Table.values, List.map_cons, ← Table.values, totalIn_cons, totalIn_singleton, own, Table.get?]
      by_cases here : known = currency
      · rw [if_pos here, if_pos here, totalIn_eq_zero, add_zero, Option.elim_some]
        rw [rest_table.currencies, ← here]
        exact parts.1
      · rw [if_neg here, if_neg here, zero_add, ih rest_table]

/-! ## Lists of totals -/

/-- Whether amounts are the totals of others: each of their currencies once, with what they
add up to in it. -/
structure Totals (shown moneys : List Money) : Prop where
  once : (shown.map (·.currency)).Nodup
  listed : ∀ currency, currency ∈ shown.map (·.currency) ↔ currency ∈ moneys.map (·.currency)
  value : ∀ currency, totalIn currency shown = totalIn currency moneys

theorem totals_nil : Totals [] [] := ⟨List.nodup_nil, fun _ => Iff.rfl, fun _ => rfl⟩

/-- Each amount that is shown is the total in its currency. -/
theorem Totals.value_of_mem {shown : List Money} (totals : Totals shown moneys) (member : money ∈ shown) :
    money.amount.value = totalIn money.currency moneys := by
  rw [← totals.value]
  rcases List.append_of_mem member with ⟨front, back, rfl⟩
  have once := totals.once
  rw [List.map_append, List.map_cons, List.nodup_middle, List.nodup_cons, ← List.map_append] at once
  rw [totalIn_perm List.perm_middle, totalIn_cons, totalIn_singleton, if_pos rfl,
    totalIn_eq_zero once.1, add_zero]

/-- Amounts of the same currencies that add up to the same have the same totals. -/
theorem Totals.congr {shown : List Money} (totals : Totals shown moneys)
    (listed : ∀ currency, currency ∈ moneys.map (·.currency) ↔ currency ∈ others.map (·.currency))
    (value : ∀ currency, totalIn currency moneys = totalIn currency others) : Totals shown others where
  once := totals.once
  listed := fun currency => (totals.listed currency).trans (listed currency)
  value := fun currency => (totals.value currency).trans (value currency)

end Money
end Daybook
