import Daybook.Ledger.Queries
import Daybook.Proofs.Ledger.Listed
import Daybook.Proofs.Ledger.Listing

namespace Daybook

/-!
# Balances added up over accounts

The balances of some accounts, taken together, stand for the movements on these accounts.
Every balance is the total of the movements under one account and one currency, and every
movement is under exactly one account; so adding up account by account and adding up
movement by movement come to the same, as long as no account is listed twice and none with
a movement is missing.
-/

variable {movements : List (Account × Money)}

/-- Among distinct accounts every movement is counted once. -/
theorem sum_totalUnder {accounts : List Account} (distinct : accounts.Nodup) (currency : Text)
    (movements : List (Account × Money)) :
    (accounts.map fun account => totalUnder account currency movements).sum =
      Money.totalIn currency ((movements.filter fun movement => movement.1 ∈ accounts).map (·.2)) := by
  induction movements with
  | nil =>
      refine List.sum_eq_zero fun value member => ?_
      rcases List.mem_map.mp member with ⟨account, -, rfl⟩
      rfl
  | cons movement rest ih =>
      have split : ∀ account, totalUnder account currency (movement :: rest) =
          if account = movement.1 then
            Money.totalIn currency [movement.2] + totalUnder account currency rest
          else totalUnder account currency rest := by
        intro account
        rw [totalUnder_cons, Money.totalIn_singleton]
        by_cases here : account = movement.1
        · simp [here]
        · simp [here, Ne.symm here]
      rw [List.map_congr_left fun account _ => split account, List.sum_map_ite_eq, ih,
        add_sub_cancel_right]
      by_cases here : movement.1 ∈ accounts
      · rw [List.count_eq_one_of_mem distinct here, one_nsmul, List.filter_cons_of_pos (by simpa using here),
          List.map_cons]
        exact (Money.totalIn_cons _ _).symm
      · rw [List.count_eq_zero_of_not_mem here, zero_nsmul, zero_add,
          List.filter_cons_of_neg (by simpa using here)]

namespace Balances

variable {balances : Balances}

theorem Tidy.isTable (tidy : balances.Tidy) (listed : balances.Listed) (account : Account) :
    Money.IsTable ((balances.get? account).getD []) := by
  cases found : balances.get? account with
  | none => exact Money.isTable_nil
  | some amounts =>
      have distinct := listed.currencies account amounts found
      refine ⟨distinct, fun entry member => ?_⟩
      apply tidy.currency account entry.1 entry.2
      rw [amount?, found, Option.bind_some]
      exact (Table.get?_eq_some_iff distinct _ _).mpr member

theorem get?_amounts (balances : Balances) (account : Account) (currency : Text) :
    ((balances.get? account).getD []).get? currency = balances.amount? account currency := by
  rw [amount?]
  cases balances.get? account <;> rfl

end Balances

namespace Snapshot

variable {snapshot : Snapshot} {currency : Text}

theorem accounts_perm (snapshot : Snapshot) :
    snapshot.accounts.Perm (snapshot.balances.keys ++ snapshot.opened).eraseDups :=
  List.mergeSort_perm _ _

theorem nodup_accounts (snapshot : Snapshot) : snapshot.accounts.Nodup :=
  snapshot.accounts_perm.nodup_iff.mpr (nodup_eraseDups _)

theorem mem_accounts {account : Account} :
    account ∈ snapshot.accounts ↔ account ∈ snapshot.balances.keys ∨ account ∈ snapshot.opened := by
  rw [snapshot.accounts_perm.mem_iff, List.mem_eraseDups, List.mem_append]

/-- The balances of an account show what stands under it. -/
theorem currencies_balance (counts : Counts snapshot.balances snapshot.usage movements)
    (listed : snapshot.balances.Listed) (account : Account) :
    currency ∈ (snapshot.balance account).map (·.currency) ↔
      ∃ movement ∈ movements, movement.1 = account ∧ movement.2.currency = currency := by
  have table := counts.tidy.isTable listed account
  rw [balance, table.currencies, ← Table.has_iff_mem_keys, Table.has, Balances.get?_amounts,
    counts.listed, List.countP_pos_iff]
  simp [isUnder]

theorem totalIn_balance (counts : Counts snapshot.balances snapshot.usage movements)
    (listed : snapshot.balances.Listed) (exact_ : Exact snapshot.balances movements)
    (account : Account) :
    Money.totalIn currency (snapshot.balance account) = totalUnder account currency movements := by
  rw [balance, (counts.tidy.isTable listed account).totalIn_values, Balances.get?_amounts]
  exact exact_ account currency

/-- An account with a movement is among the accounts. -/
theorem mem_accounts_of_movement (counts : Counts snapshot.balances snapshot.usage movements)
    {movement : Account × Money} (member : movement ∈ movements) : movement.1 ∈ snapshot.accounts := by
  refine mem_accounts.mpr (Or.inl ((Table.has_iff_mem_keys _ _).mp ?_))
  refine (counts.tidy.has_iff movement.1).mpr ⟨movement.2.currency, (counts.listed _ _).mpr ?_⟩
  exact List.countP_pos_iff.mpr ⟨movement, member, by simp [isUnder]⟩

/-- The currencies of the balances of some accounts are those of their movements. -/
theorem currencies_balances (counts : Counts snapshot.balances snapshot.usage movements)
    (listed : snapshot.balances.Listed) (chosen : Account → Bool) :
    currency ∈ ((snapshot.accounts.filter chosen).flatMap snapshot.balance).map (·.currency) ↔
      currency ∈ ((movements.filter fun movement => chosen movement.1).map (·.2)).map (·.currency) := by
  constructor
  · intro member
    rcases List.mem_map.mp member with ⟨money, inside, rfl⟩
    rcases List.mem_flatMap.mp inside with ⟨account, among, shown⟩
    have here := (currencies_balance counts listed account).mp (List.mem_map_of_mem shown)
    rcases here with ⟨movement, moved, rfl, same⟩
    rw [← same]
    exact List.mem_map_of_mem (List.mem_map_of_mem (List.mem_filter.mpr ⟨moved, (List.mem_filter.mp among).2⟩))
  · intro member
    rcases List.mem_map.mp member with ⟨money, inside, rfl⟩
    rcases List.mem_map.mp inside with ⟨movement, among, rfl⟩
    rcases List.mem_filter.mp among with ⟨moved, picked⟩
    have here := (currencies_balance counts listed movement.1).mpr ⟨movement, moved, rfl, rfl⟩
    rcases List.mem_map.mp here with ⟨money, shown, same⟩
    rw [← same]
    refine List.mem_map_of_mem (List.mem_flatMap.mpr ⟨movement.1, List.mem_filter.mpr ⟨?_, picked⟩, shown⟩)
    exact mem_accounts_of_movement counts moved

/-- The balances of some accounts add up to the total of their movements. -/
theorem totalIn_balances (counts : Counts snapshot.balances snapshot.usage movements)
    (listed : snapshot.balances.Listed) (exact_ : Exact snapshot.balances movements)
    (chosen : Account → Bool) :
    Money.totalIn currency ((snapshot.accounts.filter chosen).flatMap snapshot.balance) =
      Money.totalIn currency ((movements.filter fun movement => chosen movement.1).map (·.2)) := by
  have distinct : (snapshot.accounts.filter chosen).Nodup := snapshot.nodup_accounts.filter _
  have covered : movements.filter (fun movement => movement.1 ∈ snapshot.accounts.filter chosen) =
      movements.filter fun movement => chosen movement.1 := by
    refine List.filter_congr fun movement member => ?_
    rw [Bool.eq_iff_iff, decide_eq_true_iff, List.mem_filter]
    exact and_iff_right (mem_accounts_of_movement counts member)
  rw [← covered, ← sum_totalUnder distinct]
  induction snapshot.accounts.filter chosen with
  | nil => rfl
  | cons account rest ih =>
      rw [List.flatMap_cons, Money.totalIn_append, List.map_cons, List.sum_cons, ih,
        totalIn_balance counts listed exact_]

end Snapshot
end Daybook
