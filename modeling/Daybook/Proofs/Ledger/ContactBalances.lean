import Daybook.Proofs.Ledger.Accounts
import Daybook.Proofs.Ledger.Rebuild

namespace Daybook

/-!
# Contacts and the balances of their accounts

A contact is shown twice: by the listing that the index of contacts keeps for it, in the
order of the dates, and by the balances of the accounts that name it.  The index is made
again from the chapters whenever a booking touches the contact, the balances are counted
up and down, and nothing compares the two.  They agree because both stand for the same
movements.
-/

open Calendar

/-- Whether an account names a contact and belongs in its listing. -/
def Account.isOf (name : Text) (all : Bool) (account : Account) : Bool :=
  account.contact? == some name && (all || account.isDebt)

theorem Account.dropMark_of_unmarked {name : Text} (unmarked : name.head? ≠ some contactMark) :
    dropMark name = name := by
  cases name with
  | nil => rfl
  | cons first rest =>
      rw [dropMark, if_neg]
      intro same
      exact unmarked (congrArg some (beq_iff_eq.mp same))

/-- Only nothing is listed without rows. -/
theorem Row.eq_nil_of_list {movements : List Movement} (ok : list movements = .ok []) : movements = [] := by
  cases movements with
  | nil => rfl
  | cons movement rest =>
      rcases Outcome.bind_eq_ok.mp ok with ⟨next, -, ok⟩
      rcases Outcome.bind_eq_ok.mp ok with ⟨later, -, ok⟩
      cases ok

namespace Snapshot

variable {snapshot : Snapshot} {name : Text}

/-- The rows of a contact are a listing of the movements on its accounts. -/
theorem Indexed.contactRows_listed (indexed : snapshot.Indexed) (named : name ≠ [])
    (unmarked : name.head? ≠ some Account.contactMark) (all : Bool) :
    Row.list ((Movement.ofChapters snapshot.chapters).filter fun movement =>
      movement.account.isOf name all) = .ok (snapshot.contactRows name all) := by
  rcases indexed.contacts.named name named with ⟨ledger, made, found⟩
  rcases Outcome.bind_eq_ok.mp made with ⟨debts, listed_debts, made⟩
  rcases Outcome.bind_eq_ok.mp made with ⟨everything, listed, made⟩
  rcases Except.ok.inj made with rfl
  have rows : snapshot.contactRows name all = if all then everything else debts := by
    rw [contactRows, Account.dropMark_of_unmarked unmarked, found]
    by_cases empty : everything.isEmpty = true
    · rw [if_pos empty]
      rw [List.isEmpty_iff.mp empty] at listed ⊢
      rw [Row.eq_nil_of_list listed] at listed_debts
      rcases Except.ok.inj listed_debts with rfl
      exact (ite_self _).symm
    · rw [if_neg empty]
  rw [rows]
  cases all with
  | true =>
      rw [if_pos rfl, ← listed]
      simp [Account.isOf]
  | false =>
      rw [if_neg Bool.false_ne_true, ← listed_debts, List.filter_filter]
      simp [Account.isOf, Bool.and_comm]

/-- In a snapshot whose indices are right and whose balances are exact, a contact is shown
alike by its rows and by the balances of its accounts. -/
theorem contactRows_agree (indexed : snapshot.Indexed) (listed : snapshot.Listed)
    (adds : AddsExactly snapshot.movements) (exact_ : Exact snapshot.balances snapshot.movements)
    (named : name ≠ []) (unmarked : name.head? ≠ some Account.contactMark) (all : Bool) :
    Row.Lists (snapshot.contactRows name all)
        ((Movement.ofChapters snapshot.chapters).filter fun movement => movement.account.isOf name all) ∧
      Money.Totals (Row.closing (snapshot.contactRows name all))
        ((snapshot.accounts.filter (Account.isOf name all)).flatMap snapshot.balance) := by
  have postings : ((Movement.ofChapters snapshot.chapters).filter fun movement =>
      movement.account.isOf name all).map Movement.posted =
        snapshot.movements.filter fun movement => movement.1.isOf name all := by
    rw [movements, ← Movement.map_posted_ofChapters, List.filter_map]
    rfl
  have lists := Row.lists_of_list (postings ▸ adds.subperm List.filter_sublist.subperm)
    (indexed.contactRows_listed named unmarked all)
  refine ⟨lists, lists.closing.congr ?_ ?_⟩
  · intro currency
    rw [← Movement.map_snd_posted, postings]
    exact (currencies_balances indexed.counts listed.balances _).symm
  · intro currency
    rw [← Movement.map_snd_posted, postings]
    exact (totalIn_balances indexed.counts listed.balances exact_ _).symm

end Snapshot

namespace Store

/-- The contacts and the balances of a reachable store agree.  Take a contact by its name,
which is not empty and carries no mark, and either all its accounts or those that hold
debts.  If, for each currency, all amounts ever present lie on the grid of a unit that
rounding reaches and their absolute values add up to less than the digits hold, then the
rows of the contact are the movements on these accounts, each with the exact totals up to
it, and the last row shows, currency by currency, what the balances of these accounts add
up to. -/
theorem Reachable.contacts_agree {store : Store} (reachable : store.Reachable)
    (adds : AddsExactly (Booking.movements store.present)) {name : Text} (named : name ≠ [])
    (unmarked : name.head? ≠ some Account.contactMark) (all : Bool) :
    Row.Lists (store.snapshot.contactRows name all)
        ((Movement.ofChapters store.snapshot.chapters).filter fun movement =>
          movement.account.isOf name all) ∧
      Money.Totals (Row.closing (store.snapshot.contactRows name all))
        ((store.snapshot.accounts.filter (Account.isOf name all)).flatMap store.snapshot.balance) := by
  have kept := reachable.sound store.snapshot List.mem_cons_self
  have part := adds.subperm (movements_subperm kept.indexed.distinct kept.within)
  exact Snapshot.contactRows_agree kept.indexed kept.listed part (kept.adds_up adds) named unmarked all

/-! ## Two loans -/

/-- A number of units of ten to a power, put into an account of a contact. -/
def loan (label : Char) (coefficient : Nat) (unit : Int) : Booking where
  description := "loan".toList
  postings := [
    { account := .ofContact "asset".toList "bob".toList [label]
      money := some ⟨"X".toList, ⟨false, coefficient, unit⟩⟩ },
    { account := ⟨"equity".toList⟩, money := some ⟨"X".toList, ⟨true, coefficient, unit⟩⟩ }]
  label := [label]

/-- Two loans to one contact, on accounts of their own. -/
def afterLoans (unit : Int) : Store :=
  (empty.call (.add ⟨2024, 1, 1, isDate_new_year⟩ (loan 'x' 7 unit))).call
    (.add ⟨2024, 1, 2, isDate_after_new_year⟩ (loan 'y' 5 unit))

theorem reachable_afterLoans {unit : Int}
    (first : empty.Fresh (.add ⟨2024, 1, 1, isDate_new_year⟩ (loan 'x' 7 unit)))
    (second : (empty.call (.add ⟨2024, 1, 1, isDate_new_year⟩ (loan 'x' 7 unit))).Fresh
      (.add ⟨2024, 1, 2, isDate_after_new_year⟩ (loan 'y' 5 unit))) : (afterLoans unit).Reachable :=
  (reachable_empty.step first).step second

theorem contacts_agree_on_loans :
    Row.closing ((afterLoans (-2)).snapshot.contactRows "bob".toList true) =
        [⟨"X".toList, ⟨false, 12, -2⟩⟩] ∧
      Money.Totals (Row.closing ((afterLoans (-2)).snapshot.contactRows "bob".toList true))
        (((afterLoans (-2)).snapshot.accounts.filter (Account.isOf "bob".toList true)).flatMap
          (afterLoans (-2)).snapshot.balance) := by
  have reachable : (afterLoans (-2)).Reachable :=
    reachable_afterLoans (by decide +kernel) (by decide +kernel)
  refine ⟨by decide +kernel, (reachable.contacts_agree ?_ (by decide) (by decide) true).2⟩
  intro currency
  refine ⟨-2, by decide, FitsDigits.of_coefficients ?_ ?_⟩
  · decide +kernel
  · decide +kernel

/-- Below the smallest unit that rounding reaches the two disagree: the listing rounds the
sum of the loans, the balances round each of them. -/
theorem contacts_disagree_on_tiny_amounts :
    (afterLoans (-1000027)).Reachable ∧
      (∀ currency, ∃ unit,
        FitsDigits unit currency (Booking.movements (afterLoans (-1000027)).present)) ∧
      ¬ Money.Totals (Row.closing ((afterLoans (-1000027)).snapshot.contactRows "bob".toList true))
        (((afterLoans (-1000027)).snapshot.accounts.filter (Account.isOf "bob".toList true)).flatMap
          (afterLoans (-1000027)).snapshot.balance) := by
  refine ⟨reachable_afterLoans (by decide +kernel) (by decide +kernel), ?_, ?_⟩
  · intro currency
    refine ⟨-1000027, FitsDigits.of_coefficients ?_ ?_⟩
    · decide +kernel
    · decide +kernel
  · have rows : Row.closing ((afterLoans (-1000027)).snapshot.contactRows "bob".toList true) =
        [⟨"X".toList, ⟨false, 2, -1000026⟩⟩] := by
      decide +kernel
    have balances : ((((afterLoans (-1000027)).snapshot.balances.keys ++
        (afterLoans (-1000027)).snapshot.opened).eraseDups).filter
          (Account.isOf "bob".toList true)).flatMap (afterLoans (-1000027)).snapshot.balance =
            [⟨"X".toList, ⟨false, 1, -1000026⟩⟩, ⟨"X".toList, ⟨false, 0, -1000026⟩⟩] := by
      decide +kernel
    intro totals
    have value := totals.value "X".toList
    rw [Money.totalIn_perm ((((afterLoans (-1000027)).snapshot.accounts_perm).filter _).flatMap_right _),
      rows, balances, Money.totalIn_cons ⟨_, _⟩ [_], Money.totalIn_singleton, Money.totalIn_singleton,
      Money.totalIn_singleton] at value
    simp [Decimal.value_signed] at value

end Store
end Daybook
