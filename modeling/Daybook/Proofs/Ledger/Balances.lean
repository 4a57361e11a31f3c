import Daybook.Ledger.Snapshot
import Daybook.Proofs.Outcome
import Daybook.Proofs.Table
import Mathlib.Data.List.Count
import Mathlib.Data.List.Flatten
import Mathlib.Data.List.Perm.Basic
import Mathlib.Data.List.Perm.Subperm

namespace Daybook

/-!
# Balances and the postings behind them

The balances and the numbers of postings are kept posting by posting.  Both are
said to stand for a list of movements, in any order: the number of postings under
an account and a currency is the number of such movements, and a balance is there
exactly when that number is positive.  Counting a posting in puts a movement in
front of the list, counting it out takes it away; what a balance amounts to is the
subject of another module.
-/

/-- The movements of postings: their accounts with their amounts. -/
def Posting.movements (postings : List Posting) : List (Account × Money) :=
  postings.filterMap fun posting => posting.money.map fun money => (posting.account, money)

/-- The movements of bookings, in order. -/
def Booking.movements (bookings : List Booking) : List (Account × Money) :=
  bookings.flatMap fun booking => Posting.movements booking.postings

theorem Posting.movements_cons_none {posting : Posting} (blank : posting.money = none)
    (rest : List Posting) : movements (posting :: rest) = movements rest := by
  simp [movements, blank]

theorem Posting.movements_cons_some {posting : Posting} {money : Money}
    (found : posting.money = some money) (rest : List Posting) :
    movements (posting :: rest) = (posting.account, money) :: movements rest := by
  simp [movements, found]

theorem Booking.movements_cons (booking : Booking) (rest : List Booking) :
    movements (booking :: rest) = Posting.movements booking.postings ++ movements rest :=
  List.flatMap_cons

/-- A movement comes from a posting with an amount. -/
theorem Booking.exists_posting_of_movement {bookings : List Booking} {movement : Account × Money}
    (member : movement ∈ movements bookings) :
    ∃ booking ∈ bookings, ∃ posting ∈ booking.postings,
      posting.account = movement.1 ∧ posting.money = some movement.2 := by
  rcases List.mem_flatMap.mp member with ⟨booking, inside, member⟩
  rcases List.mem_filterMap.mp member with ⟨posting, among, made⟩
  rcases Option.map_eq_some_iff.mp made with ⟨money, found, rfl⟩
  exact ⟨booking, inside, posting, among, rfl, found⟩

theorem Booking.movements_perm {some other : List Booking} (same : some.Perm other) :
    (movements some).Perm (movements other) :=
  same.flatMap_right _

/-- Fewer bookings have fewer movements. -/
theorem Booking.movements_subperm {few many : List Booking} (part : few.Subperm many) :
    (movements few).Subperm (movements many) := by
  rcases part with ⟨arranged, same, inside⟩
  exact ⟨movements arranged, movements_perm same, inside.flatMap _⟩

def Balances.amount? (balances : Balances) (account : Account) (currency : Text) : Option Money :=
  (balances.get? account).bind fun amounts => amounts.get? currency

/-- Whether a movement is on an account and in a currency. -/
def isUnder (account : Account) (currency : Text) (movement : Account × Money) : Bool :=
  movement.1 == account && movement.2.currency == currency

namespace Balances

def withAmount (balances : Balances) (account : Account) (money : Money) (currency : Text) :
    Balances :=
  balances.put account (((balances.get? account).getD []).put currency money)

/-- The balances without one amount; an account left without amounts goes too. -/
def withoutAmount (balances : Balances) (account : Account) (currency : Text) : Balances :=
  let remaining := ((balances.get? account).getD []).erase currency
  if remaining.isEmpty then balances.erase account else balances.put account remaining

theorem amount?_withAmount (balances : Balances) (account other : Account) (money : Money)
    (currency wanted : Text) :
    (balances.withAmount account money currency).amount? other wanted =
      if account = other ∧ currency = wanted then some money else balances.amount? other wanted := by
  unfold withAmount amount?
  rw [Table.get?_put]
  by_cases same : account = other
  · subst same
    rw [if_pos rfl, Option.bind_some, Table.get?_put]
    cases balances.get? account <;> simp [Table.get?]
  · simp [same]

theorem amount?_withoutAmount (balances : Balances) (account other : Account)
    (currency wanted : Text) :
    (balances.withoutAmount account currency).amount? other wanted =
      if account = other ∧ currency = wanted then none else balances.amount? other wanted := by
  have inner : ∀ wanted, (((balances.get? account).getD []).erase currency).get? wanted =
      if currency = wanted then none else balances.amount? account wanted := by
    intro wanted
    rw [Table.get?_erase]
    unfold amount?
    cases balances.get? account <;> simp [Table.get?]
  unfold withoutAmount
  dsimp only
  by_cases same : account = other
  · subst same
    split
    · rename_i empty
      have none_left := inner wanted
      rw [List.isEmpty_iff.mp empty, Table.get?] at none_left
      rw [amount?, Table.get?_erase, if_pos rfl, Option.bind_none]
      simpa using none_left
    · rw [amount?, Table.get?_put, if_pos rfl, Option.bind_some, inner]
      simp
  · split <;> simp [amount?, Table.get?_erase, Table.get?_put, same]

/-- Whether every account has some amount, and every amount is in the currency it
is listed under. -/
structure Tidy (balances : Balances) : Prop where
  filled : ∀ account amounts, balances.get? account = some amounts → amounts ≠ []
  currency : ∀ account currency money, balances.amount? account currency = some money →
    money.currency = currency

theorem tidy_nil : Tidy [] :=
  ⟨fun _ _ found => by simp [Table.get?] at found, fun _ _ _ found => by simp [amount?, Table.get?] at found⟩

theorem Tidy.withAmount {balances : Balances} (tidy : balances.Tidy) (account : Account)
    {money : Money} {currency : Text} (same : money.currency = currency) :
    (balances.withAmount account money currency).Tidy := by
  constructor
  · intro other amounts found
    unfold Balances.withAmount at found
    rw [Table.get?_put] at found
    split at found
    · rw [← Option.some.inj found]
      intro empty
      have := Table.get?_put ((balances.get? account).getD []) currency currency money
      rw [empty] at this
      simp [Table.get?] at this
    · exact tidy.filled other amounts found
  · intro other wanted found amount
    rw [amount?_withAmount] at amount
    split at amount
    · rename_i equal
      rw [← Option.some.inj amount, same, equal.2]
    · exact tidy.currency other wanted found amount

theorem Tidy.withoutAmount {balances : Balances} (tidy : balances.Tidy) (account : Account)
    (currency : Text) : (balances.withoutAmount account currency).Tidy := by
  constructor
  · intro other amounts found
    unfold Balances.withoutAmount at found
    dsimp only at found
    split at found
    · rw [Table.get?_erase] at found
      split at found
      · cases found
      · exact tidy.filled other amounts found
    · rename_i remaining
      rw [Table.get?_put] at found
      split at found
      · rw [← Option.some.inj found]
        simpa using remaining
      · exact tidy.filled other amounts found
  · intro other wanted found amount
    rw [amount?_withoutAmount] at amount
    split at amount
    · cases amount
    · exact tidy.currency other wanted found amount

/-- In tidy balances an account is listed when it has an amount. -/
theorem Tidy.has_iff {balances : Balances} (tidy : balances.Tidy) (account : Account) :
    balances.has account = true ↔ ∃ currency, (balances.amount? account currency).isSome := by
  rw [Table.has]
  cases found : balances.get? account with
  | none => simp [amount?, found]
  | some amounts =>
      cases amounts with
      | nil => exact absurd rfl (tidy.filled account [] found)
      | cons entry rest =>
          simp only [Option.isSome_some, true_iff]
          exact ⟨entry.1, by simp [amount?, found, Table.get?]⟩

end Balances

/-! ## Taking a step apart -/

namespace Snapshot

/-- The balance to which an amount is added. -/
def currentAmount (balances : Balances) (account : Account) (currency : Text) : Money :=
  (balances.amount? account currency).getD (.zero currency)

theorem currentAmount_eq (balances : Balances) (account : Account) (currency : Text) :
    ((((balances.get? account).getD []).get? currency).getD (.zero currency)) =
      currentAmount balances account currency := by
  unfold currentAmount Balances.amount?
  cases balances.get? account <;> simp [Table.get?]

theorem currency_currentAmount {balances : Balances} (tidy : balances.Tidy) (account : Account)
    (currency : Text) : (currentAmount balances account currency).currency = currency := by
  unfold currentAmount
  cases found : balances.amount? account currency with
  | none => rfl
  | some money => exact tidy.currency account currency money found

/-- What counting a posting in does. -/
theorem applyPosting_entering (account : Account) (money : Money) (balances : Balances)
    (usage : Usage) :
    applyPosting .entering account money (balances, usage) =
      ((currentAmount balances account money.currency).add money).map fun updated =>
        (balances.withAmount account updated money.currency,
          usage.put (account, money.currency) ((usage.get? (account, money.currency)).getD 0 + 1)) := by
  simp only [applyPosting, currentAmount_eq, Nat.succ_pos, if_true]
  change (do
    let updated ← (currentAmount balances account money.currency).add money
    pure _) = ((currentAmount balances account money.currency).add money).map _
  cases (currentAmount balances account money.currency).add money <;> rfl

/-- What counting a posting out does while others stand behind the balance. -/
theorem applyPosting_leaving_some (account : Account) (money : Money) (balances : Balances)
    (usage : Usage) (several : 1 < (usage.get? (account, money.currency)).getD 0) :
    applyPosting .leaving account money (balances, usage) =
      (money.neg.bind fun change =>
        (currentAmount balances account money.currency).add change).map fun updated =>
          (balances.withAmount account updated money.currency,
            usage.put (account, money.currency) ((usage.get? (account, money.currency)).getD 0 - 1)) := by
  have positive : 0 < (usage.get? (account, money.currency)).getD 0 - 1 := by omega
  simp only [applyPosting, currentAmount_eq, positive, if_true]
  cases negated : money.neg with
  | error failure => rfl
  | ok change =>
      change (do
        let updated ← (currentAmount balances account money.currency).add change
        pure _) = (((currentAmount balances account money.currency).add change)).map _
      cases (currentAmount balances account money.currency).add change <;> rfl

/-- What counting the last posting behind a balance out does. -/
theorem applyPosting_leaving_last (account : Account) (money : Money) (balances : Balances)
    (usage : Usage) (last : (usage.get? (account, money.currency)).getD 0 ≤ 1) :
    applyPosting .leaving account money (balances, usage) =
      money.neg.map fun _ =>
        (balances.withoutAmount account money.currency, usage.erase (account, money.currency)) := by
  have zero : ¬ 0 < (usage.get? (account, money.currency)).getD 0 - 1 := by omega
  simp only [applyPosting, zero, if_false]
  cases money.neg <;> rfl

end Snapshot
end Daybook
