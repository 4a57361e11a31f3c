import Daybook.Proofs.Ledger.Indexed
import Daybook.Proofs.Ledger.Listing

namespace Daybook

/-!
# Amounts that cannot grow too large

A total that is far larger than every amount does not grow when an amount is
added: rounding takes the sum back to the total.  A bound on the amounts alone
therefore bounds all balances and running totals, however many postings there are,
and with bounded amounts no operation on a snapshot can fail for want of room.
-/

open Calendar

/-- The power of ten that bounds the amounts of a ledger. -/
def amountPower : Int := 200

/-- The power of ten that bounds balances and running totals. -/
def totalPower : Int := amountPower + Decimal.margin

def Balances.Bounded (balances : Balances) : Prop :=
  ∀ account currency money, balances.amount? account currency = some money →
    Decimal.Within totalPower money.amount

def BoundedAmounts (movements : List (Account × Money)) : Prop :=
  ∀ movement ∈ movements, Decimal.Within amountPower movement.2.amount

/-- Whether the amounts of a snapshot and its balances are bounded. -/
structure Snapshot.Bounded (snapshot : Snapshot) : Prop where
  amounts : BoundedAmounts snapshot.movements
  balances : snapshot.balances.Bounded

/-- A snapshot with right indices and bounded amounts. -/
structure Snapshot.Sound (snapshot : Snapshot) : Prop where
  indexed : snapshot.Indexed
  bounded : snapshot.Bounded

/-- A bounded total takes in a bounded amount of its currency. -/
theorem Money.add_bounded {total amount : Money} (same : total.currency = amount.currency)
    (large : Decimal.Within totalPower total.amount)
    (small : Decimal.Within amountPower amount.amount) :
    ∃ sum, total.add amount = .ok sum ∧ sum.currency = total.currency ∧
      Decimal.Within totalPower sum.amount := by
  have small : Decimal.Within (totalPower - Decimal.margin) amount.amount := by
    rwa [totalPower, add_sub_cancel_right]
  rcases Decimal.add_within (by decide) (by decide) large small with ⟨sum, added, within⟩
  exact ⟨_, Money.add_of_amounts same added, rfl, within⟩

theorem Money.neg_bounded {money : Money} (small : Decimal.Within amountPower money.amount) :
    ∃ opposite, money.neg = .ok opposite ∧ opposite.currency = money.currency ∧
      Decimal.Within amountPower opposite.amount := by
  rcases Decimal.neg_within (by decide) (by decide) small with ⟨opposite, negated, within⟩
  exact ⟨_, Money.neg_of_amount negated, rfl, within⟩

/-! ## Balances -/

namespace Balances.Bounded

variable {balances : Balances} {usage : Usage} {movements : List (Account × Money)}

theorem nil : Balances.Bounded [] := fun _ _ _ found => by simp [amount?, Table.get?] at found

theorem withAmount (bounded : balances.Bounded) (account : Account) {money : Money}
    (within : Decimal.Within totalPower money.amount) (currency : Text) :
    (balances.withAmount account money currency).Bounded := by
  intro other wanted found amount
  rw [amount?_withAmount] at amount
  split at amount
  · rwa [← Option.some.inj amount]
  · exact bounded other wanted found amount

theorem withoutAmount (bounded : balances.Bounded) (account : Account) (currency : Text) :
    (balances.withoutAmount account currency).Bounded := by
  intro other wanted found amount
  rw [amount?_withoutAmount] at amount
  split at amount
  · cases amount
  · exact bounded other wanted found amount

theorem currentAmount (bounded : balances.Bounded) (account : Account) (currency : Text) :
    Decimal.Within totalPower (Snapshot.currentAmount balances account currency).amount := by
  unfold Snapshot.currentAmount
  cases found : balances.amount? account currency with
  | none => exact Decimal.within_zero _
  | some money => exact bounded account currency money found

theorem entering (bounded : balances.Bounded) (counts : Counts balances usage movements)
    (account : Account) {money : Money} (small : Decimal.Within amountPower money.amount) :
    ∃ result, Snapshot.applyPosting .entering account money (balances, usage) = .ok result ∧
      result.1.Bounded := by
  obtain ⟨updated, added, -, within⟩ := Money.add_bounded
    (Snapshot.currency_currentAmount counts.tidy account money.currency)
    (bounded.currentAmount account money.currency) small
  rw [Snapshot.applyPosting_entering, added]
  exact ⟨_, rfl, bounded.withAmount account within money.currency⟩

theorem leaving {account : Account} {money : Money} (bounded : balances.Bounded)
    (counts : Counts balances usage ((account, money) :: movements))
    (small : Decimal.Within amountPower money.amount) :
    ∃ result, Snapshot.applyPosting .leaving account money (balances, usage) = .ok result ∧
      result.1.Bounded := by
  rcases Money.neg_bounded small with ⟨opposite, negated, currency, within⟩
  rcases Nat.lt_or_ge 1 ((usage.get? (account, money.currency)).getD 0) with several | last
  · have same := Snapshot.currency_currentAmount counts.tidy account money.currency
    obtain ⟨updated, added, -, large⟩ := Money.add_bounded (same.trans currency.symm)
      (bounded.currentAmount account money.currency) within
    rw [Snapshot.applyPosting_leaving_some account money balances usage several, negated,
      Except.bind, added]
    exact ⟨_, rfl, bounded.withAmount account large money.currency⟩
  · rw [Snapshot.applyPosting_leaving_last account money balances usage last, negated]
    exact ⟨_, rfl, bounded.withoutAmount account money.currency⟩

theorem entering_postings {postings : List Posting} (bounded : balances.Bounded)
    (counts : Counts balances usage movements)
    (small : BoundedAmounts (Posting.movements postings)) :
    ∃ result, Snapshot.applyPostings .entering postings (balances, usage) = .ok result ∧
      result.1.Bounded := by
  induction postings generalizing balances usage movements with
  | nil => exact ⟨_, rfl, bounded⟩
  | cons posting rest ih =>
      rw [Snapshot.applyPostings]
      cases found : posting.money with
      | none =>
          rw [Posting.movements_cons_none found] at small
          exact ih bounded counts small
      | some money =>
          rw [Posting.movements_cons_some found] at small
          obtain ⟨⟨balances', usage'⟩, step, bounded'⟩ :=
            bounded.entering counts posting.account (small (posting.account, money) List.mem_cons_self)
          obtain ⟨result, ok, final⟩ := ih bounded' (counts.entering step)
            fun movement member => small movement (List.mem_cons_of_mem _ member)
          exact ⟨result, Outcome.bind_eq_ok.mpr ⟨_, step, ok⟩, final⟩

theorem leaving_postings {postings : List Posting} (bounded : balances.Bounded)
    (counts : Counts balances usage (Posting.movements postings ++ movements))
    (small : BoundedAmounts (Posting.movements postings)) :
    ∃ result, Snapshot.applyPostings .leaving postings (balances, usage) = .ok result ∧
      result.1.Bounded := by
  induction postings generalizing balances usage with
  | nil => exact ⟨_, rfl, bounded⟩
  | cons posting rest ih =>
      rw [Snapshot.applyPostings]
      cases found : posting.money with
      | none =>
          rw [Posting.movements_cons_none found] at small counts
          exact ih bounded counts small
      | some money =>
          rw [Posting.movements_cons_some found] at small counts
          obtain ⟨⟨balances', usage'⟩, step, bounded'⟩ :=
            bounded.leaving counts (small (posting.account, money) List.mem_cons_self)
          obtain ⟨result, ok, final⟩ := ih bounded' (counts.leaving step)
            fun movement member => small movement (List.mem_cons_of_mem _ member)
          exact ⟨result, Outcome.bind_eq_ok.mpr ⟨_, step, ok⟩, final⟩

theorem entering_bookings {bookings : List Booking} (bounded : balances.Bounded)
    (counts : Counts balances usage movements)
    (small : BoundedAmounts (Booking.movements bookings)) :
    ∃ result, Snapshot.applyBookings bookings (balances, usage) = .ok result ∧
      result.1.Bounded := by
  induction bookings generalizing balances usage movements with
  | nil => exact ⟨_, rfl, bounded⟩
  | cons booking rest ih =>
      rw [Booking.movements_cons] at small
      have first : BoundedAmounts (Posting.movements booking.postings) :=
        fun movement member => small movement (List.mem_append_left _ member)
      have later : BoundedAmounts (Booking.movements rest) :=
        fun movement member => small movement (List.mem_append_right _ member)
      rw [Snapshot.applyBookings]
      rcases bounded.entering_postings counts first with ⟨⟨balances', usage'⟩, step, bounded'⟩
      rcases ih bounded' (counts.entering_postings step) later with ⟨result, ok, final⟩
      exact ⟨result, Outcome.bind_eq_ok.mpr ⟨_, step, ok⟩, final⟩

end Balances.Bounded

/-! ## Running totals -/

/-- Whether running totals are bounded and listed under their currencies. -/
def BoundedTotals (running : Table Text Money) : Prop :=
  ∀ currency money, running.get? currency = some money →
    money.currency = currency ∧ Decimal.Within totalPower money.amount

theorem BoundedTotals.nil : BoundedTotals [] := fun _ _ found => by simp [Table.get?] at found

theorem BoundedTotals.extend {running : Table Text Money} (bounded : BoundedTotals running)
    {money : Money} (small : Decimal.Within amountPower money.amount) :
    ∃ next, Row.extend running money = .ok next ∧ BoundedTotals next := by
  have current : ((running.get? money.currency).getD (.zero money.currency)).currency =
      money.currency ∧ Decimal.Within totalPower
        ((running.get? money.currency).getD (.zero money.currency)).amount := by
    cases found : running.get? money.currency with
    | none => exact ⟨rfl, Decimal.within_zero _⟩
    | some known => exact bounded money.currency known found
  rcases Money.add_bounded current.1 current.2 small with ⟨sum, added, same, within⟩
  rw [Row.extend, added]
  refine ⟨_, rfl, ?_⟩
  intro currency known found
  rw [Table.get?_put] at found
  split at found
  · rename_i equal
    rw [← Option.some.inj found]
    exact ⟨same.trans (current.1.trans equal), within⟩
  · exact bounded currency known found

theorem BoundedTotals.listFrom {running : Table Text Money} (bounded : BoundedTotals running)
    {movements : List Movement}
    (small : ∀ movement ∈ movements, Decimal.Within amountPower movement.amount.amount) :
    ∃ rows, Row.listFrom running movements = .ok rows := by
  induction movements generalizing running with
  | nil => exact ⟨[], rfl⟩
  | cons movement rest ih =>
      rcases bounded.extend (small movement List.mem_cons_self) with ⟨next, step, bounded'⟩
      rcases ih bounded' fun other member => small other (List.mem_cons_of_mem _ member) with ⟨rows, ok⟩
      exact ⟨_, Outcome.bind_eq_ok.mpr ⟨next, step, Outcome.bind_eq_ok.mpr ⟨rows, ok, rfl⟩⟩⟩

namespace Snapshot

/-- The movements of chapters are those of their bookings. -/
theorem mem_movements_of_ofChapters {chapters : List Chapter} {movement : Movement}
    (member : movement ∈ Movement.ofChapters chapters) :
    (movement.account, movement.amount) ∈ Booking.movements (Chapter.bookingsOf chapters) := by
  rw [← Movement.map_posted_ofChapters]
  exact List.mem_map_of_mem member

/-- With bounded amounts every contact has a ledger. -/
theorem exists_contactLedger {chapters : List Chapter}
    (small : BoundedAmounts (Booking.movements (Chapter.bookingsOf chapters))) (name : Text) :
    ∃ ledger, contactLedger name chapters = .ok ledger := by
  have each : ∀ movement ∈ Movement.ofContact name chapters,
      Decimal.Within amountPower movement.amount.amount := fun movement member =>
    small (movement.account, movement.amount)
      (mem_movements_of_ofChapters (List.mem_filter.mp member).1)
  have debt_each : ∀ movement ∈ (Movement.ofContact name chapters).filter (·.account.isDebt),
      Decimal.Within amountPower movement.amount.amount := fun movement member =>
    each movement (List.mem_filter.mp member).1
  rcases BoundedTotals.nil.listFrom debt_each with ⟨debts, first⟩
  rcases BoundedTotals.nil.listFrom each with ⟨everything, second⟩
  exact ⟨⟨debts, everything⟩, Outcome.bind_eq_ok.mpr ⟨debts, first,
    Outcome.bind_eq_ok.mpr ⟨everything, second, rfl⟩⟩⟩

/-! ## Operations that cannot fail -/

/-- With bounded amounts building succeeds. -/
theorem exists_build {chapters : List Chapter}
    (small : BoundedAmounts (Booking.movements (Chapter.bookingsOf chapters))) (registry : Registry)
    (opened : List Account) : ∃ built, build chapters registry opened = .ok built ∧ built.Bounded := by
  have small : BoundedAmounts (Booking.movements (Chapter.bookingsOf (Chapter.merge chapters))) :=
    fun movement member => small movement ((movements_merge chapters).mem_iff.mp member)
  obtain ⟨⟨balances, usage⟩, applied, bounded⟩ :=
    Balances.Bounded.nil.entering_bookings Counts.nil small
  obtain ⟨contacts, indexed⟩ := @exists_indexContacts (Chapter.merge chapters)
    (Text.sort (((Chapter.merge chapters).flatMap (·.bookings)).flatMap (·.contacts)).eraseDups)
    (fun name _ => exists_contactLedger small name) []
  rw [Chapter.bookingsOf_eq] at applied
  refine ⟨⟨Chapter.merge chapters, registry, opened.eraseDups, balances, usage, contacts⟩, ?_,
    small, bounded⟩
  refine Outcome.bind_eq_ok.mpr ⟨(balances, usage), applied, ?_⟩
  exact Outcome.bind_eq_ok.mpr ⟨contacts, indexed, rfl⟩

/-- With bounded amounts a booking that is there can be removed. -/
theorem Indexed.exists_remove {snapshot : Snapshot} (indexed : snapshot.Indexed)
    (bounded : snapshot.Bounded) {label : Text} {date : Date} {booking : Booking}
    (found : Chapter.find? label snapshot.chapters = some (date, booking)) :
    ∃ after, snapshot.remove label = .ok (booking, after) ∧ after.Bounded := by
  rcases Chapter.entries_remove indexed.distinct found with ⟨front, back, with_it, without⟩
  have moved := movements_of_entries with_it without
  have small : BoundedAmounts (Posting.movements booking.postings) := fun movement member =>
    bounded.amounts movement (moved.mem_iff.mpr (List.mem_append_left _ member))
  have others : BoundedAmounts
      (Booking.movements (Chapter.bookingsOf (Chapter.remove label snapshot.chapters))) :=
    fun movement member =>
      bounded.amounts movement (moved.mem_iff.mpr (List.mem_append_right _ member))
  obtain ⟨⟨balances, usage⟩, applied, rest⟩ :=
    bounded.balances.leaving_postings (indexed.counts.perm moved) small
  obtain ⟨contacts, renewed⟩ := @exists_indexContacts (Chapter.remove label snapshot.chapters)
    (Text.sort booking.contacts) (fun name _ => exists_contactLedger others name) snapshot.contacts
  have committed : snapshot.commit (Chapter.remove label snapshot.chapters) booking .leaving =
      .ok { snapshot with chapters := _, balances, usage, contacts } :=
    Outcome.bind_eq_ok.mpr ⟨(balances, usage), applied,
      Outcome.bind_eq_ok.mpr ⟨contacts, renewed, rfl⟩⟩
  refine ⟨{ snapshot with chapters := _, balances, usage, contacts }, ?_, others, rest⟩
  unfold Snapshot.remove
  rw [found]
  exact Outcome.map_eq_ok.mpr ⟨_, committed, rfl⟩

theorem Bounded.openAccount {snapshot : Snapshot} (bounded : snapshot.Bounded) (account : Account) :
    (snapshot.openAccount account).Bounded := by
  refine ⟨?_, (snapshot.openAccount_indices account).1 ▸ bounded.balances⟩
  rw [movements, snapshot.openAccount_chapters account]
  exact bounded.amounts

end Snapshot
end Daybook
