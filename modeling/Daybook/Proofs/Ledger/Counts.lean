import Daybook.Proofs.Ledger.Balances
import Daybook.Proofs.Money

namespace Daybook

/-!
# Counted postings

The indices of a snapshot stand for a list of movements.  The number of postings
under an account and a currency is the number of such movements, and a balance is
listed exactly when there is one.  This is the part of the indices in which no
number is rounded: counting a posting in and out again leaves it as it was, in
whatever order postings come and go.
-/

/-- Whether balances and numbers of postings stand for movements. -/
structure Counts (balances : Balances) (usage : Usage) (movements : List (Account × Money)) :
    Prop where
  tidy : balances.Tidy
  used : ∀ account currency, usage.get? (account, currency) =
    if 0 < movements.countP (isUnder account currency) then
      some (movements.countP (isUnder account currency))
    else none
  listed : ∀ account currency, (balances.amount? account currency).isSome = true ↔
    0 < movements.countP (isUnder account currency)

namespace Counts

variable {balances after : Balances} {usage used : Usage} {movements : List (Account × Money)}

theorem nil : Counts [] [] [] :=
  ⟨Balances.tidy_nil, fun _ _ => rfl, fun _ _ => by simp [Balances.amount?, Table.get?]⟩

/-- The order of the movements does not matter. -/
theorem perm {other : List (Account × Money)} (counts : Counts balances usage movements)
    (same : movements.Perm other) : Counts balances usage other where
  tidy := counts.tidy
  used := fun account currency => same.countP_eq _ ▸ counts.used account currency
  listed := fun account currency => same.countP_eq _ ▸ counts.listed account currency

theorem getD_used (counts : Counts balances usage movements) (account : Account) (currency : Text) :
    (usage.get? (account, currency)).getD 0 = movements.countP (isUnder account currency) := by
  rw [counts.used]
  split
  · rfl
  · simp only [Option.getD_none]
    omega

theorem countP_cons (movement : Account × Money) (account : Account) (currency : Text) :
    (movement :: movements).countP (isUnder account currency) =
      movements.countP (isUnder account currency) +
        if movement.1 = account ∧ movement.2.currency = currency then 1 else 0 := by
  rw [List.countP_cons]
  simp [isUnder]

/-- Counting a posting in adds its movement. -/
theorem entering (counts : Counts balances usage movements) {account : Account} {money : Money}
    (ok : Snapshot.applyPosting .entering account money (balances, usage) = .ok (after, used)) :
    Counts after used ((account, money) :: movements) := by
  rw [Snapshot.applyPosting_entering, Outcome.map_eq_ok] at ok
  rcases ok with ⟨updated, added, equal⟩
  rcases Money.add_eq_ok.mp added with ⟨same, amount, -, rfl⟩
  rcases Prod.mk.inj equal with ⟨rfl, rfl⟩
  refine ⟨counts.tidy.withAmount account same, ?_, ?_⟩
  · intro other currency
    rw [Table.get?_put, counts.getD_used, countP_cons]
    by_cases here : account = other ∧ money.currency = currency
    · rcases here with ⟨rfl, rfl⟩
      simp
    · rw [if_neg (by simpa using here), if_neg here, counts.used]
      rfl
  · intro other currency
    rw [Balances.amount?_withAmount, countP_cons]
    by_cases here : account = other ∧ money.currency = currency
    · simp [here]
    · rw [if_neg here, if_neg here, counts.listed]
      rfl

/-- Counting a posting out takes its movement away. -/
theorem leaving {account : Account} {money : Money}
    (counts : Counts balances usage ((account, money) :: movements))
    (ok : Snapshot.applyPosting .leaving account money (balances, usage) = .ok (after, used)) :
    Counts after used movements := by
  have here := counts.getD_used account money.currency
  rw [countP_cons, if_pos ⟨rfl, rfl⟩] at here
  -- The currency stays with the account exactly when another movement is behind it.
  by_cases several : 0 < movements.countP (isUnder account money.currency)
  · rw [Snapshot.applyPosting_leaving_some account money balances usage (by omega),
      Outcome.map_eq_ok] at ok
    rcases ok with ⟨updated, added, equal⟩
    rcases Outcome.bind_eq_ok.mp added with ⟨change, -, added⟩
    rcases Money.add_eq_ok.mp added with ⟨-, amount, -, rfl⟩
    rcases Prod.mk.inj equal with ⟨rfl, rfl⟩
    have same := Snapshot.currency_currentAmount counts.tidy account money.currency
    refine ⟨counts.tidy.withAmount account same, ?_, ?_⟩
    · intro other currency
      rw [Table.get?_put, here]
      by_cases hit : account = other ∧ money.currency = currency
      · rcases hit with ⟨rfl, rfl⟩
        simp [several]
      · rw [if_neg (by simpa using hit), counts.used, countP_cons, if_neg hit]
        rfl
    · intro other currency
      rw [Balances.amount?_withAmount]
      by_cases hit : account = other ∧ money.currency = currency
      · rcases hit with ⟨rfl, rfl⟩
        simp [several]
      · rw [if_neg hit, counts.listed, countP_cons, if_neg hit]
        rfl
  · rw [Snapshot.applyPosting_leaving_last account money balances usage (by omega),
      Outcome.map_eq_ok] at ok
    rcases ok with ⟨-, -, equal⟩
    rcases Prod.mk.inj equal with ⟨rfl, rfl⟩
    refine ⟨counts.tidy.withoutAmount account money.currency, ?_, ?_⟩
    · intro other currency
      rw [Table.get?_erase]
      by_cases hit : account = other ∧ money.currency = currency
      · rcases hit with ⟨rfl, rfl⟩
        simp [several]
      · rw [if_neg (by simpa using hit), counts.used, countP_cons, if_neg hit]
        rfl
    · intro other currency
      rw [Balances.amount?_withoutAmount]
      by_cases hit : account = other ∧ money.currency = currency
      · rcases hit with ⟨rfl, rfl⟩
        simp [several]
      · rw [if_neg hit, counts.listed, countP_cons, if_neg hit]
        rfl

/-! ## Postings and bookings in order -/

theorem entering_postings {postings : List Posting} (counts : Counts balances usage movements)
    (ok : Snapshot.applyPostings .entering postings (balances, usage) = .ok (after, used)) :
    Counts after used (Posting.movements postings ++ movements) := by
  induction postings generalizing balances usage movements with
  | nil =>
      rcases Prod.mk.inj (Except.ok.inj ok) with ⟨rfl, rfl⟩
      exact counts
  | cons posting rest ih =>
      rw [Snapshot.applyPostings] at ok
      cases found : posting.money with
      | none =>
          rw [found] at ok
          rw [Posting.movements_cons_none found]
          exact ih counts ok
      | some money =>
          rw [found] at ok
          rcases Outcome.bind_eq_ok.mp ok with ⟨⟨balances', usage'⟩, step, ok⟩
          rw [Posting.movements_cons_some found]
          exact (ih (counts.entering step) ok).perm List.perm_middle

theorem leaving_postings {postings : List Posting}
    (counts : Counts balances usage (Posting.movements postings ++ movements))
    (ok : Snapshot.applyPostings .leaving postings (balances, usage) = .ok (after, used)) :
    Counts after used movements := by
  induction postings generalizing balances usage with
  | nil =>
      rcases Prod.mk.inj (Except.ok.inj ok) with ⟨rfl, rfl⟩
      exact counts
  | cons posting rest ih =>
      rw [Snapshot.applyPostings] at ok
      cases found : posting.money with
      | none =>
          rw [found] at ok
          rw [Posting.movements_cons_none found] at counts
          exact ih counts ok
      | some money =>
          rw [found] at ok
          rcases Outcome.bind_eq_ok.mp ok with ⟨⟨balances', usage'⟩, step, ok⟩
          rw [Posting.movements_cons_some found] at counts
          exact ih (counts.leaving step) ok

theorem entering_bookings {bookings : List Booking} (counts : Counts balances usage movements)
    (ok : Snapshot.applyBookings bookings (balances, usage) = .ok (after, used)) :
    Counts after used (Booking.movements bookings ++ movements) := by
  induction bookings generalizing balances usage movements with
  | nil =>
      rcases Prod.mk.inj (Except.ok.inj ok) with ⟨rfl, rfl⟩
      exact counts
  | cons booking rest ih =>
      rw [Snapshot.applyBookings] at ok
      rcases Outcome.bind_eq_ok.mp ok with ⟨⟨balances', usage'⟩, step, ok⟩
      rw [Booking.movements_cons, List.append_assoc]
      refine (ih (counts.entering_postings step) ok).perm ?_
      rw [← List.append_assoc, ← List.append_assoc]
      exact List.perm_append_comm.append_right movements

/-! ## The one way to fail -/

theorem overflow_of_entering_error (counts : Counts balances usage movements) {account : Account}
    {money : Money} {failure : Failure}
    (failed : Snapshot.applyPosting .entering account money (balances, usage) = .error failure) :
    failure = .arithmetic .overflow := by
  rw [Snapshot.applyPosting_entering, Outcome.map_eq_error] at failed
  exact Money.overflow_of_add_error (Snapshot.currency_currentAmount counts.tidy account _) failed

theorem overflow_of_postings_error {postings : List Posting}
    (counts : Counts balances usage movements) {failure : Failure}
    (failed : Snapshot.applyPostings .entering postings (balances, usage) = .error failure) :
    failure = .arithmetic .overflow := by
  induction postings generalizing balances usage movements with
  | nil => cases failed
  | cons posting rest ih =>
      rw [Snapshot.applyPostings] at failed
      cases found : posting.money with
      | none =>
          rw [found] at failed
          exact ih counts failed
      | some money =>
          rw [found] at failed
          rcases Outcome.bind_eq_error.mp failed with failed | ⟨⟨balances', usage'⟩, step, failed⟩
          · exact counts.overflow_of_entering_error failed
          · exact ih (counts.entering step) failed

/-- Counting bookings in fails on numbers that grow too large only. -/
theorem overflow_of_bookings_error {bookings : List Booking}
    (counts : Counts balances usage movements) {failure : Failure}
    (failed : Snapshot.applyBookings bookings (balances, usage) = .error failure) :
    failure = .arithmetic .overflow := by
  induction bookings generalizing balances usage movements with
  | nil => cases failed
  | cons booking rest ih =>
      rw [Snapshot.applyBookings] at failed
      rcases Outcome.bind_eq_error.mp failed with failed | ⟨⟨balances', usage'⟩, step, failed⟩
      · exact counts.overflow_of_postings_error failed
      · exact ih (counts.entering_postings step) failed

/-! ## What the movements decide -/

/-- Two pairs of indices for the same movements list the same balances. -/
theorem isSome_amount? {others : Balances} {usage' : Usage}
    (one : Counts balances usage movements) (two : Counts others usage' movements)
    (account : Account) (currency : Text) :
    (balances.amount? account currency).isSome = (others.amount? account currency).isSome := by
  rw [Bool.eq_iff_iff, one.listed, two.listed]

theorem has_eq {others : Balances} {usage' : Usage}
    (one : Counts balances usage movements) (two : Counts others usage' movements)
    (account : Account) : balances.has account = others.has account := by
  rw [Bool.eq_iff_iff, one.tidy.has_iff, two.tidy.has_iff]
  simp only [one.isSome_amount? two]

theorem get?_usage_eq {others : Balances} {usage' : Usage}
    (one : Counts balances usage movements) (two : Counts others usage' movements)
    (key : Account × Text) : usage.get? key = usage'.get? key := by
  rw [one.used, two.used]

end Counts
end Daybook
