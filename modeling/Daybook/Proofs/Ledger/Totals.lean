import Daybook.Proofs.Ledger.Counts
import Daybook.Proofs.Money.Totals
import Mathlib.Algebra.Order.BigOperators.Group.List

namespace Daybook

/-!
# Balances without rounding

A balance is kept by adding and subtracting, and every one of these operations
rounds.  If the amounts of a currency lie on one grid and their absolute values
add up to less than the digits hold, every partial sum fits and no operation
rounds; then a balance is the total of the movements behind it, in whatever order
postings came and went.  The bound is on all movements at once, so it passes to
any part of them.
-/

/-- The total of the movements on an account in a currency. -/
def totalUnder (account : Account) (currency : Text) (movements : List (Account × Money)) : Rat :=
  ((movements.filter (isUnder account currency)).map (·.2.amount.value)).sum

/-- Whether the amounts of a currency lie on the grid of a unit, and their
absolute values add up to less than the digits hold of that unit. -/
structure FitsDigits (unit : Int) (currency : Text) (movements : List (Account × Money)) : Prop where
  grid : ∀ movement ∈ movements, movement.2.currency = currency →
    Decimal.OnGrid unit movement.2.amount.value
  bounded : ((movements.filter (·.2.currency == currency)).map (|·.2.amount.value|)).sum <
    10 ^ (unit + Decimal.ledger.digits)

/-- The value of a balance, zero if there is none. -/
def Balances.valueOf (balances : Balances) (account : Account) (currency : Text) : Rat :=
  (balances.amount? account currency).elim 0 (·.amount.value)

/-- Whether every balance is the total of its movements. -/
def Exact (balances : Balances) (movements : List (Account × Money)) : Prop :=
  ∀ account currency, balances.valueOf account currency = totalUnder account currency movements

variable {movements other : List (Account × Money)}

theorem totalUnder_cons (movement : Account × Money) (account : Account) (currency : Text) :
    totalUnder account currency (movement :: movements) =
      (if movement.1 = account ∧ movement.2.currency = currency then movement.2.amount.value else 0) +
        totalUnder account currency movements := by
  unfold totalUnder
  rw [List.filter_cons]
  by_cases here : movement.1 = account ∧ movement.2.currency = currency
  · simp [isUnder, here]
  · rw [if_neg here, if_neg (by simpa [isUnder] using here), zero_add]

theorem totalUnder_perm (same : movements.Perm other) (account : Account) (currency : Text) :
    totalUnder account currency movements = totalUnder account currency other :=
  ((same.filter _).map _).sum_eq

theorem totalUnder_eq_zero {account : Account} {currency : Text}
    (absent : ¬ 0 < movements.countP (isUnder account currency)) :
    totalUnder account currency movements = 0 := by
  have none_left : movements.filter (isUnder account currency) = [] := by
    rw [← List.length_eq_zero_iff, ← List.countP_eq_length_filter]
    omega
  simp [totalUnder, none_left]

theorem totalUnder_eq (account : Account) (currency : Text) (movements : List (Account × Money)) :
    totalUnder account currency movements =
      Money.totalIn currency ((movements.filter (·.1 == account)).map (·.2)) := by
  rw [Money.totalIn, List.filter_map, List.map_map, List.filter_filter]
  simp only [totalUnder, Function.comp_def, Bool.and_comm]
  rfl

/-! ## What fits, fits in every part -/

namespace FitsDigits

variable {unit : Int} {currency : Text}

theorem subperm (fits : FitsDigits unit currency movements) (part : other.Subperm movements) :
    FitsDigits unit currency other where
  grid := fun movement member => fits.grid movement (part.subset member)
  bounded := by
    rcases part with ⟨arranged, same, inside⟩
    refine lt_of_le_of_lt ?_ fits.bounded
    rw [← ((same.filter _).map _).sum_eq]
    apply List.Sublist.sum_le_sum ((inside.filter _).map _)
    intro size member
    rcases List.mem_map.mp member with ⟨movement, -, rfl⟩
    exact abs_nonneg _

theorem turnover_lt (fits : FitsDigits unit currency movements) :
    Money.turnoverIn currency (movements.map (·.2)) < 10 ^ (unit + Decimal.ledger.digits) := by
  rw [Money.turnoverIn, List.filter_map, List.map_map]
  exact fits.bounded

/-- The total of what fits, fits. -/
theorem fits_totalIn (fits : FitsDigits unit currency movements) :
    Decimal.Fits unit (Money.totalIn currency (movements.map (·.2))) := by
  refine ⟨Decimal.OnGrid.sum ?_, (Money.abs_totalIn_le _ _).trans_lt fits.turnover_lt⟩
  intro value member
  rcases List.mem_map.mp member with ⟨money, inside, rfl⟩
  rcases List.mem_filter.mp inside with ⟨inside, same⟩
  rcases List.mem_map.mp inside with ⟨movement, among, rfl⟩
  exact fits.grid movement among (beq_iff_eq.mp same)

theorem fits_total (fits : FitsDigits unit currency movements) (account : Account) :
    Decimal.Fits unit (totalUnder account currency movements) := by
  rw [totalUnder_eq]
  exact (fits.subperm List.filter_sublist.subperm).fits_totalIn

/-- Amounts with one exponent fit when their coefficients add up to less than the
digits hold. -/
theorem of_coefficients
    (one : ∀ movement ∈ movements, movement.2.amount.exponent = unit)
    (small : (movements.map (·.2.amount.coefficient)).sum < 10 ^ Decimal.ledger.digits) :
    FitsDigits unit currency movements where
  grid := fun movement member _ => one movement member ▸ Decimal.OnGrid.ofValue movement.2.amount
  bounded := by
    have positive : (0 : Rat) < 10 ^ unit := by positivity
    have sizes : ((movements.filter (·.2.currency == currency)).map (|·.2.amount.value|)).sum ≤
        ((movements.map (·.2.amount.coefficient)).sum : Nat) * (10 : Rat) ^ unit := by
      clear small
      induction movements with
      | nil => simp
      | cons movement rest ih =>
          have later := ih fun other member => one other (List.mem_cons_of_mem _ member)
          have first := Decimal.abs_value movement.2.amount
          rw [one movement List.mem_cons_self] at first
          have size : (0 : Rat) ≤ movement.2.amount.coefficient * 10 ^ unit := by positivity
          rw [List.map_cons, List.sum_cons, Nat.cast_add, add_mul, List.filter_cons]
          split
          · rw [List.map_cons, List.sum_cons, first]
            exact add_le_add_right later _
          · exact later.trans (le_add_of_nonneg_left size)
    refine lt_of_le_of_lt sizes ?_
    rw [add_comm, zpow_add₀ (by norm_num), zpow_natCast]
    exact mul_lt_mul_of_pos_right (by exact_mod_cast small) positive

end FitsDigits

/-- Whether the amounts of every currency fit, on a grid that the digits reach. -/
def AllFit (movements : List (Account × Money)) : Prop :=
  ∀ currency, ∃ unit, Decimal.IsUnit unit ∧ FitsDigits unit currency movements

theorem AllFit.subperm (fits : AllFit movements) (part : other.Subperm movements) : AllFit other := by
  intro currency
  rcases fits currency with ⟨unit, inside, fits⟩
  exact ⟨unit, inside, fits.subperm part⟩

/-- Whether the amounts of every currency fit, on a grid that rounding reaches.  What is
added up of such amounts is exact as long as it can be added up at all. -/
def AddsExactly (movements : List (Account × Money)) : Prop :=
  ∀ currency, ∃ unit, Decimal.ledger.tiniest ≤ unit ∧ FitsDigits unit currency movements

theorem AddsExactly.subperm (adds : AddsExactly movements) (part : other.Subperm movements) :
    AddsExactly other := by
  intro currency
  rcases adds currency with ⟨unit, least, fits⟩
  exact ⟨unit, least, fits.subperm part⟩

theorem AllFit.addsExactly (fits : AllFit movements) : AddsExactly movements := by
  intro currency
  rcases fits currency with ⟨unit, inside, fits⟩
  exact ⟨unit, inside.1, fits⟩

/-! ## Steps that do not round -/

theorem value_currentAmount (balances : Balances) (account : Account) (currency : Text) :
    (Snapshot.currentAmount balances account currency).amount.value =
      balances.valueOf account currency := by
  unfold Snapshot.currentAmount Balances.valueOf
  cases balances.amount? account currency with
  | none => exact Decimal.value_zero
  | some money => rfl

theorem valueOf_withAmount (balances : Balances) (account another : Account) (money : Money)
    (currency wanted : Text) :
    (balances.withAmount account money currency).valueOf another wanted =
      if account = another ∧ currency = wanted then money.amount.value
      else balances.valueOf another wanted := by
  unfold Balances.valueOf
  rw [Balances.amount?_withAmount]
  split <;> rfl

theorem valueOf_withoutAmount (balances : Balances) (account another : Account)
    (currency wanted : Text) :
    (balances.withoutAmount account currency).valueOf another wanted =
      if account = another ∧ currency = wanted then 0 else balances.valueOf another wanted := by
  unfold Balances.valueOf
  rw [Balances.amount?_withoutAmount]
  split <;> rfl

namespace Exact

variable {balances after : Balances} {usage used : Usage}

theorem nil : Exact [] [] := fun _ _ => rfl

theorem perm (exact_ : Exact balances movements) (same : movements.Perm other) :
    Exact balances other :=
  fun account currency => totalUnder_perm same account currency ▸ exact_ account currency

/-- Counting a posting in does not round. -/
theorem entering (exact_ : Exact balances movements)
    {account : Account} {money : Money} (adds : AddsExactly ((account, money) :: movements))
    (ok : Snapshot.applyPosting .entering account money (balances, usage) = .ok (after, used)) :
    Exact after ((account, money) :: movements) := by
  rcases adds money.currency with ⟨unit, least, fits⟩
  have total := fits.fits_total account
  have current := value_currentAmount balances account money.currency
  rw [totalUnder_cons, if_pos ⟨rfl, rfl⟩, ← exact_, ← current, add_comm] at total
  rw [Snapshot.applyPosting_entering, Outcome.map_eq_ok] at ok
  rcases ok with ⟨updated, added, equal⟩
  rcases Money.add_eq_ok.mp added with ⟨-, sum, summed, rfl⟩
  rcases Prod.mk.inj equal with ⟨rfl, rfl⟩
  intro another currency
  rw [valueOf_withAmount, totalUnder_cons, ← exact_]
  by_cases here : account = another ∧ money.currency = currency
  · rcases here with ⟨rfl, rfl⟩
    rw [if_pos ⟨rfl, rfl⟩, if_pos ⟨rfl, rfl⟩, Decimal.value_of_add least total summed, current, add_comm]
  · rw [if_neg here, if_neg here, zero_add]

/-- Counting a posting in succeeds if all movements fit. -/
theorem exists_entering (exact_ : Exact balances movements) (counts : Counts balances usage movements)
    (account : Account) (money : Money) (fits : AllFit ((account, money) :: movements)) :
    ∃ result, Snapshot.applyPosting .entering account money (balances, usage) = .ok result := by
  rcases fits money.currency with ⟨unit, inside, fits⟩
  have total := fits.fits_total account
  have same := Snapshot.currency_currentAmount counts.tidy account money.currency
  rw [totalUnder_cons, if_pos ⟨rfl, rfl⟩, ← exact_, ← value_currentAmount, add_comm] at total
  rcases Decimal.add_of_fits inside total with ⟨sum, added, -⟩
  rw [Snapshot.applyPosting_entering, Money.add_of_amounts same added]
  exact ⟨_, rfl⟩

/-- Counting a posting out does not round. -/
theorem leaving {account : Account} {money : Money}
    (exact_ : Exact balances ((account, money) :: movements))
    (counts : Counts balances usage ((account, money) :: movements))
    (adds : AddsExactly ((account, money) :: movements))
    (ok : Snapshot.applyPosting .leaving account money (balances, usage) = .ok (after, used)) :
    Exact after movements := by
  rcases adds money.currency with ⟨unit, least, fits⟩
  have alone := (fits.subperm (List.singleton_sublist.mpr List.mem_cons_self).subperm).fits_total account
  have total := (fits.subperm (List.sublist_cons_self _ movements).subperm).fits_total account
  have here := counts.getD_used account money.currency
  have current := value_currentAmount balances account money.currency
  rw [totalUnder_cons, if_pos ⟨rfl, rfl⟩, totalUnder_eq_zero (by simp), add_zero] at alone
  rw [Counts.countP_cons, if_pos ⟨rfl, rfl⟩] at here
  -- What a currency leaves behind when its last movement goes is zero.
  by_cases several : 0 < movements.countP (isUnder account money.currency)
  · rw [Snapshot.applyPosting_leaving_some account money balances usage (by omega),
      Outcome.map_eq_ok] at ok
    rcases ok with ⟨updated, added, equal⟩
    rcases Outcome.bind_eq_ok.mp added with ⟨change, negated, added⟩
    rcases Money.neg_eq_ok.mp negated with ⟨opposite, turned, rfl⟩
    rcases Money.add_eq_ok.mp added with ⟨-, sum, summed, rfl⟩
    rcases Prod.mk.inj equal with ⟨rfl, rfl⟩
    have value := Decimal.value_of_neg least alone turned
    have before := exact_ account money.currency
    rw [totalUnder_cons, if_pos ⟨rfl, rfl⟩, ← current] at before
    have rest : totalUnder account money.currency movements =
        (Snapshot.currentAmount balances account money.currency).amount.value + opposite.value := by
      rw [before, value]
      ring
    rw [rest] at total
    intro another currency
    rw [valueOf_withAmount]
    by_cases hit : account = another ∧ money.currency = currency
    · rcases hit with ⟨rfl, rfl⟩
      rw [if_pos ⟨rfl, rfl⟩, Decimal.value_of_add least total summed, rest]
    · rw [if_neg hit, exact_, totalUnder_cons, if_neg hit, zero_add]
  · rw [Snapshot.applyPosting_leaving_last account money balances usage (by omega),
      Outcome.map_eq_ok] at ok
    rcases ok with ⟨-, -, equal⟩
    rcases Prod.mk.inj equal with ⟨rfl, rfl⟩
    intro another currency
    rw [valueOf_withoutAmount]
    by_cases hit : account = another ∧ money.currency = currency
    · rcases hit with ⟨rfl, rfl⟩
      rw [if_pos ⟨rfl, rfl⟩, totalUnder_eq_zero several]
    · rw [if_neg hit, exact_, totalUnder_cons, if_neg hit, zero_add]

/-! ## Postings and bookings in order -/

theorem entering_postings {postings : List Posting} (exact_ : Exact balances movements)
    (adds : AddsExactly (Posting.movements postings ++ movements))
    (ok : Snapshot.applyPostings .entering postings (balances, usage) = .ok (after, used)) :
    Exact after (Posting.movements postings ++ movements) := by
  induction postings generalizing balances usage movements with
  | nil =>
      rcases Prod.mk.inj (Except.ok.inj ok) with ⟨rfl, rfl⟩
      exact exact_
  | cons posting rest ih =>
      rw [Snapshot.applyPostings] at ok
      cases found : posting.money with
      | none =>
          rw [found] at ok
          rw [Posting.movements_cons_none found] at adds ⊢
          exact ih exact_ adds ok
      | some money =>
          rw [found] at ok
          rcases Outcome.bind_eq_ok.mp ok with ⟨⟨balances', usage'⟩, step, ok⟩
          rw [Posting.movements_cons_some found] at adds ⊢
          have first : ((posting.account, money) :: movements).Sublist
              ((posting.account, money) :: (Posting.movements rest ++ movements)) :=
            (List.sublist_append_right _ movements).cons_cons _
          have exact' := exact_.entering (adds.subperm first.subperm) step
          exact (ih exact' (adds.subperm List.perm_middle.subperm) ok).perm List.perm_middle

theorem leaving_postings {postings : List Posting}
    (exact_ : Exact balances (Posting.movements postings ++ movements))
    (counts : Counts balances usage (Posting.movements postings ++ movements))
    (adds : AddsExactly (Posting.movements postings ++ movements))
    (ok : Snapshot.applyPostings .leaving postings (balances, usage) = .ok (after, used)) :
    Exact after movements := by
  induction postings generalizing balances usage with
  | nil =>
      rcases Prod.mk.inj (Except.ok.inj ok) with ⟨rfl, rfl⟩
      exact exact_
  | cons posting rest ih =>
      rw [Snapshot.applyPostings] at ok
      cases found : posting.money with
      | none =>
          rw [found] at ok
          rw [Posting.movements_cons_none found] at exact_ counts adds
          exact ih exact_ counts adds ok
      | some money =>
          rw [found] at ok
          rcases Outcome.bind_eq_ok.mp ok with ⟨⟨balances', usage'⟩, step, ok⟩
          rw [Posting.movements_cons_some found] at exact_ counts adds
          exact ih (exact_.leaving counts adds step) (counts.leaving step)
            (adds.subperm (List.sublist_cons_self _ _).subperm) ok

/-- The movements of bookings in the order in which they are counted in. -/
theorem perm_movements_cons (booking : Booking) (rest : List Booking) :
    (Booking.movements rest ++ (Posting.movements booking.postings ++ movements)).Perm
      (Booking.movements (booking :: rest) ++ movements) := by
  rw [Booking.movements_cons, ← List.append_assoc]
  exact List.perm_append_comm.append_right movements

theorem entering_bookings {bookings : List Booking} (exact_ : Exact balances movements)
    (adds : AddsExactly (Booking.movements bookings ++ movements))
    (ok : Snapshot.applyBookings bookings (balances, usage) = .ok (after, used)) :
    Exact after (Booking.movements bookings ++ movements) := by
  induction bookings generalizing balances usage movements with
  | nil =>
      rcases Prod.mk.inj (Except.ok.inj ok) with ⟨rfl, rfl⟩
      exact exact_
  | cons booking rest ih =>
      rcases Outcome.bind_eq_ok.mp ok with ⟨⟨balances', usage'⟩, step, ok⟩
      have order := @perm_movements_cons movements booking rest
      have exact' := exact_.entering_postings
        (adds.subperm ((List.sublist_append_right _ _).subperm.trans order.subperm)) step
      exact (ih exact' (adds.subperm order.subperm) ok).perm order

theorem exists_entering_postings {postings : List Posting} (exact_ : Exact balances movements)
    (counts : Counts balances usage movements)
    (fits : AllFit (Posting.movements postings ++ movements)) :
    ∃ result, Snapshot.applyPostings .entering postings (balances, usage) = .ok result := by
  induction postings generalizing balances usage movements with
  | nil => exact ⟨_, rfl⟩
  | cons posting rest ih =>
      rw [Snapshot.applyPostings]
      cases found : posting.money with
      | none =>
          rw [Posting.movements_cons_none found] at fits
          exact ih exact_ counts fits
      | some money =>
          rw [Posting.movements_cons_some found] at fits
          have first : ((posting.account, money) :: movements).Sublist
              ((posting.account, money) :: (Posting.movements rest ++ movements)) :=
            (List.sublist_append_right _ movements).cons_cons _
          have fits' := fits.subperm first.subperm
          obtain ⟨⟨balances', usage'⟩, step⟩ := exact_.exists_entering counts posting.account money fits'
          obtain ⟨result, ok⟩ := ih (exact_.entering fits'.addsExactly step)
            (counts.entering step) (fits.subperm List.perm_middle.subperm)
          exact ⟨result, Outcome.bind_eq_ok.mpr ⟨_, step, ok⟩⟩

/-- Counting bookings in succeeds if all movements fit. -/
theorem exists_entering_bookings {bookings : List Booking} (exact_ : Exact balances movements)
    (counts : Counts balances usage movements)
    (fits : AllFit (Booking.movements bookings ++ movements)) :
    ∃ result, Snapshot.applyBookings bookings (balances, usage) = .ok result := by
  induction bookings generalizing balances usage movements with
  | nil => exact ⟨_, rfl⟩
  | cons booking rest ih =>
      have order := @perm_movements_cons movements booking rest
      have fits' := fits.subperm ((List.sublist_append_right _ _).subperm.trans order.subperm)
      obtain ⟨⟨balances', usage'⟩, step⟩ := exact_.exists_entering_postings counts fits'
      obtain ⟨result, ok⟩ := ih (exact_.entering_postings fits'.addsExactly step)
        (counts.entering_postings step) (fits.subperm order.subperm)
      exact ⟨result, Outcome.bind_eq_ok.mpr ⟨_, step, ok⟩⟩

end Exact
end Daybook
