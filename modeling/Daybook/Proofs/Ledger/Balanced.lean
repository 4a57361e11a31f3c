import Daybook.Proofs.Booking.Balance
import Daybook.Proofs.Booking.Exact
import Daybook.Proofs.Ledger.Loaded
import Daybook.Proofs.Text.Lines

namespace Daybook

/-!
# Loaded bookings balance

A loaded ledger has no posting without an amount and no split left.  That its bookings
balance is checked with rounded sums, so it holds up to a bound: a booking that moves at
most twice what the digits hold of a currency balances exactly in that currency.  The
bound is sharp.  The argument needs every amount on the grid of its currency, and a
currency with amounts has such a grid because written amounts were checked against it.
-/

/-- What the digits hold of a currency that shows its precision. -/
def Registry.capacity (registry : Registry) (currency : Text) : Rat :=
  10 ^ ((Decimal.ledger.digits : Int) - (registry.currencyFor currency).precision)

theorem Registry.capacity_pos (registry : Registry) (currency : Text) : 0 < registry.capacity currency :=
  zpow_pos (by norm_num) _

namespace Money

/-- Whether the currency of an amount has a smallest unit. -/
def Measured (registry : Registry) (money : Money) : Prop :=
  ∃ unit, unitExponent (registry.currencyFor money.currency).precision = .ok unit

theorem Measured.congr {registry : Registry} {money other : Money} (measured : money.Measured registry)
    (same : other.currency = money.currency) : other.Measured registry := by
  rw [Measured, same]
  exact measured

theorem neg_le_of_unitExponent {precision unit : Int} (ok : unitExponent precision = .ok unit) :
    -precision ≤ unit := by
  rcases Outcome.map_eq_ok.mp ok with ⟨smallest, found, rfl⟩
  exact Decimal.exponent_le_of_smallestUnit (Outcome.ofNumbers_eq_ok.mp found)

/-- The digits hold at least the capacity of a currency in its own unit. -/
theorem capacity_le {registry : Registry} {currency : Text} {unit : Int}
    (smallest : unitExponent (registry.currencyFor currency).precision = .ok unit) :
    registry.capacity currency ≤ 10 ^ (unit + Decimal.ledger.digits) :=
  zpow_le_zpow_right₀ (by norm_num) (by linarith [neg_le_of_unitExponent smallest])

/-- An amount that passed the check of its decimals is in a currency with a unit. -/
theorem measured_of_checkPrecision {registry : Registry} {money checked : Money}
    (ok : money.checkPrecision registry = .ok checked) : money.Measured registry := by
  rcases Outcome.bind_eq_ok.mp ok with ⟨unit, smallest, -⟩
  exact ⟨unit, smallest⟩

end Money

/-- The written amounts of a reading have passed the check of their decimals. -/
theorem Reading.checked_of_ofText {text : Text} {today : Option Calendar.Date} {strict : Bool}
    {reading : Reading} (ok : ofText text today {} strict = .ok reading) :
    ∀ booking ∈ reading.bookings, ∀ money ∈ booking.moneys,
      ∃ checked, money.checkPrecision reading.registry = .ok checked := by
  rcases Outcome.bind_eq_ok.mp ok with ⟨reader, -, finished⟩
  unfold Reader.finish at finished
  rcases Outcome.bind_eq_ok.mp finished with ⟨closed, -, finished⟩
  rcases Outcome.bind_eq_ok.mp finished with ⟨⟨⟩, checked, finished⟩
  rcases Except.ok.inj finished with rfl
  intro booking member money among
  rcases Booking.mem_moneys among with ⟨posting, inside, found⟩
  exact Reader.checkPostings_eq_ok checked (List.mem_flatMap.mpr ⟨booking, member, inside⟩) found

theorem Reading.measured_of_ofText {text : Text} {today : Option Calendar.Date} {strict : Bool}
    {reading : Reading} (ok : ofText text today {} strict = .ok reading) :
    ∀ booking ∈ reading.bookings, ∀ money ∈ booking.moneys, money.Measured reading.registry := by
  intro booking member money among
  rcases checked_of_ofText ok booking member money among with ⟨_, passed⟩
  exact Money.measured_of_checkPrecision passed

namespace Booking

variable {registry : Registry} {booking resolved : Booking}

/-! ## Resolving keeps to currencies with units -/

theorem mem_moneys_of_posting {posting : Posting} (member : posting ∈ booking.postings) {money : Money}
    (found : posting.money = some money) : money ∈ booking.moneys :=
  List.mem_filterMap.mpr ⟨posting, member, found⟩

/-- Carrying out a split brings in no currency. -/
theorem currency_of_resolveSplit (ok : booking.resolveSplit registry = .ok resolved) :
    ∀ money ∈ resolved.moneys, ∃ written ∈ booking.moneys, money.currency = written.currency := by
  intro money member
  rcases amount_of_resolveSplit ok member with before | ⟨funding, total, one_amount, negated, origin⟩
  · exact ⟨money, before, rfl⟩
  · have among : funding ∈ booking.moneys := by rw [one_amount]; exact List.mem_cons_self
    rcases Money.neg_eq_ok.mp negated with ⟨opposite, -, rfl⟩
    rcases origin with rfl | ⟨parts, shares, divided, listed⟩
    · exact ⟨funding, among, rfl⟩
    · exact ⟨funding, among, Money.currency_of_splitEven divided money listed⟩

/-- Totals are listed for currencies of the amounts only. -/
theorem mem_keys_addTotals {totals result : Table Text Decimal} {moneys : List Money}
    (ok : addTotals totals moneys = .ok result) {currency : Text} (listed : currency ∈ result.keys) :
    currency ∈ totals.keys ∨ ∃ money ∈ moneys, currency = money.currency := by
  induction moneys generalizing totals with
  | nil =>
      rcases Except.ok.inj ok with rfl
      exact Or.inl listed
  | cons money rest ih =>
      rcases Outcome.bind_eq_ok.mp ok with ⟨sum, -, ok⟩
      rcases ih ok with before | ⟨other, member, same⟩
      · rcases (Table.mem_keys_put totals money.currency currency sum).mp before with same | before
        · exact Or.inr ⟨money, List.mem_cons_self, same⟩
        · exact Or.inl before
      · exact Or.inr ⟨other, List.mem_cons_of_mem money member, same⟩

/-- Nor does inferring an amount. -/
theorem currency_of_infer (ok : booking.infer = .ok resolved) :
    ∀ money ∈ resolved.moneys, ∃ written ∈ booking.moneys, money.currency = written.currency := by
  rcases infer_eq_ok ok with ⟨-, -, rfl⟩ | ⟨_, currency, _, _, one_blank, added, -, rfl⟩
  · exact fun money member => ⟨money, member, rfl⟩
  · intro money member
    rcases List.mem_append.mp ((moneys_fillBlanks one_blank _).mem_iff.mp member) with new | old
    · rcases List.mem_singleton.mp new with rfl
      exact (mem_keys_addTotals (Outcome.ofNumbers_eq_ok.mp added)
        (List.mem_singleton_self currency)).resolve_left (by rintro ⟨⟩)
    · exact ⟨money, old, rfl⟩

theorem measured_of_resolve (measured : ∀ money ∈ booking.moneys, money.Measured registry)
    (ok : booking.resolve registry = .ok resolved) :
    ∀ money ∈ resolved.moneys, money.Measured registry := by
  rcases resolve_eq_ok ok with ⟨carried, split, inferred⟩
  intro money member
  rcases currency_of_infer inferred money member with ⟨middle, inside, same⟩
  rcases currency_of_resolveSplit split middle inside with ⟨written, among, same'⟩
  exact (measured written among).congr (same.trans same')

/-- In a currency without amounts nothing is moved. -/
theorem turnover_of_absent {currency : Text}
    (absent : ∀ money ∈ booking.moneys, money.currency ≠ currency) : booking.turnover currency = 0 := by
  have nothing : booking.moneys.filter (·.currency == currency) = [] :=
    List.filter_eq_nil_iff.mpr fun money member => by simpa using absent money member
  rw [turnover, Money.turnoverIn, nothing]
  rfl

theorem exactTotal_of_absent {currency : Text}
    (absent : ∀ money ∈ booking.moneys, money.currency ≠ currency) : booking.exactTotal currency = 0 := by
  have size := Money.abs_totalIn_le currency booking.moneys
  rw [← turnover, turnover_of_absent absent] at size
  exact abs_nonpos_iff.mp size

/-- Only the currencies of its amounts can be too much for a booking. -/
theorem turnover_lt_capacity
    (each : ∀ money ∈ booking.moneys, booking.turnover money.currency < registry.capacity money.currency)
    (currency : Text) : booking.turnover currency < registry.capacity currency := by
  by_cases named : ∃ money ∈ booking.moneys, money.currency = currency
  · rcases named with ⟨money, member, rfl⟩
    exact each money member
  · rw [turnover_of_absent fun money member same => named ⟨money, member, same⟩]
    exact registry.capacity_pos currency

/-- A resolved booking balances exactly in every currency in which it does not move more
than twice what the digits hold. -/
theorem Written.exactTotal (proper : registry.Proper) (written : booking.Written registry)
    (measured : ∀ money ∈ booking.moneys, money.Measured registry)
    (ok : booking.resolve registry = .ok resolved) {currency : Text}
    (bounded : resolved.turnover currency ≤ 2 * registry.capacity currency) :
    resolved.exactTotal currency = 0 := by
  cases smallest : Money.unitExponent (registry.currencyFor currency).precision with
  | error failure =>
      apply exactTotal_of_absent
      rintro money member rfl
      rcases measured_of_resolve measured ok money member with ⟨unit, found⟩
      rw [smallest] at found
      cases found
  | ok unit =>
      rcases resolve_eq_ok ok with ⟨carried, split, inferred⟩
      have halfway := written.resolveSplit proper split
      have least := (Money.unitExponent_eq_ok (proper.precision_currencyFor currency) smallest).1
      refine exactTotal_of_infer least ?_ inferred (bounded.trans ?_)
      · rintro money member rfl
        rcases mem_moneys member with ⟨posting, among, found⟩
        exact ((halfway.settled posting among money found).bounds unit smallest).grid
      · exact mul_le_mul_of_nonneg_left (Money.capacity_le smallest) (by norm_num)

/-! ## Exactly balanced bookings are accepted -/

theorem nodup_keys_addTotals {totals result : Table Text Decimal} (distinct : totals.keys.Nodup)
    {moneys : List Money} (ok : addTotals totals moneys = .ok result) : result.keys.Nodup := by
  induction moneys generalizing totals with
  | nil =>
      rcases Except.ok.inj ok with rfl
      exact distinct
  | cons money rest ih =>
      rcases Outcome.bind_eq_ok.mp ok with ⟨sum, -, ok⟩
      exact ih (Table.nodup_keys_put distinct money.currency sum) ok

/-- Amounts that are bounded can be added up. -/
theorem exists_imbalance (settled : ∀ money ∈ booking.moneys, money.Settled registry amountPower) :
    ∃ totals, addTotals [] booking.moneys = .ok totals := by
  have each : List.Forall₂ SameMoney booking.moneys booking.moneys :=
    List.forall₂_same.mpr fun money member => ⟨rfl, rfl, (settled money member).within⟩
  obtain ⟨totals, -, ok, -, -⟩ := addTotals_of_sameMoney List.Forall₂.nil each
  exact ⟨totals, ok⟩

/-- A booking that balances exactly is taken for balanced if it does not move more of a
currency than the digits hold. -/
theorem Settled.isBalanced (settled : booking.Settled registry) (proper : registry.Proper)
    (measured : ∀ money ∈ booking.moneys, money.Measured registry)
    (exactly : ∀ currency, booking.exactTotal currency = 0)
    (bounded : ∀ currency, booking.turnover currency ≤ registry.capacity currency) :
    booking.isBalanced = .ok true := by
  rcases exists_imbalance settled.moneys with ⟨totals, added⟩
  have distinct : totals.keys.Nodup :=
    @nodup_keys_addTotals [] totals List.nodup_nil booking.moneys added
  have zero : ∀ entry ∈ totals, entry.2.isZero = true := by
    rintro ⟨currency, total⟩ member
    have found := (Table.get?_eq_some_iff distinct currency total).mpr member
    have listed : currency ∈ totals.keys := List.mem_map_of_mem member
    rcases (mem_keys_addTotals added listed).resolve_left (by rintro ⟨⟩) with ⟨money, among, rfl⟩
    rcases measured money among with ⟨unit, smallest⟩
    have least := (Money.unitExponent_eq_ok (proper.precision_currencyFor money.currency) smallest).1
    have grid : ∀ other ∈ booking.moneys, other.currency = money.currency →
        Decimal.OnGrid unit other.amount.value := by
      intro other inside same
      rcases mem_moneys inside with ⟨posting, here, given⟩
      exact ((settled.settled posting here other given).bounds unit (same ▸ smallest)).grid
    have faithful := ((tracks_nil unit money.currency).addTotals least grid added).faithful
    have same := faithful.eq_of_small ((bounded money.currency).trans (Money.capacity_le smallest))
    rw [totalOf, found] at same
    exact (Decimal.isZero_iff total).mpr (same.trans (exactly money.currency))
  rw [Booking.isBalanced, settled.blankPostings_eq_nil, if_pos List.isEmpty_nil, imbalance, added]
  exact congrArg Except.ok (List.all_eq_true.mpr zero)

end Booking

/-! ## Loading -/

namespace Snapshot

variable {text : Text} {today : Option Calendar.Date} {strict : Bool} {snapshot : Snapshot}
  {booking : Booking}

/-- Every booking of a loaded ledger was resolved from one that was written, and stands
on the date that it asked for. -/
theorem exists_written (loaded : load text today strict = .ok snapshot)
    (member : booking ∈ Chapter.bookingsOf snapshot.chapters) :
    ∃ written resolved : Booking, written.Written snapshot.registry ∧
      (∀ money ∈ written.moneys, money.Measured snapshot.registry) ∧
      written.resolve snapshot.registry = .ok resolved ∧ booking.postings = resolved.postings ∧
      booking.dateOffset = 0 := by
  rcases Outcome.bind_eq_ok.mp loaded with ⟨reading, read, loaded⟩
  rcases Outcome.bind_eq_ok.mp loaded with ⟨chapters, resolved, loaded⟩
  have proper := Reading.proper_of_ofText read
  rcases exists_ofChapters proper.registry (proper.settled resolved) with ⟨made, same, -, -, merged, kept⟩
  rcases Except.ok.inj (same.symm.trans loaded) with rfl
  rw [merged] at member
  rcases Chapter.exists_merged member with ⟨original, inside, label, rfl⟩
  rcases Chapter.exists_resolved resolved original inside with ⟨entry, among, result, ok, rfl⟩
  rw [kept]
  have booked := Reading.mem_bookings among
  exact ⟨entry.2, result, proper.bookings entry.2 booked,
    Reading.measured_of_ofText read entry.2 booked, ok, rfl, rfl⟩

/-- The amounts of a loaded ledger are in currencies with units. -/
theorem measured_of_load (loaded : load text today strict = .ok snapshot)
    (member : booking ∈ Chapter.bookingsOf snapshot.chapters) :
    ∀ money ∈ booking.moneys, money.Measured snapshot.registry := by
  rcases exists_written loaded member with ⟨written, resolved, -, measured, ok, same, -⟩
  rw [Booking.moneys, same]
  exact Booking.measured_of_resolve measured ok

/-- A booking of a loaded ledger balances exactly in every currency in which it does not
move more than twice what the digits hold. -/
theorem exactTotal_of_load (loaded : load text today strict = .ok snapshot)
    (member : booking ∈ Chapter.bookingsOf snapshot.chapters) {currency : Text}
    (bounded : booking.turnover currency ≤ 2 * snapshot.registry.capacity currency) :
    booking.exactTotal currency = 0 := by
  rcases exists_written loaded member with ⟨written, resolved, proper, measured, ok, same, -⟩
  rw [Booking.turnover, Booking.moneys, same] at bounded
  rw [Booking.exactTotal, Booking.moneys, same]
  exact proper.exactTotal (settled_of_load loaded).registry measured ok bounded

/-- A booking of a loaded ledger is taken for balanced if it does not move more of a
currency than the digits hold. -/
theorem isBalanced_of_load (loaded : load text today strict = .ok snapshot)
    (member : booking ∈ Chapter.bookingsOf snapshot.chapters)
    (bounded : ∀ currency, booking.turnover currency ≤ snapshot.registry.capacity currency) :
    booking.isBalanced = .ok true := by
  have settled := settled_of_load loaded
  refine (settled.bookings booking member).isBalanced settled.registry (measured_of_load loaded member)
    (fun currency => exactTotal_of_load loaded member ?_) bounded
  linarith [bounded currency, snapshot.registry.capacity_pos currency]

/-- The bookings of a loaded ledger have all amounts and no split, and balance exactly
in the currencies in which they do not move more than twice what the digits hold. -/
theorem bookings_balance_exactly (loaded : load text today strict = .ok snapshot) :
    ∀ booking ∈ Chapter.bookingsOf snapshot.chapters,
      booking.blankPostings = [] ∧ booking.split = none ∧
        ∀ currency, booking.turnover currency ≤ 2 * snapshot.registry.capacity currency →
          booking.exactTotal currency = 0 := by
  intro booking member
  have settled := (settled_of_load loaded).bookings booking member
  exact ⟨settled.blankPostings_eq_nil, settled.split, fun _ => exactTotal_of_load loaded member⟩

/-! ## Two ledgers -/

/-- A ledger with an amount that two share and one that is inferred. -/
def supperText : Text :=
  Text.ofLines ["2024-01-05".toList, "supper #[split(@bob)]".toList, "    expense/food".toList,
    "    asset/cash  -10.00$".toList, "taxi".toList, "    expense/taxi  12.50$".toList,
    "    asset/cash".toList]

theorem supper_balances :
    load supperText none false = .ok (loadedFrom supperText false) ∧
      ∀ booking ∈ Chapter.bookingsOf (loadedFrom supperText false).chapters,
        booking.blankPostings = [] ∧ booking.split = none ∧ booking.exactTotal ['$'] = 0 := by
  have loaded : load supperText none false = .ok (loadedFrom supperText false) := by decide +kernel
  have bounded : ∀ booking ∈ Chapter.bookingsOf (loadedFrom supperText false).chapters,
      booking.turnover ['$'] ≤ 2 * (loadedFrom supperText false).registry.capacity ['$'] := by
    decide +kernel
  refine ⟨loaded, fun booking member => ?_⟩
  rcases bookings_balance_exactly loaded booking member with ⟨complete, no_split, exact_⟩
  exact ⟨complete, no_split, exact_ ['$'] (bounded booking member)⟩

/-- A ledger with amounts that need all digits. -/
def lossText : Text :=
  Text.ofLines ["2024-01-05".toList, "loss".toList,
    "    a  $99999999999999999999999999.99".toList, "    b  $0.02".toList,
    "    c  $-99999999999999999999999999.99".toList, "    d  $-0.01".toList]

/-- One cent beyond the bound, one cent is lost: the first two amounts add up to a number
of 29 digits, and the cent that is dropped from it makes up for the one left over. -/
theorem loss_is_overlooked :
    load lossText none false = .ok (loadedFrom lossText false) ∧
      ∃ booking ∈ Chapter.bookingsOf (loadedFrom lossText false).chapters,
        booking.exactTotal ['$'] = 1 / 100 ∧
          booking.turnover ['$'] = 2 * (loadedFrom lossText false).registry.capacity ['$'] + 1 / 100 := by
  refine ⟨?_, ?_⟩
  · decide +kernel
  · decide +kernel

end Snapshot
end Daybook
