import Daybook.Ledger.Queries
import Daybook.Proofs.Booking.Resolution
import Daybook.Proofs.Decimal.Rounding
import Daybook.Proofs.Ledger.Listing
import Daybook.Proofs.Ledger.Loaded

namespace Daybook

/-!
# The register and what it selects

A question shows the rows of the register and selects bookings, and a deletion removes what was
selected.  The two are made apart: the register goes through the movements one by one, the
selection goes through the bookings and asks whether any posting matches.  As long as no amount
is missing they speak of the same bookings in the same order.

The totals of a row are sums, made amount by amount in the order of the rows.  Sums are rounded
to the digits that are kept, so a total is what its amounts add up to only if none of the sums
on the way is too long; the sum itself fails only if it is too large for its exponent.
-/

open Calendar

/-! ## Sums -/

namespace Decimal

theorem sum_append_singleton (numbers : List Decimal) (last : Decimal) :
    sum (numbers ++ [last]) = sum numbers >>= fun total => total.add last := by
  unfold sum
  rw [List.foldlM_append]
  cases numbers.foldlM add zero with
  | error signal => rfl
  | ok total =>
      change (total.add last >>= pure) = total.add last
      rw [bind_pure]

end Decimal

namespace Money

variable {currency : Text} {money : Money} {moneys others : List Money}

/-- The amounts in a currency, in order. -/
def amountsIn (currency : Text) (moneys : List Money) : List Decimal :=
  (moneys.filter (·.currency == currency)).map (·.amount)

theorem amountsIn_append : amountsIn currency (moneys ++ others) =
    amountsIn currency moneys ++ amountsIn currency others := by
  rw [amountsIn, List.filter_append, List.map_append, ← amountsIn, ← amountsIn]

theorem amountsIn_singleton :
    amountsIn currency [money] = if money.currency = currency then [money.amount] else [] := by
  by_cases here : money.currency = currency
  · simp [amountsIn, here]
  · simp [amountsIn, here]

theorem amountsIn_eq_nil (absent : currency ∉ moneys.map (·.currency)) : amountsIn currency moneys = [] := by
  have nothing : moneys.filter (·.currency == currency) = [] := by
    refine List.filter_eq_nil_iff.mpr fun money member same => ?_
    exact absent (beq_iff_eq.mp same ▸ List.mem_map_of_mem (f := Money.currency) member)
  rw [amountsIn, nothing, List.map_nil]

/-- Whether amounts are the sums of others: one for each of their currencies, in the order in
which these are first used, made by adding the amounts in it in order. -/
structure Sums (shown moneys : List Money) : Prop where
  order : shown.map (·.currency) = (moneys.map (·.currency)).eraseDups
  sum : ∀ money ∈ shown, Decimal.sum (amountsIn money.currency moneys) = .ok money.amount

end Money

namespace Row

/-- Whether a table holds the sums of the amounts that went into it. -/
structure Summing (running : Table Text Money) (seen : List Money) : Prop where
  table : Money.IsTable running
  order : running.keys = (seen.map (·.currency)).eraseDups
  sum : ∀ currency money, running.get? currency = some money →
    Decimal.sum (Money.amountsIn currency seen) = .ok money.amount

variable {running next : Table Text Money} {seen : List Money} {amount : Money}

theorem summing_nil : Summing [] [] :=
  ⟨Money.isTable_nil, rfl, fun _ _ found => by cases found⟩

theorem Summing.sums (right : Summing running seen) : Money.Sums running.values seen where
  order := right.table.currencies.trans right.order
  sum := by
    intro money member
    rcases List.mem_map.mp member with ⟨entry, inside, rfl⟩
    rw [right.table.own entry inside]
    exact right.sum entry.1 entry.2 ((Table.get?_eq_some_iff right.table.distinct _ _).mpr inside)

/-- What a table holds is the sum, whether it is listed or not. -/
theorem Summing.sum_getD (right : Summing running seen) (currency : Text) :
    Decimal.sum (Money.amountsIn currency seen) =
      .ok ((running.get? currency).getD (.zero currency)).amount := by
  cases found : running.get? currency with
  | some money => exact right.sum currency money found
  | none =>
      have absent : currency ∉ seen.map (·.currency) := by
        rw [← List.mem_eraseDups, ← right.order]
        exact (Table.get?_eq_none_iff running currency).mp found
      rw [Money.amountsIn_eq_nil absent]
      rfl

/-- The sum with one more amount is what the table is extended by. -/
theorem Summing.sum_extended (right : Summing running seen) (amount : Money) :
    Decimal.sum (Money.amountsIn amount.currency (seen ++ [amount])) =
      ((running.get? amount.currency).getD (.zero amount.currency)).amount.add amount.amount := by
  rw [Money.amountsIn_append, Money.amountsIn_singleton, if_pos rfl, Decimal.sum_append_singleton,
    right.sum_getD]
  rfl

theorem Summing.extend (right : Summing running seen) (ok : Row.extend running amount = .ok next) :
    Summing next (seen ++ [amount]) := by
  have extended := right.sum_extended amount
  rcases Outcome.map_eq_ok.mp ok with ⟨sum, added, rfl⟩
  rcases Money.add_eq_ok.mp added with ⟨same, total, summed, rfl⟩
  rw [summed] at extended
  refine ⟨@Money.IsTable.put _ ⟨_, total⟩ _ right.table same, ?_, ?_⟩
  · have known : amount.currency ∈ running.keys ↔ amount.currency ∈ seen.map (·.currency) := by
      rw [right.order, List.mem_eraseDups]
    rw [Table.keys_put, List.map_append, List.map_singleton, eraseDups_concat, ← right.order]
    by_cases inside : amount.currency ∈ running.keys
    · rw [if_pos inside, if_pos (known.mp inside)]
    · rw [if_neg inside, if_neg (mt known.mpr inside)]
  · intro currency money found
    rw [Table.get?_put] at found
    split at found
    · rename_i here
      rw [← here, extended, ← Option.some.inj found]
    · rename_i elsewhere
      rw [Money.amountsIn_append, Money.amountsIn_singleton, if_neg elsewhere, List.append_nil]
      exact right.sum currency money found

/-- A table cannot be extended only if the sum is too large. -/
theorem Summing.overflow_of_extend (right : Summing running seen) {failure : Failure}
    (failed : Row.extend running amount = .error failure) :
    failure = .arithmetic .overflow ∧
      Decimal.sum (Money.amountsIn amount.currency (seen ++ [amount])) = .error .overflow := by
  have extended := right.sum_extended amount
  have same := right.table.currency_getD amount.currency
  have refused := Outcome.map_eq_error.mp failed
  unfold Money.add Money.combine at refused
  rw [if_pos same] at refused
  rcases Outcome.ofNumbers_eq_error.mp (Outcome.map_eq_error.mp refused) with ⟨signal, summed, rfl⟩
  rcases (Decimal.overflow_of_round_error summed).1 with rfl
  exact ⟨rfl, extended.trans summed⟩

/-- Whether rows list movements in order, each row with the sums of the amounts up to it. -/
structure Adds (rows : List Row) (movements : List Movement) : Prop where
  movements : rows.map (·.movement) = movements
  sums : ∀ front row back, rows = front ++ row :: back →
    Money.Sums row.totals ((front ++ [row]).map (·.movement.amount))

theorem passes_summing (movements : List Movement) :
    Passes (fun running seen => Summing running (seen.map (·.amount))) movements := by
  intro front movement back running next _ right extended
  rw [List.map_append, List.map_singleton]
  exact right.extend extended

/-- A listing shows the sums of what it lists. -/
theorem adds_of_list {movements : List Movement} {rows : List Row} (ok : list movements = .ok rows) :
    Adds rows movements := by
  rcases (passes_summing ([] ++ movements)).rows summing_nil ok with ⟨same, shown⟩
  refine ⟨same, fun front row back shape => ?_⟩
  rcases shown front row back shape with ⟨table, right, shows⟩
  have sums := right.sums
  rw [List.nil_append, List.map_map] at sums
  rw [shows]
  exact sums

/-- A listing fails only at a movement with which a sum becomes too large. -/
theorem overflow_of_list {movements : List Movement} {failure : Failure}
    (failed : list movements = .error failure) :
    failure = .arithmetic .overflow ∧ ∃ front movement back, movements = front ++ movement :: back ∧
      Decimal.sum (Money.amountsIn movement.amount.currency ((front ++ [movement]).map (·.amount))) =
        .error .overflow := by
  rcases (passes_summing ([] ++ movements)).stops summing_nil failed with
    ⟨front, movement, back, table, shape, right, stopped⟩
  rcases right.overflow_of_extend stopped with ⟨same, large⟩
  refine ⟨same, front, movement, back, shape, ?_⟩
  rwa [List.map_append, List.map_singleton]

end Row

/-! ## What is listed and what is selected -/

/-- Whether a movement answers a question for a text and a date. -/
def Movement.answers (matcher : Option Text) (on : Option Date) (movement : Movement) : Bool :=
  Snapshot.isOn on movement.date && isMatch matcher movement.description movement.account

/-- Whether a booking answers a question for a text and a date: one of its postings does. -/
def Booking.answers (matcher : Option Text) (on : Option Date) (date : Date) (booking : Booking) : Bool :=
  Snapshot.isOn on date && booking.postings.any fun posting =>
    isMatch matcher booking.description posting.account

/-- Every movement that answers belongs to its booking. -/
theorem Movement.label_of_mem_ofBooking {date : Date} {booking : Booking} {movement : Movement}
    (member : movement ∈ ofBooking date booking) : movement.label = booking.label := by
  rcases List.mem_filterMap.mp member with ⟨posting, -, made⟩
  rcases Option.map_eq_some_iff.mp made with ⟨amount, -, rfl⟩
  rfl

/-- Without missing amounts, a booking answers exactly when one of its movements does. -/
theorem Booking.answers_iff {booking : Booking} (complete : booking.blankPostings = [])
    (matcher : Option Text) (on : Option Date) (date : Date) :
    booking.answers matcher on date = true ↔
      (Movement.ofBooking date booking).filter (Movement.answers matcher on) ≠ [] := by
  rw [answers, Bool.and_eq_true, List.any_eq_true]
  constructor
  · rintro ⟨dated, posting, among, text⟩
    have given : ¬ posting.isBlank = true := fun blank => by
      have missing : posting ∈ booking.blankPostings := List.mem_filter.mpr ⟨among, blank⟩
      rw [complete] at missing
      cases missing
    rcases Posting.exists_money given with ⟨amount, known⟩
    have moved : ⟨date, booking.description, posting.account, amount, booking.label⟩ ∈
        Movement.ofBooking date booking := List.mem_filterMap.mpr ⟨posting, among, by rw [known]; rfl⟩
    refine List.ne_nil_of_mem (List.mem_filter.mpr ⟨moved, ?_⟩)
    rw [Movement.answers, Bool.and_eq_true]
    exact ⟨dated, text⟩
  · intro filled
    rcases List.exists_mem_of_ne_nil _ filled with ⟨movement, member⟩
    rw [List.mem_filter, Movement.answers, Bool.and_eq_true] at member
    rcases member with ⟨inside, dated, text⟩
    rcases List.mem_filterMap.mp inside with ⟨posting, among, made⟩
    rcases Option.map_eq_some_iff.mp made with ⟨amount, -, rfl⟩
    exact ⟨dated, posting, among, text⟩

/-- Without missing amounts, the movements that answer name the bookings that answer, in the
same order. -/
theorem Booking.labels_of_answers {entries : List (Date × Booking)}
    (complete : ∀ entry ∈ entries, entry.2.blankPostings = []) (matcher : Option Text) (on : Option Date) :
    (((entries.flatMap fun entry => Movement.ofBooking entry.1 entry.2).filter
        (Movement.answers matcher on)).map (·.label)).eraseDups =
      ((entries.filter fun entry => entry.2.answers matcher on entry.1).map (·.2.label)).eraseDups := by
  have chosen : (entries.filter fun entry => entry.2.answers matcher on entry.1).map (·.2.label) =
      entries.flatMap fun entry => if entry.2.answers matcher on entry.1 then [entry.2.label] else [] := by
    induction entries with
    | nil => rfl
    | cons entry rest ih =>
        have later := ih fun other member => complete other (List.mem_cons_of_mem entry member)
        rw [List.flatMap_cons, ← later, List.filter_cons]
        split <;> rfl
  rw [chosen, List.filter_flatMap, List.map_flatMap]
  refine eraseDups_flatMap_congr fun entry member => ?_
  have answers := answers_iff (complete entry member) matcher on entry.1
  set moved := (Movement.ofBooking entry.1 entry.2).filter (Movement.answers matcher on) with shape
  have same : ∀ label ∈ moved.map (·.label), label = entry.2.label := by
    intro label among
    rcases List.mem_map.mp among with ⟨movement, inside, rfl⟩
    exact Movement.label_of_mem_ofBooking (List.mem_filter.mp (shape ▸ inside)).1
  split
  · rename_i yes
    exact eraseDups_of_same (mt List.map_eq_nil_iff.mp (answers.mp yes)) same
  · rename_i no
    rw [not_not.mp (mt answers.mpr no)]
    rfl

namespace Snapshot

variable {snapshot : Snapshot}

theorem register_eq (snapshot : Snapshot) (matcher : Option Text) (on : Option Date) :
    snapshot.register matcher on =
      Row.list ((Movement.ofChapters snapshot.chapters).filter (Movement.answers matcher on)) := rfl

/-- All movements answer when nothing is asked for. -/
theorem filter_answers_none (movements : List Movement) :
    movements.filter (Movement.answers none none) = movements :=
  List.filter_eq_self.mpr fun _ _ => rfl

/-- Whether rows are a register for a text and a date: they name the bookings that are selected,
they are those rows of the whole register that answer, and each shows the sums of the amounts up
to it, which are what these add up to as long as nothing is rounded. -/
structure Answers (snapshot : Snapshot) (matcher : Option Text) (on : Option Date) (rows : List Row) :
    Prop where
  selects : snapshot.matching matcher on = (rows.map (·.movement.label)).eraseDups
  restricts : ∀ all, snapshot.register none none = .ok all →
    rows.map (·.movement) = (all.map (·.movement)).filter (Movement.answers matcher on)
  adds : Row.Adds rows ((Movement.ofChapters snapshot.chapters).filter (Movement.answers matcher on))
  exactly : AddsExactly ((rows.map (·.movement)).map Movement.posted) →
    Row.Lists rows (rows.map (·.movement))

theorem matching_eq (complete : ∀ booking ∈ Chapter.bookingsOf snapshot.chapters, booking.blankPostings = [])
    (matcher : Option Text) (on : Option Date) :
    snapshot.matching matcher on =
      (((Movement.ofChapters snapshot.chapters).filter (Movement.answers matcher on)).map
        (·.label)).eraseDups :=
  (@Booking.labels_of_answers snapshot.entries
    (fun entry member => complete entry.2 (List.mem_map_of_mem (f := (·.2)) member)) matcher on).symm

/-- What the register shows and what is selected agree, for every text and every date, as long as
no amount is missing.  A register can only fail at a sum that is too large. -/
theorem register_agrees
    (complete : ∀ booking ∈ Chapter.bookingsOf snapshot.chapters, booking.blankPostings = [])
    (matcher : Option Text) (on : Option Date) :
    (∀ rows, snapshot.register matcher on = .ok rows → snapshot.Answers matcher on rows) ∧
      ∀ failure, snapshot.register matcher on = .error failure →
        failure = .arithmetic .overflow ∧ ∃ front movement back,
          (Movement.ofChapters snapshot.chapters).filter (Movement.answers matcher on) =
            front ++ movement :: back ∧
          Decimal.sum (Money.amountsIn movement.amount.currency
            ((front ++ [movement]).map (·.amount))) = .error .overflow := by
  rw [register_eq]
  refine ⟨fun rows ok => ?_, fun failure failed => Row.overflow_of_list failed⟩
  have adds := Row.adds_of_list ok
  refine ⟨?_, fun all whole => ?_, adds, fun exact_ => ?_⟩
  · rw [matching_eq complete, ← adds.movements, List.map_map]
    rfl
  · rw [register_eq, filter_answers_none] at whole
    rw [adds.movements, (Row.adds_of_list whole).movements]
  · rw [adds.movements] at exact_ ⊢
    exact Row.lists_of_list exact_ ok

/-! ## Two ledgers -/

/-- A ledger in which a text matches two postings of one booking, no posting of another, and the
description of a third. -/
def marketText : Text :=
  Text.ofLines ["2024-01-05".toList, "market".toList, "    expense/food  $3.00".toList,
    "    expense/food  2.00€".toList, "    asset/cash  $-3.00".toList,
    "    asset/bank  -2.00€".toList, "taxi".toList, "    expense/taxi  $4.00".toList,
    "    asset/cash".toList, "food".toList, "    expense  $4.00".toList, "    asset/cash".toList]

theorem market_agrees :
    load marketText none false = .ok (loadedFrom marketText false) ∧
      (loadedFrom marketText false).matching (some "food".toList) none = ["b0".toList, "b2".toList] ∧
      ∃ rows, (loadedFrom marketText false).register (some "food".toList) none = .ok rows ∧
        rows.map (·.movement.label) = ["b0".toList, "b0".toList, "b2".toList, "b2".toList] ∧
        (loadedFrom marketText false).Answers (some "food".toList) none rows := by
  -- The ledger is loaded once for everything that is computed from it.
  obtain ⟨loaded, complete, selected, labels⟩ :
      load marketText none false = .ok (loadedFrom marketText false) ∧
        (∀ booking ∈ Chapter.bookingsOf (loadedFrom marketText false).chapters,
          booking.blankPostings = []) ∧
        (loadedFrom marketText false).matching (some "food".toList) none = ["b0".toList, "b2".toList] ∧
        ((loadedFrom marketText false).register (some "food".toList) none).map
          (fun rows => rows.map (·.movement.label)) =
            .ok ["b0".toList, "b0".toList, "b2".toList, "b2".toList] := by
    decide +kernel
  rcases Outcome.map_eq_ok.mp labels with ⟨rows, ok, named⟩
  exact ⟨loaded, selected, rows, ok, named, (register_agrees complete _ _).1 rows ok⟩

/-- A ledger with a total that needs more digits than are kept. -/
def savingsText : Text :=
  Text.ofLines ["2024-01-05".toList, "x".toList, "    a  $99999999999999999999999999.99".toList,
    "    b".toList, "y".toList, "    a  $0.02".toList, "    b".toList]

def savingsRows : List Row :=
  ((loadedFrom savingsText false).register (some ['a']) none).toOption.getD []

/-- The total of its second row is one cent short of what the two rows add up to. -/
theorem cent_rounded_away :
    load savingsText none false = .ok (loadedFrom savingsText false) ∧
      (loadedFrom savingsText false).register (some ['a']) none = .ok savingsRows ∧
      Money.totalIn ['$'] (Row.closing savingsRows) = 10 ^ 26 ∧
      Money.totalIn ['$'] (savingsRows.map (·.movement.amount)) = 10 ^ 26 + 1 / 100 ∧
      ¬ Row.Lists savingsRows (savingsRows.map (·.movement)) := by
  obtain ⟨loaded, listed, short, due⟩ :
      load savingsText none false = .ok (loadedFrom savingsText false) ∧
        (loadedFrom savingsText false).register (some ['a']) none = .ok savingsRows ∧
        Money.totalIn ['$'] (Row.closing savingsRows) = 10 ^ 26 ∧
        Money.totalIn ['$'] (savingsRows.map (·.movement.amount)) = 10 ^ 26 + 1 / 100 := by
    decide +kernel
  refine ⟨loaded, listed, short, due, fun lists => ?_⟩
  have closes := lists.closing.value ['$']
  rw [List.map_map] at closes
  have equal := short.symm.trans (closes.trans due)
  norm_num at equal

end Snapshot
end Daybook
