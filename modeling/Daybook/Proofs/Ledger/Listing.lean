import Daybook.Ledger.Movement
import Daybook.Proofs.Ledger.Chapters
import Daybook.Proofs.Ledger.Totals

namespace Daybook

/-!
# What a listing shows

A listing carries a table of totals from row to row and shows it in each.  Every row adds
one amount to one entry of the table, and adding rounds.  If the amounts of a currency lie
on one grid and their absolute values add up to less than the digits hold, then so do
those of every part of the listing, and each row shows the exact totals of the amounts up
to it.
-/

def Movement.posted (movement : Movement) : Account × Money := (movement.account, movement.amount)

theorem Movement.map_snd_posted (movements : List Movement) :
    (movements.map posted).map (·.2) = movements.map (·.amount) := by
  rw [List.map_map]
  rfl

/-- The postings behind the movements of chapters. -/
theorem Movement.map_posted_ofChapters (chapters : List Chapter) :
    (ofChapters chapters).map posted = Booking.movements (Chapter.bookingsOf chapters) := by
  rw [ofChapters, Booking.movements, Chapter.bookingsOf, List.map_flatMap, List.flatMap_map]
  refine List.flatMap_congr fun entry _ => ?_
  change (ofBooking entry.1 entry.2).map posted = Posting.movements entry.2.postings
  rw [ofBooking, Posting.movements, List.map_filterMap]
  refine List.filterMap_congr fun posting _ => ?_
  rw [Option.map_map]
  rfl

namespace Row

/-- Whether a table holds the totals of the amounts that went into it. -/
structure Running (running : Table Text Money) (seen : List Money) : Prop where
  table : Money.IsTable running
  listed : ∀ currency, currency ∈ running.keys ↔ currency ∈ seen.map (·.currency)
  value : ∀ currency, Money.totalIn currency running.values = Money.totalIn currency seen

/-- Whether rows list movements, each with the totals of the amounts up to it. -/
structure Lists (rows : List Row) (movements : List Movement) : Prop where
  movements : rows.map (·.movement) = movements
  totals : ∀ front row back, rows = front ++ row :: back →
    Money.Totals row.totals ((front ++ [row]).map (·.movement.amount))

/-- The totals that stand in the last row; a listing without rows has none. -/
def closing (rows : List Row) : List Money := (rows.getLast?.map (·.totals)).getD []

variable {running next : Table Text Money} {seen : List Money}

theorem running_nil : Running [] [] :=
  ⟨Money.isTable_nil, fun _ => Iff.rfl, fun _ => rfl⟩

/-- A table that is right shows totals. -/
theorem Running.totals (right : Running running seen) : Money.Totals running.values seen where
  once := right.table.currencies ▸ right.table.distinct
  listed := fun currency => by rw [right.table.currencies, right.listed]
  value := right.value

/-- The amount that a table holds is the total, whether it is listed or not. -/
theorem Running.value_getD (right : Running running seen) (currency : Text) :
    ((running.get? currency).getD (.zero currency)).amount.value = Money.totalIn currency seen := by
  rw [← right.value, right.table.totalIn_values]
  cases running.get? currency with
  | none => exact Decimal.value_zero
  | some money => rfl

/-- One more amount keeps a table right if the total that it leads to fits. -/
theorem Running.extend (right : Running running seen) {amount : Money} {unit : Int}
    (least : Decimal.ledger.tiniest ≤ unit)
    (fits : Decimal.Fits unit (Money.totalIn amount.currency (seen ++ [amount])))
    (ok : Row.extend running amount = .ok next) : Running next (seen ++ [amount]) := by
  rcases Outcome.map_eq_ok.mp ok with ⟨sum, added, rfl⟩
  rcases Money.add_eq_ok.mp added with ⟨same, total, summed, rfl⟩
  rw [Money.totalIn_append, Money.totalIn_singleton, if_pos rfl, ← right.value_getD] at fits
  have exact_ := Decimal.value_of_add least fits summed
  rw [right.value_getD] at exact_
  have table := @Money.IsTable.put _ ⟨_, total⟩ _ right.table same
  refine ⟨table, ?_, ?_⟩
  · intro currency
    rw [Table.mem_keys_put, right.listed, List.map_append, List.mem_append, List.map_singleton,
      List.mem_singleton, or_comm]
  · intro currency
    rw [table.totalIn_values, Table.get?_put, Money.totalIn_append, Money.totalIn_singleton]
    by_cases here : amount.currency = currency
    · rw [if_pos here, if_pos here, Option.elim_some, exact_, here]
    · rw [if_neg here, if_neg here, add_zero, ← right.value, right.table.totalIn_values]

/-! ## From row to row -/

/-- Whether what holds of the table at the start of a listing keeps holding as movements are
taken in. -/
def Passes (holds : Table Text Money → List Movement → Prop) (movements : List Movement) : Prop :=
  ∀ front movement back running next, movements = front ++ movement :: back → holds running front →
    extend running movement.amount = .ok next → holds next (front ++ [movement])

section Passing

variable {holds : Table Text Money → List Movement → Prop} {earlier movements : List Movement}

/-- Every row shows a table of which what passes along holds. -/
theorem Passes.rows (passes : Passes holds (earlier ++ movements)) (start : holds running earlier)
    {rows : List Row} (ok : listFrom running movements = .ok rows) :
    rows.map (·.movement) = movements ∧ ∀ front row back, rows = front ++ row :: back →
      ∃ table, holds table (earlier ++ (front ++ [row]).map (·.movement)) ∧ row.totals = table.values := by
  induction movements generalizing running earlier rows with
  | nil =>
      rcases Except.ok.inj ok with rfl
      exact ⟨rfl, fun front row back shape => by simp at shape⟩
  | cons movement rest ih =>
      rcases Outcome.bind_eq_ok.mp ok with ⟨next, extended, ok⟩
      rcases Outcome.bind_eq_ok.mp ok with ⟨later, listed, ok⟩
      rcases Except.ok.inj ok with rfl
      have here := passes earlier movement rest running next rfl start extended
      rw [List.append_cons] at passes
      rcases ih passes here listed with ⟨same, shown⟩
      refine ⟨congrArg (movement :: ·) same, ?_⟩
      intro front row back shape
      cases front with
      | nil =>
          rcases List.cons.inj shape with ⟨rfl, -⟩
          exact ⟨next, here, rfl⟩
      | cons first front =>
          rcases List.cons.inj shape with ⟨rfl, follows⟩
          have after := shown front row back follows
          rwa [List.append_assoc] at after

/-- A listing fails only at a movement that a table of which it holds cannot take in. -/
theorem Passes.stops (passes : Passes holds (earlier ++ movements)) (start : holds running earlier)
    {failure : Failure} (failed : listFrom running movements = .error failure) :
    ∃ front movement back table, movements = front ++ movement :: back ∧ holds table (earlier ++ front) ∧
      extend table movement.amount = .error failure := by
  induction movements generalizing running earlier with
  | nil => cases failed
  | cons movement rest ih =>
      rcases Outcome.bind_eq_error.mp failed with stopped | ⟨next, extended, failed⟩
      · exact ⟨[], movement, rest, running, rfl, (List.append_nil earlier).symm ▸ start, stopped⟩
      · rcases Outcome.bind_eq_error.mp failed with refused | ⟨later, -, done⟩
        · have here := passes earlier movement rest running next rfl start extended
          rw [List.append_cons] at passes
          rcases ih passes here refused with ⟨front, last, back, table, shape, held, stopped⟩
          rw [List.append_assoc] at held
          exact ⟨movement :: front, last, back, table, congrArg (movement :: ·) shape, held, stopped⟩
        · cases done

end Passing

/-- A listing shows the exact totals of what it lists. -/
theorem lists_of_list {movements : List Movement} {rows : List Row}
    (adds : AddsExactly (movements.map Movement.posted)) (ok : list movements = .ok rows) :
    Lists rows movements := by
  have passes : Passes (fun running seen => Running running (seen.map (·.amount))) ([] ++ movements) := by
    intro front movement back running next shape right extended
    have part : (front ++ [movement]).Sublist movements := by
      rw [List.nil_append] at shape
      rw [shape, List.append_cons front movement back]
      exact List.sublist_append_left _ back
    rcases adds.subperm (part.map Movement.posted).subperm movement.amount.currency with
      ⟨unit, least, fits⟩
    have total := fits.fits_totalIn
    rw [Movement.map_snd_posted, List.map_append, List.map_singleton] at total
    rw [List.map_append, List.map_singleton]
    exact right.extend least total extended
  rcases passes.rows running_nil ok with ⟨same, shown⟩
  refine ⟨same, fun front row back shape => ?_⟩
  rcases shown front row back shape with ⟨table, right, shows⟩
  have totals := right.totals
  rw [List.nil_append, List.map_map] at totals
  rw [shows]
  exact totals

/-- The last row of a listing shows the totals of everything that is listed. -/
theorem Lists.closing {rows : List Row} {movements : List Movement} (lists : Lists rows movements) :
    Money.Totals (Row.closing rows) (movements.map (·.amount)) := by
  have amounts : movements.map (·.amount) = rows.map (·.movement.amount) := by
    rw [← lists.movements, List.map_map]
    rfl
  rw [amounts, Row.closing]
  rcases List.eq_nil_or_concat rows with rfl | ⟨front, row, rfl⟩
  · exact Money.totals_nil
  · rw [List.concat_eq_append, List.getLast?_concat]
    exact lists.totals front row [] (List.concat_eq_append ..)

end Row
end Daybook
