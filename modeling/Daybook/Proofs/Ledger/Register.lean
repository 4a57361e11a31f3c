import Daybook.Ledger.Queries
import Daybook.Proofs.Booking.Exact
import Daybook.Proofs.Ledger.Listing

namespace Daybook

/-!
# The register comes out even

The register of a ledger lists all movements, booking by booking.  If every booking
balances exactly, its running totals are back at zero after each booking, so within a
booking they run through the sums by which the booking was found to balance.  Those sums
have been made, and since a sum can be made as soon as its value is that of a number, the
register can be listed whatever the size of its amounts.
-/

open Calendar

theorem Movement.map_amount_ofBooking (date : Date) (booking : Booking) :
    (ofBooking date booking).map (·.amount) = booking.moneys := by
  rw [ofBooking, Booking.moneys, List.map_filterMap]
  refine List.filterMap_congr fun posting _ => ?_
  rw [Option.map_map]
  cases posting.money <;> rfl

/-- Totals that are exact stay exact with a sum that fits. -/
theorem Booking.totalOf_put_exact {totals : Table Text Decimal} {seen : List Money} {money : Money}
    {sum : Decimal} {unit : Int} (least : Decimal.ledger.tiniest ≤ unit)
    (fits : Decimal.Fits unit (Money.totalIn money.currency (seen ++ [money])))
    (same : ∀ currency, totalOf totals currency = Money.totalIn currency seen)
    (ok : ((totals.get? money.currency).getD .zero).add money.amount = .ok sum) (currency : Text) :
    totalOf (totals.put money.currency sum) currency = Money.totalIn currency (seen ++ [money]) := by
  rw [Money.totalIn_append, Money.totalIn_singleton, if_pos rfl, ← same] at fits
  rw [totalOf_put, Money.totalIn_append, Money.totalIn_singleton, ← same]
  by_cases here : money.currency = currency
  · rw [if_pos here, if_pos here, Decimal.value_of_add least fits ok, ← here]
    rfl
  · rw [if_neg here, if_neg here, add_zero]

namespace Row

variable {running : Table Text Money} {seen : List Money}

/-- A row can be added if its total is the value of a sum that was made. -/
theorem Running.exists_extend (right : Running running seen) {amount : Money} {a b sum : Decimal}
    (made : a.add b = .ok sum)
    (value : sum.value = Money.totalIn amount.currency (seen ++ [amount])) :
    ∃ next, Row.extend running amount = .ok next := by
  rw [Money.totalIn_append, Money.totalIn_singleton, if_pos rfl, ← right.value_getD] at value
  rcases Decimal.exists_add_of_value made value.symm with ⟨total, added⟩
  rw [Row.extend, Money.add_of_amounts (right.table.currency_getD _) added]
  exact ⟨_, rfl⟩

/-- A listing goes on over amounts that were added up already, from totals of the same
values as its own. -/
theorem exists_listFrom_append {earlier movements rest : List Movement}
    {totals result : Table Text Decimal}
    (adds : AddsExactly ((earlier ++ movements).map Movement.posted))
    (right : Running running (earlier.map (·.amount)))
    (same : ∀ currency, Booking.totalOf totals currency =
      Money.totalIn currency (earlier.map (·.amount)))
    (ok : Booking.addTotals totals (movements.map (·.amount)) = .ok result)
    (onward : ∀ next, Running next ((earlier ++ movements).map (·.amount)) →
      ∃ rows, listFrom next rest = .ok rows) :
    ∃ rows, listFrom running (movements ++ rest) = .ok rows := by
  induction movements generalizing running earlier totals with
  | nil =>
      rw [List.append_nil] at onward
      exact onward running right
  | cons movement others ih =>
      rcases Outcome.bind_eq_ok.mp ok with ⟨sum, summed, ok⟩
      rw [List.append_cons] at adds onward
      rcases adds.subperm ((List.sublist_append_left _ others).map Movement.posted).subperm
        movement.amount.currency with ⟨unit, least, fits⟩
      have total := fits.fits_totalIn
      have amounts : (earlier ++ [movement]).map (·.amount) =
          earlier.map (·.amount) ++ [movement.amount] := List.map_append
      rw [Movement.map_snd_posted, amounts] at total
      have exact_ := Booking.totalOf_put_exact least total same summed
      have value := exact_ movement.amount.currency
      rw [Booking.totalOf_put, if_pos rfl] at value
      rcases right.exists_extend summed value with ⟨next, extended⟩
      have right' := right.extend least total extended
      rw [← amounts] at right' exact_
      obtain ⟨rows, listed⟩ := ih adds right' exact_ ok onward
      exact ⟨_, Outcome.bind_eq_ok.mpr ⟨next, extended, Outcome.bind_eq_ok.mpr ⟨rows, listed, rfl⟩⟩⟩

/-- Bookings that balance exactly and have been added up can be listed after others of
that kind. -/
theorem exists_listFrom_entries {earlier : List Movement} {entries : List (Date × Booking)}
    (adds : AddsExactly
      ((earlier ++ entries.flatMap fun entry => Movement.ofBooking entry.1 entry.2).map Movement.posted))
    (right : Running running (earlier.map (·.amount)))
    (even : ∀ currency, Money.totalIn currency (earlier.map (·.amount)) = 0)
    (summed : ∀ entry ∈ entries, ∃ totals, Booking.addTotals [] entry.2.moneys = .ok totals)
    (closed : ∀ entry ∈ entries, ∀ currency, entry.2.exactTotal currency = 0) :
    ∃ rows, listFrom running (entries.flatMap fun entry => Movement.ofBooking entry.1 entry.2) =
      .ok rows := by
  induction entries generalizing running earlier with
  | nil => exact ⟨[], rfl⟩
  | cons entry rest ih =>
      rw [List.flatMap_cons, ← List.append_assoc] at adds
      rw [List.flatMap_cons]
      rcases summed entry List.mem_cons_self with ⟨totals, made⟩
      rw [← Movement.map_amount_ofBooking entry.1] at made
      refine exists_listFrom_append
        (adds.subperm ((List.sublist_append_left _ _).map Movement.posted).subperm) right
        (fun currency => ?_) made (fun next there => ?_)
      · rw [even]
        exact Decimal.value_zero
      · refine ih adds there (fun currency => ?_)
          (fun other member => summed other (List.mem_cons_of_mem entry member))
          (fun other member => closed other (List.mem_cons_of_mem entry member))
        rw [List.map_append, Money.totalIn_append, even, Movement.map_amount_ofBooking, zero_add]
        exact closed entry List.mem_cons_self currency

end Row

/-- The register of bookings that balance exactly can be listed, and its last row shows
zero in every currency. -/
theorem Snapshot.register_closes {snapshot : Snapshot} (adds : AddsExactly snapshot.movements)
    (summed : ∀ booking ∈ Chapter.bookingsOf snapshot.chapters,
      ∃ totals, Booking.addTotals [] booking.moneys = .ok totals)
    (closed : ∀ booking ∈ Chapter.bookingsOf snapshot.chapters,
      ∀ currency, booking.exactTotal currency = 0) :
    ∃ rows, snapshot.register none none = .ok rows ∧
      Row.Lists rows (Movement.ofChapters snapshot.chapters) ∧
      ∀ money ∈ Row.closing rows, money.amount.value = 0 := by
  have everything : (Movement.ofChapters snapshot.chapters).filter (fun movement =>
      isOn none movement.date && isMatch none movement.description movement.account) =
        Movement.ofChapters snapshot.chapters :=
    List.filter_eq_self.mpr fun _ _ => rfl
  rw [movements, ← Movement.map_posted_ofChapters] at adds
  have each : ∀ entry ∈ Chapter.entries snapshot.chapters,
      entry.2 ∈ Chapter.bookingsOf snapshot.chapters := fun _ member => List.mem_map_of_mem member
  rcases @Row.exists_listFrom_entries [] [] (Chapter.entries snapshot.chapters) adds Row.running_nil
    (fun _ => rfl) (fun entry member => summed entry.2 (each entry member))
    (fun entry member => closed entry.2 (each entry member)) with ⟨rows, listed⟩
  have lists := Row.lists_of_list adds listed
  refine ⟨rows, by rw [register, everything]; exact listed, lists, fun money member => ?_⟩
  rw [lists.closing.value_of_mem member, Movement.ofChapters, List.map_flatMap]
  refine Money.totalIn_flatMap_eq_zero fun entry inside => ?_
  change Money.totalIn _ ((Movement.ofBooking entry.1 entry.2).map (·.amount)) = 0
  rw [Movement.map_amount_ofBooking]
  exact closed entry.2 (each entry inside) money.currency

end Daybook
