import Daybook.Proofs.Ledger.Contacts
import Daybook.Proofs.Ledger.Totals

namespace Daybook
namespace Snapshot

/-!
# Snapshots with right indices

A snapshot is indexed when its chapters are in shape and its indices are those of
its chapters.  Building gives an indexed snapshot, and adding, removing and opening
keep it indexed.  The balances need a word of their own, since they are the one
part in which numbers are rounded: they are exact as long as the movements fit.
-/

open Calendar

def movements (snapshot : Snapshot) : List (Account × Money) :=
  Booking.movements (Chapter.bookingsOf snapshot.chapters)

/-- Whether the chapters of a snapshot are in shape and its indices are those of
its chapters. -/
structure Indexed (snapshot : Snapshot) : Prop where
  shape : Chapter.InShape snapshot.chapters
  distinct : (Chapter.labelsOf snapshot.chapters).Nodup
  counts : Counts snapshot.balances snapshot.usage snapshot.movements
  contacts : ListsContacts snapshot.chapters snapshot.contacts

/-! ## What the operations do -/

theorem build_eq_ok {chapters : List Chapter} {registry : Registry} {opened : List Account}
    {built : Snapshot} (ok : build chapters registry opened = .ok built) :
    built.chapters = Chapter.merge chapters ∧ built.registry = registry ∧
      built.opened = opened.eraseDups ∧
      applyBookings ((Chapter.merge chapters).flatMap (·.bookings)) ([], []) =
        .ok (built.balances, built.usage) ∧
      indexContacts (Chapter.merge chapters) (Text.sort
        (((Chapter.merge chapters).flatMap (·.bookings)).flatMap (·.contacts)).eraseDups) [] =
        .ok built.contacts := by
  rcases Outcome.bind_eq_ok.mp ok with ⟨⟨balances, usage⟩, applied, ok⟩
  rcases Outcome.bind_eq_ok.mp ok with ⟨contacts, indexed, ok⟩
  rw [← Except.ok.inj ok]
  exact ⟨rfl, rfl, rfl, applied, indexed⟩

theorem commit_eq_ok {snapshot after : Snapshot} {chapters : List Chapter} {booking : Booking}
    {direction : Direction} (ok : snapshot.commit chapters booking direction = .ok after) :
    ∃ balances usage contacts,
      applyPostings direction booking.postings (snapshot.balances, snapshot.usage) =
        .ok (balances, usage) ∧
      indexContacts chapters (Text.sort booking.contacts) snapshot.contacts = .ok contacts ∧
      after = { snapshot with chapters, balances, usage, contacts } := by
  rcases Outcome.bind_eq_ok.mp ok with ⟨⟨balances, usage⟩, applied, ok⟩
  rcases Outcome.bind_eq_ok.mp ok with ⟨contacts, indexed, ok⟩
  exact ⟨balances, usage, contacts, applied, indexed, (Except.ok.inj ok).symm⟩

theorem add_eq_ok {snapshot after : Snapshot} {date : Date} {booking : Booking}
    (ok : snapshot.add date booking = .ok after) :
    booking.blankPostings = [] ∧ booking.split = none ∧ booking.validate = .ok () ∧
      snapshot.commit (Chapter.insert date booking snapshot.chapters) booking .entering =
        .ok after := by
  unfold add at ok
  split at ok
  · rename_i resolved
    rw [Bool.and_eq_true, List.isEmpty_iff, Option.isNone_iff_eq_none] at resolved
    rcases Outcome.bind_eq_ok.mp ok with ⟨⟨⟩, valid, ok⟩
    exact ⟨resolved.1, resolved.2, valid, ok⟩
  · cases ok

theorem remove_eq_ok {snapshot after : Snapshot} {label : Text} {booking : Booking}
    (ok : snapshot.remove label = .ok (booking, after)) :
    ∃ date, Chapter.find? label snapshot.chapters = some (date, booking) ∧
      snapshot.commit (Chapter.remove label snapshot.chapters) booking .leaving = .ok after := by
  unfold remove at ok
  split at ok
  · cases ok
  · rename_i date known found
    rcases Outcome.map_eq_ok.mp ok with ⟨after', committed, equal⟩
    rcases Prod.mk.inj equal with ⟨rfl, rfl⟩
    exact ⟨date, found, committed⟩

theorem openAccount_chapters (snapshot : Snapshot) (account : Account) :
    (snapshot.openAccount account).chapters = snapshot.chapters := by
  unfold openAccount
  split <;> rfl

theorem openAccount_registry (snapshot : Snapshot) (account : Account) :
    (snapshot.openAccount account).registry = snapshot.registry := by
  unfold openAccount
  split <;> rfl

theorem openAccount_indices (snapshot : Snapshot) (account : Account) :
    (snapshot.openAccount account).balances = snapshot.balances ∧
      (snapshot.openAccount account).usage = snapshot.usage ∧
      (snapshot.openAccount account).contacts = snapshot.contacts := by
  unfold openAccount
  split <;> exact ⟨rfl, rfl, rfl⟩

/-! ## Movements -/

/-- Chapters with one booking more have its movements more. -/
theorem movements_of_entries {whole part : List Chapter} {front back : List (Date × Booking)}
    {date : Date} {booking : Booking}
    (with_it : Chapter.entries whole = front ++ (date, booking) :: back)
    (without : Chapter.entries part = front ++ back) :
    (Booking.movements (Chapter.bookingsOf whole)).Perm
      (Posting.movements booking.postings ++ Booking.movements (Chapter.bookingsOf part)) := by
  rw [← Booking.movements_cons]
  apply List.Perm.flatMap_right
  rw [Chapter.bookingsOf, Chapter.bookingsOf, with_it, without, List.map_append, List.map_append,
    List.map_cons]
  exact List.perm_middle

theorem movements_merge (chapters : List Chapter) :
    (Booking.movements (Chapter.bookingsOf (Chapter.merge chapters))).Perm
      (Booking.movements (Chapter.bookingsOf chapters)) :=
  ((Chapter.entries_merge chapters).map _).flatMap_right _

theorem movements_add {snapshot after : Snapshot} {date : Date} {booking : Booking}
    (ok : snapshot.add date booking = .ok after) :
    after.movements.Perm (Posting.movements booking.postings ++ snapshot.movements) := by
  rcases add_eq_ok ok with ⟨-, -, -, committed⟩
  rcases commit_eq_ok committed with ⟨balances, usage, contacts, -, -, rfl⟩
  rcases Chapter.entries_insert date booking snapshot.chapters with ⟨front, back, without, with_it⟩
  exact movements_of_entries with_it without

theorem Indexed.movements_remove {snapshot after : Snapshot} (indexed : snapshot.Indexed)
    {label : Text} {booking : Booking} (ok : snapshot.remove label = .ok (booking, after)) :
    snapshot.movements.Perm (Posting.movements booking.postings ++ after.movements) := by
  rcases remove_eq_ok ok with ⟨date, found, committed⟩
  rcases commit_eq_ok committed with ⟨balances, usage, contacts, -, -, rfl⟩
  rcases Chapter.entries_remove indexed.distinct found with ⟨front, back, with_it, without⟩
  exact movements_of_entries with_it without

/-! ## Indices that are right stay right -/

theorem indexed_of_build {chapters : List Chapter} {registry : Registry} {opened : List Account}
    {built : Snapshot} (distinct : (Chapter.labelsOf chapters).Nodup)
    (ok : build chapters registry opened = .ok built) : built.Indexed := by
  rcases build_eq_ok ok with ⟨merged, -, -, applied, indexed⟩
  rw [← merged] at indexed
  refine ⟨merged ▸ Chapter.inShape_merge chapters, ?_, ?_, ListsContacts.built indexed⟩
  · rw [merged]
    exact (((Chapter.entries_merge chapters).map _).nodup_iff).mpr distinct
  · rw [← Chapter.bookingsOf_eq] at applied
    have counts := Counts.nil.entering_bookings applied
    rwa [List.append_nil, ← merged] at counts

theorem Indexed.add {snapshot after : Snapshot} (indexed : snapshot.Indexed) {date : Date}
    {booking : Booking} (fresh : Chapter.find? booking.label snapshot.chapters = none)
    (ok : snapshot.add date booking = .ok after) : after.Indexed := by
  have moved := movements_add ok
  rcases add_eq_ok ok with ⟨-, -, -, committed⟩
  rcases commit_eq_ok committed with ⟨balances, usage, contacts, applied, renewed, rfl⟩
  rcases Chapter.entries_insert date booking snapshot.chapters with ⟨front, back, without, with_it⟩
  refine ⟨indexed.shape.insert date booking, ?_, ?_, ?_⟩
  · have labels := indexed.distinct
    rw [Chapter.labelsOf, without, List.map_append] at labels
    rw [Chapter.labelsOf, with_it, List.map_append, List.map_cons, List.nodup_middle,
      List.nodup_cons]
    refine ⟨?_, labels⟩
    rw [← List.map_append, ← without]
    intro member
    rcases List.mem_map.mp member with ⟨entry, inside, same⟩
    exact List.find?_eq_none.mp fresh entry inside (beq_iff_eq.mpr same)
  · exact (indexed.counts.entering_postings applied).perm moved.symm
  · refine indexed.contacts.renewed ?_ renewed
    intro name named absent
    exact (Movement.ofContact_congr named absent with_it without).symm

theorem Indexed.remove {snapshot after : Snapshot} (indexed : snapshot.Indexed) {label : Text}
    {booking : Booking} (ok : snapshot.remove label = .ok (booking, after)) : after.Indexed := by
  have moved := indexed.movements_remove ok
  rcases remove_eq_ok ok with ⟨date, found, committed⟩
  rcases commit_eq_ok committed with ⟨balances, usage, contacts, applied, renewed, rfl⟩
  rcases Chapter.entries_remove indexed.distinct found with ⟨front, back, with_it, without⟩
  refine ⟨indexed.shape.remove label, ?_, ?_, ?_⟩
  · have labels := indexed.distinct
    rw [Chapter.labelsOf, with_it] at labels
    rw [Chapter.labelsOf, without]
    exact labels.sublist (((List.sublist_cons_self _ back).append_left front).map _)
  · exact (indexed.counts.perm moved).leaving_postings applied
  · refine indexed.contacts.renewed ?_ renewed
    intro name named absent
    exact Movement.ofContact_congr named absent with_it without

theorem Indexed.openAccount {snapshot : Snapshot} (indexed : snapshot.Indexed) (account : Account) :
    (snapshot.openAccount account).Indexed := by
  unfold Snapshot.openAccount
  split
  · exact indexed
  · exact ⟨indexed.shape, indexed.distinct, indexed.counts, indexed.contacts⟩

/-! ## Balances that are exact stay exact -/

theorem exact_of_build {chapters : List Chapter} {registry : Registry} {opened : List Account}
    {built : Snapshot} (adds : AddsExactly (Booking.movements (Chapter.bookingsOf chapters)))
    (ok : build chapters registry opened = .ok built) : Exact built.balances built.movements := by
  rcases build_eq_ok ok with ⟨merged, -, -, applied, -⟩
  rw [← Chapter.bookingsOf_eq] at applied
  have adds := adds.subperm (movements_merge chapters).subperm
  rw [← List.append_nil (Booking.movements _)] at adds
  have exact_ := Exact.nil.entering_bookings adds applied
  rwa [List.append_nil, ← merged] at exact_

theorem exact_add {snapshot after : Snapshot}
    (exact_ : Exact snapshot.balances snapshot.movements) {date : Date} {booking : Booking}
    (adds : AddsExactly after.movements) (ok : snapshot.add date booking = .ok after) :
    Exact after.balances after.movements := by
  have moved := movements_add ok
  rcases add_eq_ok ok with ⟨-, -, -, committed⟩
  rcases commit_eq_ok committed with ⟨balances, usage, contacts, applied, -, rfl⟩
  exact (exact_.entering_postings (adds.subperm moved.symm.subperm) applied).perm moved.symm

theorem Indexed.exact_remove {snapshot after : Snapshot} (indexed : snapshot.Indexed)
    (exact_ : Exact snapshot.balances snapshot.movements) {label : Text} {booking : Booking}
    (adds : AddsExactly snapshot.movements) (ok : snapshot.remove label = .ok (booking, after)) :
    Exact after.balances after.movements := by
  have moved := indexed.movements_remove ok
  rcases remove_eq_ok ok with ⟨date, found, committed⟩
  rcases commit_eq_ok committed with ⟨balances, usage, contacts, applied, -, rfl⟩
  exact (exact_.perm moved).leaving_postings (indexed.counts.perm moved)
    (adds.subperm moved.symm.subperm) applied

end Snapshot
end Daybook
