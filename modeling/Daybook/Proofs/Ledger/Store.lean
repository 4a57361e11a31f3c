import Daybook.Proofs.Ledger.Listed
import Mathlib.Data.List.Flatten

namespace Daybook

/-!
# A store and its rebuilt snapshot

A store holds one snapshot at a time.  It starts from chapters with distinct
labels and then takes bookings in and out, opens accounts and goes back to
snapshots that it held before, in any order; a call that fails changes nothing.
Every snapshot that a store holds can be compared with the one that is built anew
from its chapters: whatever is counted or listed is the same, and as long as all
amounts that were ever present fit the digits, so are the balances.

The store keeps two things that no operation looks at: the snapshots it held, so
that going back can be said, and the bookings that were ever present, so that the
digits can be bounded once for a whole run.
-/

open Calendar

/-- A store with its past: the snapshots that it held before, the latest first, and the bookings
that were ever present, each once. -/
structure Store where
  snapshot : Snapshot
  held : List Snapshot := []
  present : List Booking := []

/-- A call of a store.  A snapshot that was held before is gone back to by its number. -/
inductive Store.Call where
  | add (date : Date) (booking : Booking)
  | remove (label : Text)
  | openAccount (account : Account)
  | restore (number : Nat)

namespace Store

def hold (store : Store) (after : Snapshot) : Store :=
  { store with snapshot := after, held := store.snapshot :: store.held }

/-- Carries out a call; one that fails leaves the store as it is. -/
def call (store : Store) : Call → Store
  | .add date booking =>
    match store.snapshot.add date booking with
    | .ok after => { store.hold after with present := store.present.insert booking }
    | .error _ => store
  | .remove label =>
    match store.snapshot.remove label with
    | .ok (_, after) => store.hold after
    | .error _ => store
  | .openAccount account => store.hold (store.snapshot.openAccount account)
  | .restore number =>
    match store.held[number]? with
    | some earlier => store.hold earlier
    | none => store

/-- Whether a booking that is to be added brings a label of its own. -/
def Fresh (store : Store) : Call → Prop
  | .add _ booking => Chapter.find? booking.label store.snapshot.chapters = none
  | _ => True

instance (store : Store) (call : Call) : Decidable (store.Fresh call) :=
  match call with
  | .add _ _ => inferInstanceAs (Decidable (_ = none))
  | .remove _ | .openAccount _ | .restore _ => inferInstanceAs (Decidable True)

/-- The stores that calls lead to. -/
inductive Reachable : Store → Prop
  | start {chapters : List Chapter} {registry : Registry} {opened : List Account} {built : Snapshot}
      (distinct : (Chapter.labelsOf chapters).Nodup)
      (ok : Snapshot.build chapters registry opened = .ok built) :
      Reachable { snapshot := built, present := Chapter.bookingsOf chapters }
  | step {store : Store} {call : Call} (reachable : Reachable store) (fresh : store.Fresh call) :
      Reachable (store.call call)

/-! ## The invariant -/

/-- What is known of a snapshot that a store holds or held. -/
structure Kept (present : List Booking) (snapshot : Snapshot) : Prop where
  indexed : snapshot.Indexed
  listed : snapshot.Listed
  within : Chapter.bookingsOf snapshot.chapters ⊆ present
  adds_up : AddsExactly (Booking.movements present) → Exact snapshot.balances snapshot.movements

/-- What is known of a store. -/
def Sound (store : Store) : Prop :=
  ∀ snapshot ∈ store.snapshot :: store.held, Kept store.present snapshot

/-- Labels tell bookings apart, so all movements of a snapshot are among those
that were ever present, each as often. -/
theorem movements_subperm {present : List Booking} {snapshot : Snapshot}
    (distinct : (Chapter.labelsOf snapshot.chapters).Nodup)
    (within : Chapter.bookingsOf snapshot.chapters ⊆ present) :
    snapshot.movements.Subperm (Booking.movements present) := by
  rw [Chapter.labelsOf_eq] at distinct
  exact Booking.movements_subperm (List.subperm_of_subset distinct.of_map within)

theorem AddsExactly.of_insert {present : List Booking} {booking : Booking}
    (adds : AddsExactly (Booking.movements (present.insert booking))) :
    AddsExactly (Booking.movements present) :=
  adds.subperm (Booking.movements_subperm (List.sublist_insert booking present).subperm)

theorem Kept.exact_ {present : List Booking} {snapshot : Snapshot} (kept : Kept present snapshot)
    (fits : AllFit (Booking.movements present)) : Exact snapshot.balances snapshot.movements :=
  kept.adds_up fits.addsExactly

theorem Kept.insert {present : List Booking} {snapshot : Snapshot} (kept : Kept present snapshot)
    (booking : Booking) : Kept (present.insert booking) snapshot where
  indexed := kept.indexed
  listed := kept.listed
  within := fun _ member => List.mem_insert_of_mem (kept.within member)
  adds_up := fun adds => kept.adds_up (AddsExactly.of_insert adds)

theorem Kept.add {present : List Booking} {snapshot after : Snapshot} (kept : Kept present snapshot)
    {date : Date} {booking : Booking}
    (fresh : Chapter.find? booking.label snapshot.chapters = none)
    (ok : snapshot.add date booking = .ok after) : Kept (present.insert booking) after := by
  have indexed := kept.indexed.add fresh ok
  have within : Chapter.bookingsOf after.chapters ⊆ present.insert booking := by
    rcases Snapshot.add_eq_ok ok with ⟨-, -, -, committed⟩
    rcases Snapshot.commit_eq_ok committed with ⟨balances, usage, contacts, -, -, rfl⟩
    rcases Chapter.entries_insert date booking snapshot.chapters with ⟨front, back, without, with_it⟩
    intro other member
    rw [Chapter.bookingsOf, with_it, List.map_append, List.map_cons, List.mem_append,
      List.mem_cons, or_left_comm, ← List.mem_append, ← List.map_append, ← without] at member
    rcases member with rfl | known
    · exact List.mem_insert_self
    · exact List.mem_insert_of_mem (kept.within known)
  refine ⟨indexed, kept.listed.add ok, within, ?_⟩
  intro adds
  exact Snapshot.exact_add (kept.adds_up (AddsExactly.of_insert adds))
    (adds.subperm (movements_subperm indexed.distinct within)) ok

theorem Kept.remove {present : List Booking} {snapshot after : Snapshot}
    (kept : Kept present snapshot) {label : Text} {booking : Booking}
    (ok : snapshot.remove label = .ok (booking, after)) : Kept present after := by
  refine ⟨kept.indexed.remove ok, kept.listed.remove ok, ?_, ?_⟩
  · rcases Snapshot.remove_eq_ok ok with ⟨date, found, committed⟩
    rcases Snapshot.commit_eq_ok committed with ⟨balances, usage, contacts, -, -, rfl⟩
    rcases Chapter.entries_remove kept.indexed.distinct found with ⟨front, back, with_it, without⟩
    refine List.Subset.trans ?_ kept.within
    rw [Chapter.bookingsOf, Chapter.bookingsOf, with_it, without]
    exact (((List.sublist_cons_self _ back).append_left front).map _).subset
  · intro adds
    exact kept.indexed.exact_remove (kept.adds_up adds)
      (adds.subperm (movements_subperm kept.indexed.distinct kept.within)) ok

theorem Kept.openAccount {present : List Booking} {snapshot : Snapshot}
    (kept : Kept present snapshot) (account : Account) :
    Kept present (snapshot.openAccount account) := by
  have chapters := snapshot.openAccount_chapters account
  have balances := (snapshot.openAccount_indices account).1
  refine ⟨kept.indexed.openAccount account, kept.listed.openAccount account, ?_, ?_⟩
  · rw [chapters]
    exact kept.within
  · rw [Snapshot.movements, chapters, balances]
    exact kept.adds_up

/-- Taking on a snapshot that is known of. -/
theorem Sound.hold {store : Store} (sound : store.Sound) {after : Snapshot}
    (kept : Kept store.present after) : (store.hold after).Sound := by
  intro snapshot member
  rcases List.mem_cons.mp member with rfl | inside
  · exact kept
  · exact sound snapshot inside

theorem Sound.call {store : Store} (sound : store.Sound) {call : Call} (fresh : store.Fresh call) :
    (store.call call).Sound := by
  have now := sound store.snapshot List.mem_cons_self
  cases call with
  | add date booking =>
      rw [Store.call]
      split
      · rename_i after ok
        intro snapshot member
        rcases List.mem_cons.mp member with rfl | inside
        · exact now.add fresh ok
        · exact (sound snapshot inside).insert booking
      · exact sound
  | remove label =>
      rw [Store.call]
      split
      · rename_i booking after ok
        exact sound.hold (now.remove ok)
      · exact sound
  | openAccount account => exact sound.hold (now.openAccount account)
  | restore number =>
      rw [Store.call]
      split
      · rename_i earlier found
        exact sound.hold (sound earlier (List.mem_cons_of_mem _ (List.mem_of_getElem? found)))
      · exact sound

theorem Reachable.sound {store : Store} (reachable : store.Reachable) : store.Sound := by
  induction reachable with
  | start distinct ok =>
      intro snapshot member
      rcases List.mem_singleton.mp member with rfl
      refine ⟨Snapshot.indexed_of_build distinct ok, Snapshot.listed_of_build ok, ?_,
        fun adds => Snapshot.exact_of_build adds ok⟩
      rw [(Snapshot.build_eq_ok ok).1]
      exact ((Chapter.entries_merge _).map _).subset
  | step _ fresh ih => exact ih.call fresh

/-! ## The days of short runs -/

theorem isDate_new_year : IsDate 2024 1 1 := by decide

theorem isDate_after_new_year : IsDate 2024 1 2 := by decide

end Store
end Daybook
