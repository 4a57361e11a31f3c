import Daybook.Ledger.Snapshot
import Daybook.Proofs.Ledger.Chapters
import Daybook.Proofs.Outcome

namespace Daybook

/-!
# The index of contacts

The ledger of a contact depends on the movements of that contact only.  Renewing
the ledgers of the contacts of one booking is therefore enough after that booking
came or went: for every other contact the chapters before and after have the same
movements, and what the index says of it is still right.
-/

open Calendar

def Movement.ofContact (name : Text) (chapters : List Chapter) : List Movement :=
  (Movement.ofChapters chapters).filter fun movement => movement.account.contact? == some name

/-- What an index of contacts has to give for a name: the ledger of the contact,
or nothing if it has no movements. -/
def ListsContact (chapters : List Chapter) (name : Text) (found : Option ContactLedger) : Prop :=
  ∃ ledger, Snapshot.contactLedger name chapters = .ok ledger ∧
    found = if ledger.everything.isEmpty then none else some ledger

/-- Whether an index of contacts is that of chapters.  The empty name is not
indexed. -/
structure ListsContacts (chapters : List Chapter) (contacts : Table Text ContactLedger) : Prop where
  named : ∀ name, name ≠ [] → ListsContact chapters name (contacts.get? name)
  nameless : contacts.get? [] = none

theorem Booking.mem_contacts {booking : Booking} {name : Text} :
    name ∈ booking.contacts ↔
      name ≠ [] ∧ ∃ posting ∈ booking.postings, posting.account.contact? = some name := by
  simp [contacts, and_comm]

/-- A booking has no movements of a contact that none of its accounts names. -/
theorem Movement.ofBooking_filter_eq_nil {booking : Booking} {name : Text} (named : name ≠ [])
    (absent : name ∉ booking.contacts) (date : Date) :
    (ofBooking date booking).filter (fun movement => movement.account.contact? == some name) = [] := by
  rw [List.filter_eq_nil_iff]
  intro movement member
  rcases List.mem_filterMap.mp member with ⟨posting, inside, made⟩
  rcases Option.map_eq_some_iff.mp made with ⟨money, -, rfl⟩
  rw [beq_iff_eq]
  intro equal
  exact absent (Booking.mem_contacts.mpr ⟨named, posting, inside, equal⟩)

theorem Movement.ofContact_eq (name : Text) (chapters : List Chapter) :
    ofContact name chapters = (Chapter.entries chapters).flatMap fun entry =>
      (ofBooking entry.1 entry.2).filter fun movement => movement.account.contact? == some name := by
  rw [ofContact, ofChapters, List.filter_flatMap]

/-- Chapters that differ in one booking have the same movements of the contacts
that the booking does not name. -/
theorem Movement.ofContact_congr {name : Text} {booking : Booking} {date : Date}
    {whole part : List Chapter} {front back : List (Date × Booking)} (named : name ≠ [])
    (absent : name ∉ booking.contacts)
    (with_it : Chapter.entries whole = front ++ (date, booking) :: back)
    (without : Chapter.entries part = front ++ back) :
    ofContact name whole = ofContact name part := by
  rw [ofContact_eq, ofContact_eq, with_it, without, List.flatMap_append, List.flatMap_append,
    List.flatMap_cons, ofBooking_filter_eq_nil named absent, List.nil_append]

namespace Snapshot

theorem contactLedger_congr {name : Text} {one other : List Chapter}
    (same : Movement.ofContact name one = Movement.ofContact name other) :
    contactLedger name one = contactLedger name other := by
  unfold Movement.ofContact at same
  unfold contactLedger
  rw [same]

/-- A contact without movements has an empty ledger. -/
theorem contactLedger_of_nil {name : Text} {chapters : List Chapter}
    (absent : Movement.ofContact name chapters = []) :
    contactLedger name chapters = .ok ⟨[], []⟩ := by
  unfold Movement.ofContact at absent
  unfold contactLedger
  rw [absent]
  rfl

/-- Renewing ledgers gives the renewed names their ledgers and leaves the others
as they were. -/
theorem indexContacts_lists {chapters : List Chapter} {names : List Text}
    {contacts after : Table Text ContactLedger}
    (ok : indexContacts chapters names contacts = .ok after) (name : Text) :
    (name ∈ names → ListsContact chapters name (after.get? name)) ∧
      (name ∉ names → after.get? name = contacts.get? name) := by
  induction names generalizing contacts with
  | nil =>
      obtain rfl : contacts = after := Except.ok.inj ok
      exact ⟨fun member => (by cases member), fun _ => rfl⟩
  | cons first rest ih =>
      rcases Outcome.bind_eq_ok.mp ok with ⟨ledger, read, ok⟩
      have later := ih ok
      by_cases inside : name ∈ rest
      · exact ⟨fun _ => later.1 inside, fun absent => absurd (List.mem_cons_of_mem _ inside) absent⟩
      · rw [later.2 inside, List.mem_cons, or_iff_left inside]
        by_cases same : first = name
        · subst same
          refine ⟨fun _ => ⟨ledger, read, ?_⟩, fun absent => absurd rfl absent⟩
          split
          · rw [Table.get?_erase, if_pos rfl]
          · rw [Table.get?_put, if_pos rfl]
        · refine ⟨fun equal => absurd equal.symm same, fun _ => ?_⟩
          split
          · rw [Table.get?_erase, if_neg same]
          · rw [Table.get?_put, if_neg same]

/-- Renewing ledgers succeeds when the ledgers of the names can be made. -/
theorem exists_indexContacts {chapters : List Chapter} {names : List Text}
    (each : ∀ name ∈ names, ∃ ledger, contactLedger name chapters = .ok ledger)
    (contacts : Table Text ContactLedger) : ∃ after, indexContacts chapters names contacts = .ok after := by
  induction names generalizing contacts with
  | nil => exact ⟨contacts, rfl⟩
  | cons first rest ih =>
      rcases each first List.mem_cons_self with ⟨ledger, read⟩
      obtain ⟨after, ok⟩ := ih (fun name member => each name (List.mem_cons_of_mem _ member))
        (if ledger.everything.isEmpty then contacts.erase first else contacts.put first ledger)
      exact ⟨after, Outcome.bind_eq_ok.mpr ⟨ledger, read, ok⟩⟩

end Snapshot

namespace ListsContacts

variable {chapters : List Chapter} {contacts : Table Text ContactLedger}

/-- The chapters decide what the index gives for a name. -/
theorem get?_eq {others : Table Text ContactLedger} (one : ListsContacts chapters contacts)
    (two : ListsContacts chapters others) (name : Text) : contacts.get? name = others.get? name := by
  by_cases named : name = []
  · rw [named, one.nameless, two.nameless]
  · rcases one.named name named with ⟨ledger, read, equal⟩
    rcases two.named name named with ⟨ledger', read', equal'⟩
    obtain rfl : ledger = ledger' := Except.ok.inj (read.symm.trans read')
    rw [equal, equal']

/-- After one booking came or went, renewing its contacts is enough. -/
theorem renewed {chapters' : List Chapter} {booking : Booking} {after : Table Text ContactLedger}
    (listed : ListsContacts chapters contacts)
    (others : ∀ name, name ≠ [] → name ∉ booking.contacts →
      Movement.ofContact name chapters = Movement.ofContact name chapters')
    (ok : Snapshot.indexContacts chapters' (Text.sort booking.contacts) contacts = .ok after) :
    ListsContacts chapters' after := by
  have member_sort : ∀ name, name ∈ Text.sort booking.contacts ↔ name ∈ booking.contacts :=
    fun name => List.mem_mergeSort
  constructor
  · intro name named
    rcases Snapshot.indexContacts_lists ok name with ⟨renew, keep⟩
    by_cases inside : name ∈ booking.contacts
    · exact renew ((member_sort name).mpr inside)
    · rw [keep (mt (member_sort name).mp inside)]
      rcases listed.named name named with ⟨ledger, read, equal⟩
      exact ⟨ledger, Snapshot.contactLedger_congr (others name named inside) ▸ read, equal⟩
  · have absent : [] ∉ Text.sort booking.contacts := by
      rw [member_sort, Booking.mem_contacts]
      exact fun named => named.1 rfl
    rw [(Snapshot.indexContacts_lists ok []).2 absent]
    exact listed.nameless

/-- The names that a snapshot indexes are the contacts of its bookings. -/
theorem mem_names {chapters : List Chapter} {name : Text} :
    name ∈ Text.sort ((chapters.flatMap (·.bookings)).flatMap (·.contacts)).eraseDups ↔
      ∃ booking ∈ Chapter.bookingsOf chapters, name ∈ booking.contacts := by
  rw [Text.sort, List.mem_mergeSort, List.mem_eraseDups, List.mem_flatMap, Chapter.bookingsOf_eq]

/-- The index made from nothing is that of the chapters. -/
theorem built {after : Table Text ContactLedger}
    (ok : Snapshot.indexContacts chapters
      (Text.sort ((chapters.flatMap (·.bookings)).flatMap (·.contacts)).eraseDups) [] = .ok after) :
    ListsContacts chapters after := by
  constructor
  · intro name named
    rcases Snapshot.indexContacts_lists ok name with ⟨renew, keep⟩
    by_cases inside : ∃ booking ∈ Chapter.bookingsOf chapters, name ∈ booking.contacts
    · exact renew (mem_names.mpr inside)
    · rw [keep (mt mem_names.mp inside)]
      have absent : Movement.ofContact name chapters = [] := by
        rw [Movement.ofContact_eq, List.flatMap_eq_nil_iff]
        intro entry member
        apply Movement.ofBooking_filter_eq_nil named
        intro among
        exact inside ⟨entry.2, List.mem_map_of_mem member, among⟩
      exact ⟨_, Snapshot.contactLedger_of_nil absent, rfl⟩
  · have absent : ¬ ∃ booking ∈ Chapter.bookingsOf chapters, [] ∈ booking.contacts := by
      rintro ⟨booking, -, among⟩
      exact (Booking.mem_contacts.mp among).1 rfl
    rw [(Snapshot.indexContacts_lists ok []).2 (mt mem_names.mp absent)]
    rfl

/-- A right index can be made again. -/
theorem exists_built (listed : ListsContacts chapters contacts) :
    ∃ after, Snapshot.indexContacts chapters
      (Text.sort ((chapters.flatMap (·.bookings)).flatMap (·.contacts)).eraseDups) [] = .ok after := by
  apply Snapshot.exists_indexContacts
  intro name member
  rcases mem_names.mp member with ⟨booking, -, among⟩
  rcases listed.named name (Booking.mem_contacts.mp among).1 with ⟨ledger, read, -⟩
  exact ⟨ledger, read⟩

end ListsContacts
end Daybook
