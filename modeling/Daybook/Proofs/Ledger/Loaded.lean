import Daybook.Ledger.Load
import Daybook.Proofs.Booking.Resolution
import Daybook.Proofs.Text.Digits

namespace Daybook

/-!
# What a loaded ledger satisfies

A snapshot that was loaded has right indices, bounded amounts and bookings with
settled postings.  The bookings get their labels from their number, so that no two
have the same.
-/

namespace Chapter

theorem labelOf_injective {left right : Nat} (same : labelOf left = labelOf right) : left = right :=
  Text.ofNat_injective (List.cons.inj same).2

/-! ## Numbering -/

theorem map_label_numberBookings (start : Nat) (bookings : List Booking) :
    (numberBookings start bookings).map (·.label) = (List.range' start bookings.length).map labelOf := by
  induction bookings generalizing start with
  | nil => rfl
  | cons booking rest ih =>
      rw [numberBookings, List.map_cons, ih, List.length_cons, List.range'_succ, List.map_cons]

theorem length_numberBookings (start : Nat) (bookings : List Booking) :
    (numberBookings start bookings).length = bookings.length := by
  induction bookings generalizing start with
  | nil => rfl
  | cons booking rest ih => rw [numberBookings, List.length_cons, List.length_cons, ih]

/-- Numbered bookings are labelled by consecutive numbers. -/
theorem labelsOf_number (start : Nat) (chapters : List Chapter) :
    labelsOf (number start chapters) =
      (List.range' start (bookingsOf chapters).length).map labelOf := by
  induction chapters generalizing start with
  | nil => rfl
  | cons chapter rest ih =>
      have front : labelsOf (number start (chapter :: rest)) =
          (numberBookings start chapter.bookings).map (·.label) ++
            labelsOf (number (start + chapter.bookings.length) rest) := by
        rw [number, labelsOf_eq, labelsOf_eq, bookingsOf_eq, bookingsOf_eq, List.flatMap_cons,
          List.map_append]
      rw [front, ih, map_label_numberBookings, bookingsOf_eq (chapter :: rest), List.flatMap_cons,
        List.length_append, ← bookingsOf_eq, ← List.map_append]
      congr 1
      rw [List.range'_append_1]

theorem nodup_labelsOf_number (start : Nat) (chapters : List Chapter) :
    (labelsOf (number start chapters)).Nodup := by
  rw [labelsOf_number]
  exact (@List.nodup_range' _ _ 1 Nat.one_pos).map fun _ _ => labelOf_injective

theorem mem_numberBookings {start : Nat} {bookings : List Booking} {booking : Booking}
    (member : booking ∈ numberBookings start bookings) :
    ∃ old ∈ bookings, ∃ label, booking = { old with label } := by
  induction bookings generalizing start with
  | nil => cases member
  | cons first rest ih =>
      rcases List.mem_cons.mp member with rfl | inside
      · exact ⟨first, List.mem_cons_self, _, rfl⟩
      · rcases ih inside with ⟨old, among, label, equal⟩
        exact ⟨old, List.mem_cons_of_mem _ among, label, equal⟩

/-- Numbering changes labels only. -/
theorem mem_number {start : Nat} {chapters : List Chapter} {chapter : Chapter}
    (member : chapter ∈ number start chapters) :
    ∃ old ∈ chapters, ∃ first, chapter = { old with bookings := numberBookings first old.bookings } := by
  induction chapters generalizing start with
  | nil => cases member
  | cons first rest ih =>
      rcases List.mem_cons.mp member with rfl | inside
      · exact ⟨first, List.mem_cons_self, start, rfl⟩
      · rcases ih inside with ⟨old, among, begin_, equal⟩
        exact ⟨old, List.mem_cons_of_mem _ among, begin_, equal⟩

theorem InShape.number {chapters : List Chapter} (shape : InShape chapters) (start : Nat) :
    InShape (number start chapters) := by
  induction chapters generalizing start with
  | nil => exact InShape.nil
  | cons chapter rest ih =>
      refine (ih shape.tail _).cons ?_ ?_
      · rw [← List.length_pos_iff]
        dsimp only
        rw [length_numberBookings]
        exact List.length_pos_iff.mpr (shape.nonempty chapter List.mem_cons_self)
      · intro other member
        rcases mem_number member with ⟨old, among, first, rfl⟩
        exact shape.before old among

/-- Merging chapters and numbering their bookings changes labels only. -/
theorem exists_merged {start : Nat} {chapters : List Chapter} {booking : Booking}
    (member : booking ∈ bookingsOf (number start (merge chapters))) :
    ∃ original ∈ bookingsOf chapters, ∃ label, booking = { original with label } := by
  rw [bookingsOf_eq] at member
  rcases List.mem_flatMap.mp member with ⟨chapter, inside, member⟩
  rcases mem_number inside with ⟨old, among, first, rfl⟩
  rcases mem_numberBookings member with ⟨original, within, label, rfl⟩
  have merged : original ∈ bookingsOf (merge chapters) := by
    rw [bookingsOf_eq]
    exact List.mem_flatMap.mpr ⟨old, among, within⟩
  exact ⟨original, ((entries_merge chapters).map _).mem_iff.mp merged, label, rfl⟩

/-! ## Resolving -/

theorem bookings_onItsDate {date : Calendar.Date} {booking : Booking} {chapter : Chapter}
    (ok : booking.onItsDate date = .ok chapter) :
    chapter.bookings = [{ booking with dateOffset := 0 }] := by
  unfold Booking.onItsDate at ok
  split at ok
  · rename_i no_offset
    rw [← Except.ok.inj ok, ← no_offset]
  · split at ok
    · rw [← Except.ok.inj ok]
    · cases ok

/-- Every resolved booking comes from an entry. -/
theorem exists_resolved {registry : Registry} {entries : List (Calendar.Date × Booking)}
    {chapters : List Chapter} (ok : resolveEntries registry entries = .ok chapters) :
    ∀ booking ∈ bookingsOf chapters, ∃ entry ∈ entries, ∃ resolved,
      entry.2.resolve registry = .ok resolved ∧ booking = { resolved with dateOffset := 0 } := by
  induction entries generalizing chapters with
  | nil =>
      rcases Except.ok.inj ok with rfl
      exact fun _ member => by cases member
  | cons entry rest ih =>
      rcases Outcome.bind_eq_ok.mp ok with ⟨resolved, settled, ok⟩
      rcases Outcome.bind_eq_ok.mp ok with ⟨chapter, moved, ok⟩
      rcases Outcome.bind_eq_ok.mp ok with ⟨others, later, ok⟩
      rcases Except.ok.inj ok with rfl
      intro booking member
      rw [bookingsOf_eq, List.flatMap_cons, List.mem_append, ← bookingsOf_eq] at member
      rcases member with inside | inside
      · rw [bookings_onItsDate moved, List.mem_singleton] at inside
        exact ⟨entry, List.mem_cons_self, resolved, settled, inside⟩
      · rcases ih later booking inside with ⟨other, among, found⟩
        exact ⟨other, List.mem_cons_of_mem entry among, found⟩

theorem resolveEntries_eq_ok {registry : Registry} (proper : registry.Proper)
    {entries : List (Calendar.Date × Booking)}
    (written : ∀ entry ∈ entries, entry.2.Written registry) {chapters : List Chapter}
    (ok : resolveEntries registry entries = .ok chapters) :
    ∀ booking ∈ bookingsOf chapters, booking.Settled registry := by
  intro booking member
  rcases exists_resolved ok booking member with ⟨entry, among, resolved, result, rfl⟩
  have known := (written entry among).resolve proper result
  exact ⟨⟨known.description, known.split, known.filled, known.accounts, known.settled⟩, known.complete⟩

end Chapter

namespace Reading

variable {reading : Reading}

theorem mem_bookings {entry : Calendar.Date × Booking}
    (member : entry ∈ Chapter.entries reading.chapters) : entry.2 ∈ reading.bookings := by
  rw [bookings, ← Chapter.bookingsOf_eq]
  exact List.mem_map_of_mem member

/-- What was read is settled once it is resolved. -/
theorem Proper.settled (proper : reading.Proper) {chapters : List Chapter}
    (resolved : Chapter.resolveAll reading.registry reading.chapters = .ok chapters) :
    ∀ booking ∈ Chapter.bookingsOf chapters, booking.Settled reading.registry :=
  Chapter.resolveEntries_eq_ok proper.registry
    (fun entry member => proper.bookings entry.2 (mem_bookings member)) resolved

end Reading

theorem Booking.Settled.withLabel {registry : Registry} {booking : Booking}
    (settled : booking.Settled registry) (label : Text) :
    Booking.Settled registry { booking with label } :=
  ⟨⟨settled.description, settled.split, settled.filled, settled.accounts, settled.settled⟩,
    settled.complete⟩

namespace Snapshot

/-- What holds of the content of a loaded ledger. -/
structure Settled (snapshot : Snapshot) : Prop where
  registry : snapshot.registry.Proper
  shape : Chapter.InShape snapshot.chapters
  bookings : ∀ booking ∈ Chapter.bookingsOf snapshot.chapters, booking.Settled snapshot.registry

theorem boundedAmounts_of_settled {registry : Registry} {bookings : List Booking}
    (settled : ∀ booking ∈ bookings, booking.Settled registry) :
    BoundedAmounts (Booking.movements bookings) := by
  intro movement member
  rcases Booking.exists_posting_of_movement member with ⟨booking, inside, posting, among, -, found⟩
  exact ((settled booking inside).settled posting among movement.2 found).within

/-- Chapters with settled bookings can be made a ledger, with the bookings numbered in
order. -/
theorem exists_ofChapters {chapters : List Chapter} {registry : Registry} (proper : registry.Proper)
    (settled : ∀ booking ∈ Chapter.bookingsOf chapters, booking.Settled registry) :
    ∃ snapshot, ofChapters chapters registry [] = .ok snapshot ∧ snapshot.Settled ∧ snapshot.Sound ∧
      snapshot.chapters = Chapter.number 0 (Chapter.merge chapters) ∧ snapshot.registry = registry := by
  have numbered : ∀ booking ∈ Chapter.bookingsOf (Chapter.number 0 (Chapter.merge chapters)),
      booking.Settled registry := by
    intro booking member
    rcases Chapter.exists_merged member with ⟨original, among, label, rfl⟩
    exact (settled original among).withLabel label
  rcases exists_build (boundedAmounts_of_settled numbered) registry [] with ⟨built, ok, bounded⟩
  have indexed := indexed_of_build (Chapter.nodup_labelsOf_number 0 _) ok
  rcases build_eq_ok ok with ⟨merged, kept, -⟩
  rw [Chapter.merge_of_inShape ((Chapter.inShape_merge chapters).number 0)] at merged
  exact ⟨built, ok, ⟨kept ▸ proper, indexed.shape, by rw [merged, kept]; exact numbered⟩,
    ⟨indexed, bounded⟩, merged, kept⟩

theorem load_eq_ok {text : Text} {today : Option Calendar.Date} {strict : Bool} {snapshot : Snapshot}
    (loaded : load text today strict = .ok snapshot) : snapshot.Settled ∧ snapshot.Sound := by
  unfold load at loaded
  rcases Outcome.bind_eq_ok.mp loaded with ⟨reading, read, loaded⟩
  rcases Outcome.bind_eq_ok.mp loaded with ⟨chapters, resolved, loaded⟩
  have proper := Reading.proper_of_ofText read
  rcases exists_ofChapters proper.registry (proper.settled resolved) with ⟨made, same, first, second, -⟩
  rcases Except.ok.inj (same.symm.trans loaded) with rfl
  exact ⟨first, second⟩

theorem sound_of_load {text : Text} {today : Option Calendar.Date} {strict : Bool} {snapshot : Snapshot}
    (loaded : load text today strict = .ok snapshot) : snapshot.Sound :=
  (load_eq_ok loaded).2

/-- The balances of a loaded ledger are exact if its amounts add up exactly. -/
theorem exact_of_load {text : Text} {today : Option Calendar.Date} {strict : Bool} {snapshot : Snapshot}
    (adds : AddsExactly snapshot.movements) (loaded : load text today strict = .ok snapshot) :
    Exact snapshot.balances snapshot.movements := by
  rcases Outcome.bind_eq_ok.mp loaded with ⟨reading, -, loaded⟩
  rcases Outcome.bind_eq_ok.mp loaded with ⟨chapters, -, built⟩
  apply exact_of_build _ built
  rw [movements, (build_eq_ok built).1] at adds
  exact adds.subperm (movements_merge _).symm.subperm

/-- What is loaded from a text, nothing if the text is refused. -/
def loadedFrom (text : Text) (strict : Bool) : Snapshot := (load text none strict).toOption.getD {}

theorem settled_of_load {text : Text} {today : Option Calendar.Date} {strict : Bool} {snapshot : Snapshot}
    (loaded : load text today strict = .ok snapshot) : snapshot.Settled :=
  (load_eq_ok loaded).1

end Snapshot
end Daybook
