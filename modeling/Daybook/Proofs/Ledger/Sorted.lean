import Daybook.Proofs.Calendar.Days
import Daybook.Proofs.Ledger.Arranged
import Daybook.Proofs.Ledger.Loaded
import Daybook.Proofs.Ledger.Source

namespace Daybook

/-!
# A loaded ledger is sorted by date

Loading gives every booking a chapter of its own, on the date that its offset leads to,
gathers the bookings of each date and sorts the dates.  On the whole this is one stable
sort: the bookings of the text, each resolved and on its date, are listed by date, and
those of one date keep the order of the text, whichever chapters and offsets brought them
there.  The labels are the places in this list.
-/

open Calendar

namespace Chapter

/-- Dated bookings in the order of their dates; those of one date keep their order. -/
def byDate (entries : List (Date × Booking)) : List (Date × Booking) :=
  entries.mergeSort fun left right => left.1.notAfter right.1

/-- Dated bookings labelled by their places, from a number on. -/
def labelled (start : Nat) (entries : List (Date × Booking)) : List (Date × Booking) :=
  entries.mapIdx fun place entry => (entry.1, { entry.2 with label := labelOf (start + place) })

/-! ## Stable sorting -/

theorem notAfter_trans (first second third : Date × Booking) (left : first.1.notAfter second.1 = true)
    (right : second.1.notAfter third.1 = true) : first.1.notAfter third.1 = true := by
  rw [Date.notAfter_iff] at left right ⊢
  exact left.trans right

theorem notAfter_total (first second : Date × Booking) :
    (first.1.notAfter second.1 || second.1.notAfter first.1) = true := by
  rw [Bool.or_eq_true, Date.notAfter_iff, Date.notAfter_iff]
  exact Nat.le_total _ _

theorem byDate_perm (entries : List (Date × Booking)) : (byDate entries).Perm entries :=
  List.mergeSort_perm _ _

theorem byDate_ascending (entries : List (Date × Booking)) :
    (byDate entries).Pairwise fun left right => left.1.key ≤ right.1.key :=
  (List.pairwise_mergeSort notAfter_trans notAfter_total entries).imp fun before =>
    (Date.notAfter_iff _ _).mp before

/-- Sorting leaves the bookings of one date in their order. -/
theorem bookingsOn_byDate (date : Date) (entries : List (Date × Booking)) :
    bookingsOn date (byDate entries) = bookingsOn date entries := by
  have one_date : (entries.filter fun entry => entry.1 = date).Pairwise fun left right =>
      left.1.notAfter right.1 := by
    refine List.pairwise_of_forall_mem_list fun left first right second => ?_
    have same := of_decide_eq_true (List.mem_filter.mp first).2
    have also := of_decide_eq_true (List.mem_filter.mp second).2
    rw [Date.notAfter_iff, same, also]
  have part : (entries.filter fun entry => entry.1 = date).Sublist (byDate entries) :=
    List.sublist_mergeSort notAfter_trans notAfter_total one_date List.filter_sublist
  have within := part.filter fun entry => decide (entry.1 = date)
  rw [List.filter_filter] at within
  simp only [Bool.and_self] at within
  have size := ((byDate_perm entries).filter fun entry => decide (entry.1 = date)).length_eq
  rw [bookingsOn, bookingsOn, within.eq_of_length size.symm]

/-- The date of the first booking of an ascending list is the first date with bookings. -/
theorem key_le_of_bookingsOn {date : Date} {booking : Booking} {first : Date × Booking}
    {rest : List (Date × Booking)}
    (ascending : (first :: rest).Pairwise fun left right => left.1.key ≤ right.1.key)
    (member : booking ∈ bookingsOn date (first :: rest)) : first.1.key ≤ date.key := by
  rcases List.mem_map.mp member with ⟨entry, inside, -⟩
  rcases List.mem_filter.mp inside with ⟨among, on_date⟩
  rw [← of_decide_eq_true on_date]
  rcases List.mem_cons.mp among with rfl | later
  · exact le_rfl
  · exact (List.pairwise_cons.mp ascending).1 entry later

theorem bookingsOn_cons_self (date : Date) (booking : Booking) (rest : List (Date × Booking)) :
    bookingsOn date ((date, booking) :: rest) = booking :: bookingsOn date rest := by
  rw [← List.singleton_append, bookingsOn_append, bookingsOn_single, if_pos rfl]
  rfl

/-- A list that ascends in date is determined by the bookings of every date. -/
theorem eq_of_ascending {left right : List (Date × Booking)}
    (first : left.Pairwise fun before behind => before.1.key ≤ behind.1.key)
    (second : right.Pairwise fun before behind => before.1.key ≤ behind.1.key)
    (same : ∀ date, bookingsOn date left = bookingsOn date right) : left = right := by
  induction left generalizing right with
  | nil =>
      cases right with
      | nil => rfl
      | cons other others =>
          have nothing := same other.1
          rw [bookingsOn_cons_self] at nothing
          cases nothing
  | cons entry rest ih =>
      rcases entry with ⟨date, booking⟩
      cases right with
      | nil =>
          have nothing := same date
          rw [bookingsOn_cons_self] at nothing
          cases nothing
      | cons other others =>
          rcases other with ⟨other_date, other_booking⟩
          have here := same date
          have there := same other_date
          rw [bookingsOn_cons_self] at here there
          have before := key_le_of_bookingsOn second (here ▸ List.mem_cons_self)
          have behind := key_le_of_bookingsOn first (there ▸ List.mem_cons_self)
          rcases Date.key_injective (le_antisymm behind before) with rfl
          rw [bookingsOn_cons_self] at here
          rcases List.cons.inj here with ⟨rfl, -⟩
          have later := ih (List.pairwise_cons.mp first).2 (List.pairwise_cons.mp second).2 fun wanted => by
            have both := same wanted
            rw [← List.singleton_append, bookingsOn_append, ← List.singleton_append (l := others),
              bookingsOn_append] at both
            exact List.append_cancel_left both
          rw [later]

/-- Merging sorts by date. -/
theorem entries_merge_eq_byDate (chapters : List Chapter) :
    entries (merge chapters) = byDate (entries chapters) := by
  have arranged := arranges_merge chapters
  refine eq_of_ascending arranged.shape.entries_ascending (byDate_ascending _) fun date => ?_
  rw [arranged.onDate, bookingsOn_byDate]

/-! ## Labels -/

theorem labelled_cons (start : Nat) (entry : Date × Booking) (rest : List (Date × Booking)) :
    labelled start (entry :: rest) =
      (entry.1, { entry.2 with label := labelOf start }) :: labelled (start + 1) rest := by
  rw [labelled, List.mapIdx_cons, Nat.add_zero, labelled]
  congr 2
  funext place other
  rw [Nat.add_right_comm, Nat.add_assoc]

theorem labelled_append (start : Nat) (front back : List (Date × Booking)) :
    labelled start (front ++ back) = labelled start front ++ labelled (start + front.length) back := by
  rw [labelled, List.mapIdx_append, labelled, labelled]
  congr 2
  funext place other
  rw [Nat.add_assoc, Nat.add_comm place]

/-- Labelling keeps everything else. -/
theorem exists_of_mem_labelled {start : Nat} {entries : List (Date × Booking)} {entry : Date × Booking}
    (member : entry ∈ labelled start entries) :
    ∃ old ∈ entries, ∃ label, entry = (old.1, { old.2 with label }) := by
  rcases List.mem_mapIdx.mp member with ⟨place, below, rfl⟩
  exact ⟨entries[place], List.getElem_mem below, _, rfl⟩

theorem exists_mem_labelled (start : Nat) {entries : List (Date × Booking)} {entry : Date × Booking}
    (member : entry ∈ entries) : ∃ label, (entry.1, { entry.2 with label }) ∈ labelled start entries := by
  rcases List.getElem_of_mem member with ⟨place, below, rfl⟩
  exact ⟨_, List.mem_mapIdx.mpr ⟨place, below, rfl⟩⟩

theorem labelled_dated (date : Date) (start : Nat) (bookings : List Booking) :
    labelled start (bookings.map fun booking => (date, booking)) =
      (numberBookings start bookings).map fun booking => (date, booking) := by
  induction bookings generalizing start with
  | nil => rfl
  | cons booking rest ih => rw [List.map_cons, labelled_cons, ih, numberBookings, List.map_cons]

/-- Numbering bookings labels them by their places. -/
theorem entries_number (start : Nat) (chapters : List Chapter) :
    entries (number start chapters) = labelled start (entries chapters) := by
  induction chapters generalizing start with
  | nil => rfl
  | cons chapter rest ih =>
      rw [number, entries_cons, entries_cons, ih, labelled_append, labelled_dated, List.length_map]

end Chapter

/-! ## Resolving -/

namespace Booking

/-- Whether a dated booking is a written one resolved, on the day that is as many days off its
chapter as its offset says, with no offset left. -/
structure IsPlaced (registry : Registry) (written placed : Date × Booking) : Prop where
  day : (placed.1.ordinal : Int) = written.1.ordinal + written.2.dateOffset
  resolved : ∃ resolved, written.2.resolve registry = .ok resolved ∧
    placed.2 = { resolved with dateOffset := 0 }

theorem isPlaced_of_onItsDate {registry : Registry} {date : Date} {booking resolved : Booking}
    {chapter : Chapter} (settled : booking.resolve registry = .ok resolved)
    (moved : resolved.onItsDate date = .ok chapter) :
    ∃ placed, chapter = Chapter.single placed ∧ IsPlaced registry (date, booking) placed := by
  have offset := dateOffset_of_resolve settled
  unfold onItsDate at moved
  split at moved
  · rename_i none
    refine ⟨(date, resolved), (Except.ok.inj moved).symm, ?_, resolved, settled, ?_⟩
    · rw [← offset, none, Int.add_zero]
    · rw [← none]
  · split at moved
    · rename_i shifted found
      refine ⟨(shifted, { resolved with dateOffset := 0 }), (Except.ok.inj moved).symm, ?_, resolved,
        settled, rfl⟩
      rw [← offset]
      exact Date.ordinal_of_shift? found
    · cases moved

end Booking

/-- Bookings are resolved and placed one by one, in order. -/
theorem Chapter.resolveEntries_placed {registry : Registry} {written : List (Date × Booking)}
    {chapters : List Chapter} (ok : resolveEntries registry written = .ok chapters) :
    ∃ placed, chapters = placed.map single ∧
      List.Forall₂ (Booking.IsPlaced registry) written placed := by
  induction written generalizing chapters with
  | nil => exact ⟨[], (Except.ok.inj ok).symm, .nil⟩
  | cons entry rest ih =>
      rcases Outcome.bind_eq_ok.mp ok with ⟨resolved, settled, ok⟩
      rcases Outcome.bind_eq_ok.mp ok with ⟨chapter, moved, ok⟩
      rcases Outcome.bind_eq_ok.mp ok with ⟨others, later, ok⟩
      rcases Except.ok.inj ok with rfl
      rcases Booking.isPlaced_of_onItsDate settled moved with ⟨placed, rfl, first⟩
      rcases ih later with ⟨more, rfl, behind⟩
      exact ⟨placed :: more, rfl, .cons first behind⟩

/-! ## Loading -/

namespace Snapshot

/-- Loading resolves and places the bookings that are read, one by one, and sorts them by date. -/
theorem exists_placed {text : Text} {today : Option Date} {strict : Bool} {snapshot : Snapshot}
    (loaded : load text today strict = .ok snapshot) :
    ∃ reading placed, Reading.ofText text today {} strict = .ok reading ∧
      snapshot.registry = reading.registry ∧
      List.Forall₂ (Booking.IsPlaced reading.registry) (Chapter.entries reading.chapters) placed ∧
      Chapter.entries snapshot.chapters = Chapter.labelled 0 (Chapter.byDate placed) := by
  unfold load at loaded
  rcases Outcome.bind_eq_ok.mp loaded with ⟨reading, read, loaded⟩
  rcases Outcome.bind_eq_ok.mp loaded with ⟨chapters, resolved, built⟩
  rcases Chapter.resolveEntries_placed resolved with ⟨placed, rfl, places⟩
  rcases build_eq_ok built with ⟨merged, kept, -⟩
  refine ⟨reading, placed, read, kept, places, ?_⟩
  rw [merged, Chapter.merge_of_inShape ((Chapter.inShape_merge _).number 0), Chapter.entries_number,
    Chapter.entries_merge_eq_byDate, Chapter.entries_map_single]

/-- Whether a ledger lists the bookings of a text by date.  The bookings that are read are those of
the descriptions, in the order of the text.  Each of them is resolved with the final currencies and
placed on its day, and the ledger has what becomes of them by date, with their places as labels. -/
structure ListsByDate (snapshot : Snapshot) (text : Text) (reading : Reading)
    (placed : List (Date × Booking)) : Prop where
  registry : snapshot.registry = reading.registry
  heads : (Chapter.entries reading.chapters).map (·.2.line) =
    (Line.heads (Line.classify (Text.lines text))).map some
  ascending : (Line.heads (Line.classify (Text.lines text))).Pairwise (· < ·)
  places : List.Forall₂ (Booking.IsPlaced reading.registry) (Chapter.entries reading.chapters) placed
  sorted : Chapter.entries snapshot.chapters = Chapter.labelled 0 (Chapter.byDate placed)
  perm : (Chapter.byDate placed).Perm placed
  byDate : (Chapter.byDate placed).Pairwise fun left right => left.1.key ≤ right.1.key
  stable : ∀ date, Chapter.bookingsOn date (Chapter.byDate placed) = Chapter.bookingsOn date placed

/-- Loading is a stable sort: what becomes of the bookings of a text is listed by date, nothing
is lost or doubled, and on each date the order is that of the text. -/
theorem load_sorts {text : Text} {today : Option Date} {strict : Bool} {snapshot : Snapshot}
    (loaded : load text today strict = .ok snapshot) :
    ∃ reading placed, Reading.ofText text today {} strict = .ok reading ∧
      snapshot.ListsByDate text reading placed := by
  rcases exists_placed loaded with ⟨reading, placed, read, kept, places, sorted⟩
  have lines := Reading.heads_of_ofText read
  rw [Reading.bookings, ← Chapter.bookingsOf_eq, Chapter.bookingsOf, List.map_map] at lines
  exact ⟨reading, placed, read, kept, lines, Line.ascending_heads text, places, sorted,
    Chapter.byDate_perm placed, Chapter.byDate_ascending placed,
    fun date => Chapter.bookingsOn_byDate date placed⟩

/-- Three bookings of one day, from a chapter behind it, its own and one before it. -/
def threeWaysText : Text :=
  Text.ofLines ["2024-01-06".toList, "first #[date(-1)]".toList, "    a  $1".toList, "    b".toList,
    "2024-01-05".toList, "second".toList, "    a  $3".toList, "    b".toList, "2023-12-31".toList,
    "third #[date(5)]".toList, "    a  $4".toList, "    b".toList]

theorem load_sorts_threeWays :
    load threeWaysText none false = .ok (loadedFrom threeWaysText false) ∧
      (Chapter.entries (loadedFrom threeWaysText false).chapters).map
          (fun entry => (entry.1.toText, entry.2.description, entry.2.label)) =
        [("2024-01-05".toList, "first".toList, "b0".toList),
          ("2024-01-05".toList, "second".toList, "b1".toList),
          ("2024-01-05".toList, "third".toList, "b2".toList)] ∧
      ∃ reading placed, Reading.ofText threeWaysText none {} false = .ok reading ∧
        (loadedFrom threeWaysText false).ListsByDate threeWaysText reading placed := by
  have loaded : load threeWaysText none false = .ok (loadedFrom threeWaysText false) := by decide +kernel
  exact ⟨loaded, by decide +kernel, load_sorts loaded⟩

end Snapshot
end Daybook
