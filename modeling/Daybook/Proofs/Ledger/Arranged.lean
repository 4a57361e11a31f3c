import Daybook.Proofs.Ledger.Indexed

namespace Daybook

/-!
# Chapters are determined by the bookings that are left

Merging gathers bookings date by date and sorts the dates; adding one booking looks
for the place of its date; removing one may take a whole chapter away, which a later
addition brings back.  That all of them keep one and the same arrangement is said with
a list of dated bookings in the order in which they came: chapters arrange the list
when they are in shape, hold the same bookings, and have those of each date in the
order of the list.  No two lists of chapters arrange one list of bookings, so it does
not matter how an arrangement came about.
-/

open Calendar

namespace Chapter

/-- The bookings of a date, in order. -/
def bookingsOn (date : Date) (entries : List (Date × Booking)) : List Booking :=
  (entries.filter fun entry => entry.1 = date).map (·.2)

/-- A chapter for one booking. -/
def single (entry : Date × Booking) : Chapter := ⟨entry.1, [entry.2]⟩

/-- Whether chapters are in shape and hold dated bookings in the order in which the
bookings of each date came. -/
structure Arranges (chapters : List Chapter) (log : List (Date × Booking)) : Prop where
  shape : InShape chapters
  perm : List.Perm (entries chapters) log
  onDate : ∀ date, bookingsOn date (entries chapters) = bookingsOn date log

theorem entries_map_single (log : List (Date × Booking)) : entries (log.map single) = log := by
  rw [entries, List.flatMap_map]
  exact List.flatMap_singleton' log

/-! ## The bookings of a date -/

theorem bookingsOn_append (date : Date) (front back : List (Date × Booking)) :
    bookingsOn date (front ++ back) = bookingsOn date front ++ bookingsOn date back := by
  rw [bookingsOn, List.filter_append, List.map_append]
  rfl

theorem bookingsOn_single (date wanted : Date) (booking : Booking) :
    bookingsOn wanted [(date, booking)] = if date = wanted then [booking] else [] := by
  by_cases same : date = wanted <;> simp [bookingsOn, same]

theorem bookingsOn_dated (date wanted : Date) (bookings : List Booking) :
    bookingsOn wanted (bookings.map fun booking => (date, booking)) =
      if date = wanted then bookings else [] := by
  by_cases same : date = wanted <;> simp [bookingsOn, same, List.filter_map, Function.comp_def]

theorem bookingsOn_cons (wanted : Date) (chapter : Chapter) (rest : List Chapter) :
    bookingsOn wanted (entries (chapter :: rest)) =
      (if chapter.date = wanted then chapter.bookings else []) ++ bookingsOn wanted (entries rest) := by
  rw [entries_cons, bookingsOn_append, bookingsOn_dated]

/-- Leaving out bookings by their labels leaves them out of every date. -/
theorem bookingsOn_filter (date : Date) (keeps : Booking → Bool) (log : List (Date × Booking)) :
    bookingsOn date (log.filter fun entry => keeps entry.2) = (bookingsOn date log).filter keeps := by
  rw [bookingsOn, bookingsOn, List.filter_map, List.filter_filter, List.filter_filter]
  simp only [Bool.and_comm, Function.comp_def]

/-- No booking is listed under a date before all chapters. -/
theorem bookingsOn_of_before {date : Date} {chapters : List Chapter}
    (before : ∀ chapter ∈ chapters, date.key < chapter.date.key) :
    bookingsOn date (entries chapters) = [] := by
  induction chapters with
  | nil => rfl
  | cons chapter rest ih =>
      have different : chapter.date ≠ date := by
        rintro rfl
        exact Nat.lt_irrefl _ (before chapter List.mem_cons_self)
      rw [bookingsOn_cons, if_neg different, List.nil_append]
      exact ih fun other member => before other (List.mem_cons_of_mem _ member)

/-- The chapter of a date holds all bookings of that date. -/
theorem InShape.bookingsOn_first {chapter : Chapter} {rest : List Chapter}
    (shape : InShape (chapter :: rest)) :
    bookingsOn chapter.date (entries (chapter :: rest)) = chapter.bookings := by
  rw [bookingsOn_cons, if_pos rfl, bookingsOn_of_before shape.before, List.append_nil]

/-! ## Chapters are known by their dates -/

/-- Of two lists of chapters with the same bookings on every date, neither begins
earlier than the other. -/
theorem InShape.not_before {chapter other : Chapter} {rest others : List Chapter}
    (left : InShape (chapter :: rest)) (right : InShape (other :: others))
    (same : ∀ date, bookingsOn date (entries (chapter :: rest)) =
      bookingsOn date (entries (other :: others))) : ¬ chapter.date.key < other.date.key := by
  intro earlier
  have absent : bookingsOn chapter.date (entries (other :: others)) = [] := by
    apply bookingsOn_of_before
    intro found member
    rcases List.mem_cons.mp member with rfl | inside
    · exact earlier
    · exact Nat.lt_trans earlier (right.before found inside)
  rw [← same, left.bookingsOn_first] at absent
  exact left.nonempty chapter List.mem_cons_self absent

/-- Chapters in shape are determined by the bookings of every date. -/
theorem InShape.eq_of_bookingsOn {left right : List Chapter} (first : InShape left)
    (second : InShape right)
    (same : ∀ date, bookingsOn date (entries left) = bookingsOn date (entries right)) :
    left = right := by
  induction left generalizing right with
  | nil =>
      cases right with
      | nil => rfl
      | cons other others =>
          have nothing := same other.date
          rw [second.bookingsOn_first] at nothing
          exact absurd nothing.symm (second.nonempty other List.mem_cons_self)
  | cons chapter rest ih =>
      cases right with
      | nil =>
          have nothing := same chapter.date
          rw [first.bookingsOn_first] at nothing
          exact absurd nothing (first.nonempty chapter List.mem_cons_self)
      | cons other others =>
          have date : chapter.date = other.date := Date.key_injective (Nat.le_antisymm
            (Nat.not_lt.mp (second.not_before first fun date => (same date).symm))
            (Nat.not_lt.mp (first.not_before second same)))
          have bookings : chapter.bookings = other.bookings := by
            rw [← first.bookingsOn_first, same, date, second.bookingsOn_first]
          have later : rest = others := by
            apply ih first.tail second.tail
            intro wanted
            have both := same wanted
            rw [bookingsOn_cons, bookingsOn_cons, date, bookings] at both
            exact List.append_cancel_left both
          rcases chapter with ⟨_, _⟩
          rcases other with ⟨_, _⟩
          cases date
          cases bookings
          rw [later]

/-- No two lists of chapters arrange the same bookings. -/
theorem Arranges.unique {left right : List Chapter} {log : List (Date × Booking)}
    (first : Arranges left log) (second : Arranges right log) : left = right :=
  first.shape.eq_of_bookingsOn second.shape fun date =>
    (first.onDate date).trans (second.onDate date).symm

/-! ## Merging -/

/-- Among distinct dates, what is gathered for a date are its bookings. -/
theorem bookingsOn_gatheredEntries {gathered : Table Date (List Booking)}
    (distinct : gathered.keys.Nodup) (date : Date) :
    bookingsOn date (gatheredEntries gathered) = (gathered.get? date).getD [] := by
  induction gathered with
  | nil => rfl
  | cons entry rest ih =>
      rcases entry with ⟨known, bookings⟩
      have parts := List.nodup_cons.mp distinct
      rw [gatheredEntries_cons, bookingsOn_append, bookingsOn_dated, ih parts.2, Table.get?]
      by_cases same : known = date
      · have absent : Table.get? rest date = none :=
          (Table.get?_eq_none_iff rest date).mpr (same ▸ parts.1)
        rw [if_pos same, if_pos same, absent, Option.getD_none, List.append_nil, Option.getD_some]
      · rw [if_neg same, if_neg same, List.nil_append]

/-- Gathering chapters adds their bookings to every date. -/
theorem getD_foldl_gather (chapters : List Chapter) (gathered : Table Date (List Booking))
    (date : Date) :
    ((chapters.foldl gather gathered).get? date).getD [] =
      (gathered.get? date).getD [] ++ bookingsOn date (entries chapters) := by
  induction chapters generalizing gathered with
  | nil => exact (List.append_nil _).symm
  | cons chapter rest ih =>
      rw [List.foldl_cons, ih, gather, Table.get?_put, bookingsOn_cons, ← List.append_assoc]
      by_cases same : chapter.date = date
      · rw [if_pos same, if_pos same, same, Option.getD_some]
      · rw [if_neg same, if_neg same, List.append_nil]

/-- The entries of a table do not depend on its order, date by date. -/
theorem bookingsOn_gatheredEntries_perm {gathered arranged : Table Date (List Booking)}
    (distinct : gathered.keys.Nodup) (same : List.Perm arranged gathered) (date : Date) :
    bookingsOn date (gatheredEntries arranged) = bookingsOn date (gatheredEntries gathered) := by
  have apart : arranged.keys.Nodup := (same.map _).nodup_iff.mpr distinct
  rw [bookingsOn_gatheredEntries apart, bookingsOn_gatheredEntries distinct]
  congr 1
  apply Option.ext
  intro bookings
  rw [Table.get?_eq_some_iff apart, Table.get?_eq_some_iff distinct, same.mem_iff]

theorem bookingsOn_merge (chapters : List Chapter) (date : Date) :
    bookingsOn date (entries (merge chapters)) = bookingsOn date (entries chapters) := by
  have distinct : (Table.keys (chapters.foldl gather [])).Nodup :=
    nodup_keys_foldl_gather chapters List.nodup_nil
  have kept : (Table.keys ((chapters.foldl gather []).filter fun entry => !entry.2.isEmpty)).Nodup :=
    distinct.sublist (List.filter_sublist.map _)
  rw [merge, entries_map, bookingsOn_gatheredEntries_perm kept (List.mergeSort_perm _ _),
    gatheredEntries_filter, bookingsOn_gatheredEntries distinct, getD_foldl_gather]
  rfl

/-- Merged chapters arrange the bookings in the order of the chapters that were merged. -/
theorem arranges_merge (chapters : List Chapter) : Arranges (merge chapters) (entries chapters) :=
  ⟨inShape_merge chapters, entries_merge chapters, bookingsOn_merge chapters⟩

/-! ## Adding and removing -/

/-- A booking that is inserted becomes the last of its date. -/
theorem InShape.bookingsOn_insert {chapters : List Chapter} (shape : InShape chapters) (date : Date)
    (booking : Booking) (wanted : Date) :
    bookingsOn wanted (entries (Chapter.insert date booking chapters)) =
      bookingsOn wanted (entries chapters) ++ bookingsOn wanted [(date, booking)] := by
  rw [bookingsOn_single]
  induction chapters with
  | nil => rw [Chapter.insert, bookingsOn_cons]; exact List.append_nil _
  | cons chapter rest ih =>
      rw [Chapter.insert]
      split
      · rename_i same
        rw [bookingsOn_cons, bookingsOn_cons, same]
        by_cases here : date = wanted
        · have later : bookingsOn wanted (entries rest) = [] :=
            bookingsOn_of_before fun other member => here ▸ same ▸ shape.before other member
          rw [if_pos here, if_pos here, later, List.append_nil, List.append_nil, if_pos here]
        · rw [if_neg here, if_neg here, if_neg here, List.append_nil]
      · split
        · rename_i _ earlier
          rw [bookingsOn_cons]
          by_cases here : date = wanted
          · have absent : bookingsOn wanted (entries (chapter :: rest)) = [] := by
              apply bookingsOn_of_before
              rw [Date.isBefore_iff, here] at earlier
              intro other member
              rcases List.mem_cons.mp member with rfl | inside
              · exact earlier
              · exact Nat.lt_trans earlier (shape.before other inside)
            rw [absent, List.append_nil, List.nil_append]
          · rw [if_neg here, List.append_nil, List.nil_append]
        · rw [bookingsOn_cons, bookingsOn_cons, ih shape.tail, List.append_assoc]

theorem Arranges.insert {chapters : List Chapter} {log : List (Date × Booking)}
    (arranges : Arranges chapters log) (date : Date) (booking : Booking) :
    Arranges (Chapter.insert date booking chapters) (log ++ [(date, booking)]) := by
  refine ⟨arranges.shape.insert date booking, ?_, ?_⟩
  · rcases entries_insert date booking chapters with ⟨front, back, before, after⟩
    rw [after]
    refine List.perm_middle.trans ?_
    rw [← before]
    exact (arranges.perm.cons _).trans (List.perm_append_singleton _ _).symm
  · intro wanted
    rw [arranges.shape.bookingsOn_insert, bookingsOn_append, arranges.onDate]

/-- As long as labels are distinct, removing takes out the booking with the label. -/
theorem Arranges.remove {chapters : List Chapter} {log : List (Date × Booking)}
    (arranges : Arranges chapters log) (distinct : (log.map (·.2.label)).Nodup) (label : Text) :
    Arranges (Chapter.remove label chapters) (log.filter fun entry => entry.2.label != label) := by
  have labels : (labelsOf chapters).Nodup := ((arranges.perm.map _).nodup_iff).mpr distinct
  have left := entries_remove_eq_filter labels label
  refine ⟨arranges.shape.remove label, ?_, ?_⟩
  · rw [left]
    exact arranges.perm.filter _
  · intro date
    rw [left, bookingsOn_filter date (·.label != label), bookingsOn_filter date (·.label != label),
      arranges.onDate]

end Chapter

/-! ## Runs of additions and removals -/

/-- A change to the bookings of a ledger: a booking is added on a date, or the one with a label
removed. -/
inductive Edit where
  | add (date : Date) (booking : Booking)
  | remove (label : Text)

namespace Edit

def apply (snapshot : Snapshot) : Edit → Outcome Snapshot
  | .add date booking => snapshot.add date booking
  | .remove label => (snapshot.remove label).map (·.2)

/-- Carries out edits in order; the first that fails ends it. -/
def applyAll : Snapshot → List Edit → Outcome Snapshot
  | snapshot, [] => .ok snapshot
  | snapshot, edit :: rest => do applyAll (← edit.apply snapshot) rest

/-- What an edit makes of the bookings that are there, listed as they came. -/
def record (log : List (Date × Booking)) : Edit → List (Date × Booking)
  | .add date booking => log ++ [(date, booking)]
  | .remove label => log.filter fun entry => entry.2.label != label

/-- The bookings that are left after edits, listed as they came. -/
def surviving (log : List (Date × Booking)) (edits : List Edit) : List (Date × Booking) :=
  edits.foldl record log

/-- The chapters arrange what is left after one edit. -/
theorem arranges_apply {snapshot after : Snapshot} {log : List (Date × Booking)}
    (arranges : Chapter.Arranges snapshot.chapters log) (distinct : (log.map (·.2.label)).Nodup)
    {edit : Edit} (ok : edit.apply snapshot = .ok after) :
    Chapter.Arranges after.chapters (record log edit) := by
  cases edit with
  | add date booking =>
      rcases Snapshot.add_eq_ok ok with ⟨-, -, -, committed⟩
      rcases Snapshot.commit_eq_ok committed with ⟨balances, usage, contacts, -, -, rfl⟩
      exact arranges.insert date booking
  | remove label =>
      rcases Outcome.map_eq_ok.mp ok with ⟨⟨booking, _⟩, removed, rfl⟩
      rcases Snapshot.remove_eq_ok removed with ⟨date, -, committed⟩
      rcases Snapshot.commit_eq_ok committed with ⟨balances, usage, contacts, -, -, rfl⟩
      exact arranges.remove distinct label

/-- The chapters arrange what is left after a run of edits. -/
theorem arranges_applyAll {snapshot after : Snapshot} {log : List (Date × Booking)} {edits : List Edit}
    (arranges : Chapter.Arranges snapshot.chapters log)
    (distinct : ∀ first, first <+: edits → ((surviving log first).map (·.2.label)).Nodup)
    (ok : applyAll snapshot edits = .ok after) :
    Chapter.Arranges after.chapters (surviving log edits) := by
  induction edits generalizing snapshot log with
  | nil =>
      rcases Except.ok.inj ok with rfl
      exact arranges
  | cons edit rest ih =>
      rcases Outcome.bind_eq_ok.mp ok with ⟨next, applied, ok⟩
      refine ih (arranges_apply arranges (distinct [] List.nil_prefix) applied) ?_ ok
      intro first part
      exact distinct (edit :: first) (List.cons_prefix_cons.mpr ⟨rfl, part⟩)

/-- A ledger that is built from chapters and then takes bookings in and out, always with
distinct labels, has the chapters that merging makes of the bookings left, listed as
they came: those of the chapters first, the others in the order of their addition.
Hence its dates ascend, no chapter is empty, no booking is lost or doubled, and on each
date the bookings stand in the order in which they came. -/
theorem chapters_eq_merge_surviving {chapters : List Chapter} {registry : Registry}
    {opened : List Account} {start final : Snapshot} {edits : List Edit}
    (built : Snapshot.build chapters registry opened = .ok start)
    (distinct : ∀ first, first <+: edits →
      ((surviving (Chapter.entries chapters) first).map (·.2.label)).Nodup)
    (ok : applyAll start edits = .ok final) :
    let left := surviving (Chapter.entries chapters) edits
    final.chapters = Chapter.merge (left.map Chapter.single) ∧
      Chapter.InShape final.chapters ∧
      (Chapter.entries final.chapters).Perm left ∧
      ∀ date, Chapter.bookingsOn date (Chapter.entries final.chapters) =
        Chapter.bookingsOn date left := by
  have first : Chapter.Arranges start.chapters (Chapter.entries chapters) := by
    rw [(Snapshot.build_eq_ok built).1]
    exact Chapter.arranges_merge chapters
  have last := arranges_applyAll first distinct ok
  have merged := Chapter.arranges_merge
    ((surviving (Chapter.entries chapters) edits).map Chapter.single)
  rw [Chapter.entries_map_single] at merged
  exact ⟨last.unique merged, last.shape, last.perm, last.onDate⟩

/-! ## A run -/

/-- A booking that moves an amount from one account to another. -/
def errand (label : Char) : Booking where
  description := "errand".toList
  postings := [
    { account := ⟨"a".toList⟩, money := some ⟨"X".toList, ⟨false, 3, 0⟩⟩ },
    { account := ⟨"@b/c".toList⟩, money := some ⟨"X".toList, ⟨true, 3, 0⟩⟩ }]
  label := [label]

/-- Chapters with one date in two of them, and an empty one. -/
def scattered : List Chapter :=
  [⟨⟨2024, 2, 3, by decide⟩, [errand 'p']⟩, ⟨⟨2024, 2, 2, by decide⟩, []⟩,
    ⟨⟨2024, 2, 3, by decide⟩, [errand 'r']⟩]

/-- Edits that take a chapter away, bring it back with a booking that was removed, and
add bookings on earlier and earlier dates. -/
def errands : List Edit :=
  [.remove ['p'], .add ⟨2024, 2, 1, by decide⟩ (errand 's'), .remove ['r'],
    .add ⟨2024, 2, 3, by decide⟩ (errand 'p'), .add ⟨2024, 1, 31, by decide⟩ (errand 'q')]

/-- The ledger of the scattered chapters after the edits. -/
def afterErrands : Outcome Snapshot :=
  Snapshot.build scattered {} [] >>= fun start => applyAll start errands

/-- The dates of chapters with the labels of their bookings. -/
def outline (chapters : List Chapter) : List (Text × List Text) :=
  chapters.map fun chapter => (chapter.date.toText, chapter.bookings.map (·.label))

theorem chapters_afterErrands :
    ∃ start final, Snapshot.build scattered {} [] = .ok start ∧ applyAll start errands = .ok final ∧
      (∀ first, first <+: errands →
        ((surviving (Chapter.entries scattered) first).map (·.2.label)).Nodup) ∧
      outline final.chapters = [("2024-01-31".toList, [['q']]), ("2024-02-01".toList, [['s']]),
        ("2024-02-03".toList, [['p']])] ∧
      final.chapters =
        Chapter.merge ((surviving (Chapter.entries scattered) errands).map Chapter.single) := by
  have shown : afterErrands.map (fun final => outline final.chapters) =
      .ok [("2024-01-31".toList, [['q']]), ("2024-02-01".toList, [['s']]),
        ("2024-02-03".toList, [['p']])] := by
    decide +kernel
  have distinct : ∀ first, first <+: errands →
      ((surviving (Chapter.entries scattered) first).map (·.2.label)).Nodup := by
    simp only [← List.mem_inits]
    decide +kernel
  rcases Outcome.map_eq_ok.mp shown with ⟨final, ok, outlined⟩
  rcases Outcome.bind_eq_ok.mp ok with ⟨start, built, applied⟩
  exact ⟨start, final, built, applied, distinct, outlined,
    (chapters_eq_merge_surviving built distinct applied).1⟩

end Edit
end Daybook
