import Daybook.Ledger.Chapters
import Daybook.Proofs.Calendar.Order
import Daybook.Proofs.Table
import Mathlib.Data.List.Perm.Basic
import Mathlib.Data.List.Nodup
import Mathlib.Data.List.Pairwise

namespace Daybook
namespace Chapter

/-!
# The shape of the chapters of a ledger

Chapters are in shape when their dates ascend strictly and none of them is
empty.  Merging brings any chapters into shape and leaves those in shape alone;
inserting and removing one booking keep the shape.  What happens to the entries
is said without chapters: merging rearranges them, inserting puts one in
somewhere, removing takes it out again.
-/

open Calendar

/-- Whether chapters ascend strictly in date and none of them is empty. -/
structure InShape (chapters : List Chapter) : Prop where
  ascending : chapters.Pairwise fun left right => left.date.key < right.date.key
  nonempty : ∀ chapter ∈ chapters, chapter.bookings ≠ []

/-- The bookings of chapters, in order. -/
def bookingsOf (chapters : List Chapter) : List Booking :=
  (entries chapters).map (·.2)

/-- The labels of the bookings of chapters, in order. -/
def labelsOf (chapters : List Chapter) : List Text :=
  (entries chapters).map (·.2.label)

theorem entries_cons (chapter : Chapter) (rest : List Chapter) :
    entries (chapter :: rest) =
      (chapter.bookings.map fun booking => (chapter.date, booking)) ++ entries rest :=
  List.flatMap_cons

theorem bookingsOf_eq (chapters : List Chapter) :
    bookingsOf chapters = chapters.flatMap (·.bookings) := by
  simp [bookingsOf, entries, List.map_flatMap, Function.comp_def]

theorem labelsOf_eq (chapters : List Chapter) :
    labelsOf chapters = (bookingsOf chapters).map (·.label) := by
  simp [labelsOf, bookingsOf]

namespace InShape

variable {chapter : Chapter} {rest : List Chapter}

theorem nil : InShape [] := ⟨List.Pairwise.nil, by simp⟩

theorem tail (shape : InShape (chapter :: rest)) : InShape rest :=
  ⟨(List.pairwise_cons.mp shape.ascending).2,
    fun other member => shape.nonempty other (List.mem_cons_of_mem _ member)⟩

theorem cons (shape : InShape rest) (filled : chapter.bookings ≠ [])
    (first : ∀ other ∈ rest, chapter.date.key < other.date.key) : InShape (chapter :: rest) := by
  refine ⟨List.pairwise_cons.mpr ⟨first, shape.ascending⟩, ?_⟩
  intro other member
  rcases List.mem_cons.mp member with rfl | inside
  · exact filled
  · exact shape.nonempty other inside

theorem before (shape : InShape (chapter :: rest)) :
    ∀ other ∈ rest, chapter.date.key < other.date.key :=
  (List.pairwise_cons.mp shape.ascending).1

end InShape

/-- The entries of chapters in shape come in the order of their dates. -/
theorem InShape.entries_ascending {chapters : List Chapter} (shape : InShape chapters) :
    (entries chapters).Pairwise fun left right => left.1.key ≤ right.1.key := by
  induction chapters with
  | nil => exact List.Pairwise.nil
  | cons chapter rest ih =>
      rw [entries_cons, List.pairwise_append]
      refine ⟨List.pairwise_map.mpr (List.pairwise_of_forall fun _ _ => Nat.le_refl _), ih shape.tail, ?_⟩
      intro left inside right later
      rcases List.mem_map.mp inside with ⟨booking, -, rfl⟩
      rcases List.mem_flatMap.mp later with ⟨other, member, among⟩
      rcases List.mem_map.mp among with ⟨booking', -, rfl⟩
      exact Nat.le_of_lt (shape.before other member)

/-! ## Inserting -/

theorem mem_insert_key {date : Date} {booking : Booking} {chapters : List Chapter} {other : Chapter}
    (member : other ∈ insert date booking chapters) :
    other.date = date ∨ ∃ chapter ∈ chapters, chapter.date = other.date := by
  induction chapters with
  | nil =>
      rw [insert, List.mem_singleton] at member
      exact Or.inl (member ▸ rfl)
  | cons chapter rest ih =>
      rw [insert] at member
      split at member
      · rcases List.mem_cons.mp member with rfl | inside
        · exact Or.inr ⟨chapter, List.mem_cons_self, rfl⟩
        · exact Or.inr ⟨other, List.mem_cons_of_mem _ inside, rfl⟩
      · split at member
        · rcases List.mem_cons.mp member with rfl | inside
          · exact Or.inl rfl
          · exact Or.inr ⟨other, inside, rfl⟩
        · rcases List.mem_cons.mp member with rfl | inside
          · exact Or.inr ⟨other, List.mem_cons_self, rfl⟩
          · rcases ih inside with equal | ⟨found, among, equal⟩
            · exact Or.inl equal
            · exact Or.inr ⟨found, List.mem_cons_of_mem _ among, equal⟩

theorem InShape.insert {chapters : List Chapter} (shape : InShape chapters) (date : Date)
    (booking : Booking) : InShape (insert date booking chapters) := by
  induction chapters with
  | nil => exact InShape.nil.cons (by simp) (by simp)
  | cons chapter rest ih =>
      rw [Chapter.insert]
      split
      · exact shape.tail.cons (by simp) shape.before
      · rename_i different
        split
        · rename_i earlier
          rw [Date.isBefore_iff] at earlier
          refine shape.cons (by simp) ?_
          intro other member
          rcases List.mem_cons.mp member with rfl | inside
          · exact earlier
          · exact Nat.lt_trans earlier (shape.before other inside)
        · rename_i later
          rw [Date.isBefore_iff] at later
          have after : chapter.date.key < date.key :=
            Nat.lt_of_le_of_ne (Nat.not_lt.mp later) fun same => different (Date.key_injective same)
          refine (ih shape.tail).cons (shape.nonempty chapter List.mem_cons_self) ?_
          intro other member
          rcases mem_insert_key member with equal | ⟨found, inside, equal⟩
          · exact equal ▸ after
          · exact equal ▸ shape.before found inside

/-- Inserting puts one entry in and leaves the others where they are. -/
theorem entries_insert (date : Date) (booking : Booking) (chapters : List Chapter) :
    ∃ front back, entries chapters = front ++ back ∧
      entries (insert date booking chapters) = front ++ (date, booking) :: back := by
  induction chapters with
  | nil => exact ⟨[], [], rfl, rfl⟩
  | cons chapter rest ih =>
      rw [insert]
      split
      · rename_i same
        refine ⟨chapter.bookings.map fun known => (chapter.date, known), entries rest,
          entries_cons chapter rest, ?_⟩
        rw [entries_cons]
        simp [same]
      · split
        · exact ⟨[], entries (chapter :: rest), rfl, rfl⟩
        · rcases ih with ⟨front, back, before, after⟩
          refine ⟨(chapter.bookings.map fun known => (chapter.date, known)) ++ front, back, ?_, ?_⟩
          · rw [entries_cons, before, List.append_assoc]
          · rw [entries_cons, after, List.append_assoc]

/-! ## Removing -/

theorem mem_remove_key {label : Text} {chapters : List Chapter} {other : Chapter}
    (member : other ∈ remove label chapters) : ∃ chapter ∈ chapters, chapter.date = other.date := by
  induction chapters with
  | nil => cases member
  | cons chapter rest ih =>
      rw [remove] at member
      split at member
      · split at member
        · exact ⟨other, List.mem_cons_of_mem _ member, rfl⟩
        · rcases List.mem_cons.mp member with rfl | inside
          · exact ⟨chapter, List.mem_cons_self, rfl⟩
          · exact ⟨other, List.mem_cons_of_mem _ inside, rfl⟩
      · rcases List.mem_cons.mp member with rfl | inside
        · exact ⟨other, List.mem_cons_self, rfl⟩
        · rcases ih inside with ⟨found, among, equal⟩
          exact ⟨found, List.mem_cons_of_mem _ among, equal⟩

theorem InShape.remove {chapters : List Chapter} (shape : InShape chapters) (label : Text) :
    InShape (remove label chapters) := by
  induction chapters with
  | nil => exact InShape.nil
  | cons chapter rest ih =>
      rw [Chapter.remove]
      split
      · split
        · exact shape.tail
        · rename_i remaining filled
          exact shape.tail.cons (by simpa using filled) shape.before
      · refine (ih shape.tail).cons (shape.nonempty chapter List.mem_cons_self) ?_
        intro other member
        rcases mem_remove_key member with ⟨found, inside, equal⟩
        exact equal ▸ shape.before found inside

/-- Removing from one chapter, which may go with its last booking. -/
theorem entries_remaining (date : Date) (remaining : List Booking) (rest : List Chapter) :
    entries (match remaining with
      | [] => rest
      | kept => ⟨date, kept⟩ :: rest) =
      (remaining.map fun booking => (date, booking)) ++ entries rest := by
  cases remaining with
  | nil => rfl
  | cons booking more => exact entries_cons _ _

/-- Removing adds no entry. -/
theorem entries_remove_sublist (label : Text) (chapters : List Chapter) :
    (entries (remove label chapters)).Sublist (entries chapters) := by
  induction chapters with
  | nil => exact List.Sublist.refl _
  | cons chapter rest ih =>
      rw [remove, entries_cons]
      split
      · have part := ((@List.filter_sublist _ (fun booking => booking.label != label) chapter.bookings).map
          fun booking => (chapter.date, booking)).append (List.Sublist.refl (entries rest))
        rwa [← entries_remaining] at part
      · rw [entries_cons]
        exact (List.Sublist.refl _).append ih

/-- Removing takes out at least the entry that is found. -/
theorem entries_remove_found {label : Text} {chapters : List Chapter} {date : Date} {booking : Booking}
    (found : find? label chapters = some (date, booking)) :
    ∃ front back, entries chapters = front ++ (date, booking) :: back ∧
      (entries (remove label chapters)).Sublist (front ++ back) := by
  induction chapters with
  | nil => cases found
  | cons chapter rest ih =>
      rw [find?, entries_cons, List.find?_append, List.find?_map] at found
      rw [remove]
      cases inside : chapter.bookings.find? fun booking => booking.label == label with
      | some first =>
          rw [Function.comp_def, inside] at found
          rcases Prod.mk.inj (Option.some.inj found) with ⟨rfl, rfl⟩
          rcases List.find?_eq_some_iff_append.mp inside with ⟨same, front, back, shape, -⟩
          have present : (chapter.bookings.any fun booking => booking.label == label) = true :=
            List.any_eq_true.mpr ⟨first, List.mem_of_find?_eq_some inside, same⟩
          refine ⟨front.map fun booking => (chapter.date, booking),
            (back.map fun booking => (chapter.date, booking)) ++ entries rest, ?_, ?_⟩
          · rw [entries_cons, shape, List.map_append, List.map_cons, List.append_assoc, List.cons_append]
          · have gone : ((first :: back).filter fun booking => booking.label != label) =
                back.filter fun booking => booking.label != label :=
              List.filter_cons_of_neg (by rw [bne, same]; exact Bool.false_ne_true)
            have kept : (chapter.bookings.filter fun booking => booking.label != label).Sublist
                (front ++ back) := by
              rw [shape, List.filter_append, gone, ← List.filter_append]
              exact List.filter_sublist
            have part := (kept.map fun booking => (chapter.date, booking)).append
              (List.Sublist.refl (entries rest))
            rw [← entries_remaining, List.map_append, List.append_assoc] at part
            rwa [if_pos present]
      | none =>
          rw [Function.comp_def, inside] at found
          have absent : ¬ (chapter.bookings.any fun booking => booking.label == label) = true := by
            rw [List.any_eq_true]
            rintro ⟨other, member, same⟩
            exact List.find?_eq_none.mp inside other member same
          rcases ih found with ⟨front, back, shape, part⟩
          refine ⟨(chapter.bookings.map fun booking => (chapter.date, booking)) ++ front, back, ?_, ?_⟩
          · rw [entries_cons, shape, List.append_assoc]
          · rw [if_neg absent, entries_cons, List.append_assoc]
            exact part.append_left _

/-- With distinct labels, removing keeps the entries with other labels. -/
theorem entries_remove_eq_filter {chapters : List Chapter} (distinct : (labelsOf chapters).Nodup)
    (label : Text) :
    entries (remove label chapters) = (entries chapters).filter fun entry => entry.2.label != label := by
  induction chapters with
  | nil => rfl
  | cons chapter rest ih =>
      have parts : ((chapter.bookings.map (·.label)) ++ labelsOf rest).Nodup := by
        simpa [labelsOf, entries_cons, Function.comp_def] using distinct
      rw [entries_cons, List.filter_append, List.filter_map, remove]
      split
      · rename_i present
        rcases List.any_eq_true.mp present with ⟨booking, member, equal⟩
        have absent : ∀ entry ∈ entries rest, (entry.2.label != label) = true := by
          intro entry inside
          rw [bne_iff_ne]
          intro same
          refine (List.nodup_append.mp parts).2.2 booking.label (List.mem_map_of_mem member)
            entry.2.label (List.mem_map_of_mem (f := fun entry => entry.2.label) inside) ?_
          rw [same]
          exact eq_of_beq equal
        rw [List.filter_eq_self.mpr absent]
        exact entries_remaining chapter.date _ rest
      · rename_i absent
        have others : ∀ booking ∈ chapter.bookings, (booking.label != label) = true := by
          intro booking member
          rw [bne_iff_ne]
          intro same
          exact absent (List.any_eq_true.mpr ⟨booking, member, beq_iff_eq.mpr same⟩)
        rw [entries_cons, ih (List.nodup_append.mp parts).2.1]
        congr 2
        exact (List.filter_eq_self.mpr others).symm

/-- With distinct labels, removing takes out the entry with the label and leaves
the others where they are. -/
theorem entries_remove {label : Text} {chapters : List Chapter} {date : Date} {booking : Booking}
    (distinct : (labelsOf chapters).Nodup) (found : find? label chapters = some (date, booking)) :
    ∃ front back, entries chapters = front ++ (date, booking) :: back ∧
      entries (remove label chapters) = front ++ back := by
  rcases List.find?_eq_some_iff_append.mp found with ⟨equal, front, back, shape, different⟩
  refine ⟨front, back, shape, ?_⟩
  have labels : (front.map (·.2.label) ++ booking.label :: back.map (·.2.label)).Nodup := by
    simpa [labelsOf, shape] using distinct
  have behind : ∀ entry ∈ back, (entry.2.label != label) = true := by
    intro entry member
    rw [bne_iff_ne]
    intro same
    apply (List.nodup_cons.mp (List.nodup_append.mp labels).2.1).1
    rw [eq_of_beq equal, ← same]
    exact List.mem_map_of_mem (f := fun entry => entry.2.label) member
  rw [entries_remove_eq_filter distinct, shape, List.filter_append, List.filter_cons,
    List.filter_eq_self.mpr behind, List.filter_eq_self.mpr]
  · simpa using eq_of_beq equal
  · intro entry member
    have := different entry member
    simpa using this

/-! ## Merging -/

def gatheredEntries (gathered : Table Date (List Booking)) : List (Date × Booking) :=
  gathered.flatMap fun entry => entry.2.map fun booking => (entry.1, booking)

theorem gatheredEntries_cons (date : Date) (bookings : List Booking)
    (rest : Table Date (List Booking)) :
    gatheredEntries ((date, bookings) :: rest) =
      (bookings.map fun booking => (date, booking)) ++ gatheredEntries rest :=
  List.flatMap_cons

/-- Gathering a chapter adds its entries. -/
theorem gatheredEntries_gather (gathered : Table Date (List Booking)) (chapter : Chapter) :
    List.Perm (gatheredEntries (gather gathered chapter))
      (gatheredEntries gathered ++ chapter.bookings.map fun booking => (chapter.date, booking)) := by
  unfold gather
  induction gathered with
  | nil => simp [Table.put, Table.get?, gatheredEntries]
  | cons entry rest ih =>
      rcases entry with ⟨known, old⟩
      by_cases same : known = chapter.date
      · subst same
        rw [Table.get?, if_pos rfl, Table.put, if_pos rfl, gatheredEntries_cons, gatheredEntries_cons]
        simp only [Option.getD_some, List.map_append, List.append_assoc]
        exact List.perm_append_comm.append_left _
      · rw [Table.get?, if_neg same, Table.put, if_neg same, gatheredEntries_cons,
          gatheredEntries_cons, List.append_assoc]
        exact ih.append_left _

theorem gatheredEntries_foldl (chapters : List Chapter) (gathered : Table Date (List Booking)) :
    List.Perm (gatheredEntries (chapters.foldl gather gathered))
      (gatheredEntries gathered ++ entries chapters) := by
  induction chapters generalizing gathered with
  | nil => simp [entries]
  | cons chapter rest ih =>
      rw [List.foldl_cons, entries_cons, ← List.append_assoc]
      exact (ih _).trans ((gatheredEntries_gather gathered chapter).append_right _)

theorem nodup_keys_foldl_gather (chapters : List Chapter) {gathered : Table Date (List Booking)}
    (distinct : gathered.keys.Nodup) : (Table.keys (chapters.foldl gather gathered)).Nodup := by
  induction chapters generalizing gathered with
  | nil => exact distinct
  | cons chapter rest ih => exact ih (Table.nodup_keys_put distinct _ _)

/-- Dates without bookings have no entries. -/
theorem gatheredEntries_filter (gathered : Table Date (List Booking)) :
    gatheredEntries (gathered.filter fun entry => !entry.2.isEmpty) = gatheredEntries gathered := by
  induction gathered with
  | nil => rfl
  | cons entry rest ih =>
      rcases entry with ⟨date, bookings⟩
      cases bookings with
      | nil => simpa [gatheredEntries_cons] using ih
      | cons booking more =>
          rw [List.filter_cons_of_pos (by simp), gatheredEntries_cons, gatheredEntries_cons, ih]

theorem entries_map (gathered : Table Date (List Booking)) :
    entries (gathered.map fun entry => ⟨entry.1, entry.2⟩) = gatheredEntries gathered := by
  simp [entries, gatheredEntries, List.flatMap_map]

/-- Merging rearranges the entries. -/
theorem entries_merge (chapters : List Chapter) : List.Perm (entries (merge chapters)) (entries chapters) := by
  rw [merge, entries_map]
  refine ((List.mergeSort_perm _ _).flatMap_right _).trans ?_
  refine (List.Perm.of_eq (gatheredEntries_filter _)).trans ?_
  exact gatheredEntries_foldl chapters []

/-- Merged chapters are in shape. -/
theorem inShape_merge (chapters : List Chapter) : InShape (merge chapters) := by
  have distinct : (Table.keys (chapters.foldl gather [])).Nodup :=
    nodup_keys_foldl_gather chapters List.nodup_nil
  have transitive : ∀ a b c : Date × List Booking, a.1.notAfter b.1 = true → b.1.notAfter c.1 = true →
      a.1.notAfter c.1 = true := by
    intro a b c first second
    rw [Date.notAfter_iff] at *
    exact Nat.le_trans first second
  have total : ∀ a b : Date × List Booking, (a.1.notAfter b.1 || b.1.notAfter a.1) = true := by
    intro a b
    rw [Bool.or_eq_true, Date.notAfter_iff, Date.notAfter_iff]
    exact Nat.le_total _ _
  unfold merge
  set kept := (chapters.foldl gather []).filter fun entry => !entry.2.isEmpty
  have sorted := List.pairwise_mergeSort transitive total kept
  have different : ((kept.mergeSort fun left right => left.1.notAfter right.1).map (·.1)).Nodup := by
    refine ((List.mergeSort_perm _ _).map _).nodup_iff.mpr ?_
    exact distinct.sublist (List.filter_sublist.map _)
  refine ⟨List.pairwise_map.mpr ?_, ?_⟩
  · refine (sorted.and (List.pairwise_map.mp different)).imp ?_
    rintro left right ⟨order, apart⟩
    rw [Date.notAfter_iff] at order
    exact Nat.lt_of_le_of_ne order fun same => apart (Date.key_injective same)
  · intro chapter member
    rcases List.mem_map.mp member with ⟨entry, inside, rfl⟩
    simpa using (List.mem_filter.mp (List.mem_mergeSort.mp inside)).2

/-- Chapters in shape are gathered one by one. -/
theorem foldl_gather_of_inShape {chapters : List Chapter} (shape : InShape chapters)
    (gathered : Table Date (List Booking))
    (fresh : ∀ chapter ∈ chapters, chapter.date ∉ gathered.keys) :
    chapters.foldl gather gathered =
      gathered ++ chapters.map fun chapter => (chapter.date, chapter.bookings) := by
  induction chapters generalizing gathered with
  | nil => simp
  | cons chapter rest ih =>
      have absent := fresh chapter List.mem_cons_self
      have step : gather gathered chapter = gathered ++ [(chapter.date, chapter.bookings)] := by
        rw [gather, (Table.get?_eq_none_iff _ _).mpr absent, Table.put_of_not_mem absent]
        rfl
      rw [List.foldl_cons, step, ih shape.tail]
      · simp
      · intro other member inside
        rw [Table.keys, List.map_append, List.mem_append] at inside
        rcases inside with known | new
        · exact fresh other (List.mem_cons_of_mem _ member) known
        · have later := shape.before other member
          rw [List.map_singleton, List.mem_singleton] at new
          rw [new] at later
          exact Nat.lt_irrefl _ later

/-- Merging leaves chapters in shape alone. -/
theorem merge_of_inShape {chapters : List Chapter} (shape : InShape chapters) :
    merge chapters = chapters := by
  have gathered := foldl_gather_of_inShape shape [] (by simp [Table.keys])
  have filled : ∀ entry ∈ chapters.map fun chapter => (chapter.date, chapter.bookings),
      (!entry.2.isEmpty) = true := by
    intro entry member
    rcases List.mem_map.mp member with ⟨chapter, inside, rfl⟩
    simpa using shape.nonempty chapter inside
  have sorted : (chapters.map fun chapter => (chapter.date, chapter.bookings)).Pairwise
      fun left right => left.1.notAfter right.1 := by
    refine List.pairwise_map.mpr (shape.ascending.imp ?_)
    intro left right less
    exact (Date.notAfter_iff _ _).mpr (Nat.le_of_lt less)
  rw [merge, gathered, List.nil_append, List.filter_eq_self.mpr filled,
    List.mergeSort_of_pairwise sorted, List.map_map]
  exact List.map_id' chapters

/-! ## Chapters of single bookings -/

/-- A chapter for every booking. -/
def singles (chapters : List Chapter) : List Chapter :=
  (entries chapters).map fun entry => ⟨entry.1, [entry.2]⟩

theorem entries_singles (chapters : List Chapter) : entries (singles chapters) = entries chapters := by
  rw [singles, entries, List.flatMap_map]
  exact List.flatMap_singleton' (entries chapters)

theorem foldl_gather_singles {date : Date} {bookings : List Booking} (filled : bookings ≠ [])
    (gathered : Table Date (List Booking)) :
    (bookings.map fun booking => (⟨date, [booking]⟩ : Chapter)).foldl gather gathered =
      gather gathered ⟨date, bookings⟩ := by
  induction bookings generalizing gathered with
  | nil => exact absurd rfl filled
  | cons booking rest ih =>
      cases rest with
      | nil => rfl
      | cons second others =>
          rw [List.map_cons, List.foldl_cons, ih (List.cons_ne_nil _ _), gather, gather, gather,
            Table.get?_put, if_pos rfl, Option.getD_some, Table.put_put, List.append_assoc]
          rfl

/-- Merging does not see whether the bookings of a date came in one chapter. -/
theorem merge_singles {chapters : List Chapter} (filled : ∀ chapter ∈ chapters, chapter.bookings ≠ []) :
    merge (singles chapters) = merge chapters := by
  have gathered : ∀ table, (singles chapters).foldl gather table = chapters.foldl gather table := by
    induction chapters with
    | nil => exact fun _ => rfl
    | cons chapter rest ih =>
        intro table
        have here := @foldl_gather_singles chapter.date _ (filled chapter List.mem_cons_self) table
        rw [singles, entries_cons, List.map_append, List.foldl_append, List.map_map, ← singles,
          List.foldl_cons, ← ih fun other member => filled other (List.mem_cons_of_mem _ member)]
        exact congrArg (fun start => (singles rest).foldl gather start) here
  rw [merge, merge, gathered]

end Chapter
end Daybook
