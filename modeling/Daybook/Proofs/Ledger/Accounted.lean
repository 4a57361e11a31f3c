import Daybook.Proofs.Ledger.Outline

namespace Daybook

/-!
# Every line is accounted for

No line with content is dropped.  An indented one is a currency entry if a currency block is open
at its place, and else exactly one posting is what it says; an unindented one is a currency
header, a day or the description of exactly one booking.  The lines of the days, the bookings and
the postings follow each other in the reading as they do in the text, so that no posting and no
booking ends up behind another line than its own.
-/

open Calendar

/-! ## Exactly one -/

section Keyed

variable {α β : Type} {reads : α → β → Prop} {number : α → Nat} {line : β → Option Nat} {written : List α}
  {items : List β}

/-- Nothing comes from a line that is not among those that were read. -/
theorem filter_line_eq_nil (read : List.Forall₂ reads written items)
    (kept : ∀ one item, reads one item → line item = some (number one)) {other : Nat}
    (absent : other ∉ written.map number) : items.filter (fun item => line item = some other) = [] := by
  rw [List.filter_eq_nil_iff]
  intro item member
  rcases exists_of_forall₂ read member with ⟨one, inside, from_it⟩
  intro same
  rw [decide_eq_true_eq, kept one item from_it] at same
  exact absent (Option.some.inj same ▸ List.mem_map_of_mem inside)

/-- Exactly one thing comes from a line that was read. -/
theorem exists_filter_line (read : List.Forall₂ reads written items)
    (kept : ∀ one item, reads one item → line item = some (number one))
    (distinct : (written.map number).Nodup) {one : α} (member : one ∈ written) :
    ∃ item, items.filter (fun item => line item = some (number one)) = [item] ∧ reads one item := by
  induction read with
  | nil => cases member
  | @cons first item rest others here later ih =>
      rw [List.map_cons, List.nodup_cons] at distinct
      rcases List.mem_cons.mp member with rfl | inside
      · refine ⟨item, ?_, here⟩
        rw [List.filter_cons_of_pos (by simpa using kept _ _ here),
          filter_line_eq_nil later kept distinct.1]
      · have different : line item ≠ some (number one) := by
          rw [kept _ _ here]
          intro same
          exact distinct.1 (Option.some.inj same ▸ List.mem_map_of_mem inside)
        rw [List.filter_cons_of_neg (by simpa using different)]
        exact ih distinct.2 inside

end Keyed

/-! ## The whole text -/

namespace Line

/-- Whether the line of a number is inside of a currency block: a header stands above it, with
nothing but indented lines and comments between them. -/
def IsInBlock (text : Text) (number : Nat) : Prop :=
  ∃ front header closings between numbered back,
    classify (Text.lines text) = front ++ header :: between ++ numbered :: back ∧
      header.line = .header closings ∧ numbered.number = number ∧
      ∀ other ∈ between, ∃ content comment, other.line = .indented content comment

/-- A block that is open behind lines was opened by a header. -/
theorem exists_header_of_blockBehind {lines : List NumberedLine} (opened : blockBehind false lines = true) :
    ∃ front header closings between, lines = front ++ header :: between ∧ header.line = .header closings ∧
      ∀ other ∈ between, ∃ content comment, other.line = .indented content comment := by
  induction lines using List.reverseRecOn with
  | nil => cases opened
  | append_singleton lines last ih =>
      rw [blockBehind, List.foldl_append, List.foldl_cons, List.foldl_nil] at opened
      cases line : last.line with
      | header closings =>
          exact ⟨lines, last, closings, [], rfl, line, fun _ member => by cases member⟩
      | indented content comment =>
          rw [line] at opened
          rcases ih opened with ⟨front, header, closings, between, rfl, is_header, inside⟩
          refine ⟨front, header, closings, between ++ [last], by simp, is_header, fun other member => ?_⟩
          rcases List.mem_append.mp member with before | here
          · exact inside other before
          · exact ⟨content, comment, List.mem_singleton.mp here ▸ line⟩
      | gap => rw [line] at opened; cases opened
      | date text => rw [line] at opened; cases opened
      | relative day => rw [line] at opened; cases opened
      | description text => rw [line] at opened; cases opened

/-- A block stays open behind a header as long as lines are indented. -/
theorem blockBehind_of_header {front between : List NumberedLine} {header : NumberedLine} {closings : Nat}
    (is_header : header.line = .header closings)
    (inside : ∀ other ∈ between, ∃ content comment, other.line = .indented content comment) (before : Bool) :
    blockBehind before (front ++ header :: between) = true := by
  have stays : ∀ (lines : List NumberedLine),
      (∀ other ∈ lines, ∃ content comment, other.line = .indented content comment) →
        blockBehind true lines = true := by
    intro lines all
    induction lines with
    | nil => rfl
    | cons first rest ih =>
        rcases all first List.mem_cons_self with ⟨content, comment, line⟩
        rw [blockBehind, List.foldl_cons, line]
        exact ih fun other member => all other (List.mem_cons_of_mem _ member)
  rw [blockBehind, List.foldl_append, List.foldl_cons, is_header]
  exact stays between inside

/-- A line is inside of a block if one is open behind the lines above it. -/
theorem isInBlock_iff {text : Text} {front back : List NumberedLine} {numbered : NumberedLine}
    (shape : classify (Text.lines text) = front ++ numbered :: back) :
    IsInBlock text numbered.number ↔ blockBehind false front = true := by
  constructor
  · rintro ⟨before, header, closings, between, other, after, same, is_header, number, inside⟩
    have first : numbered ∈ classify (Text.lines text) := shape ▸ by simp
    have second : other ∈ classify (Text.lines text) := same ▸ by simp
    obtain rfl : other = numbered := eq_of_number_eq second first number
    have distinct : (classify (Text.lines text)).Nodup := by
      refine (numbers_of_classifyFrom true 1 (Text.lines text)).2.imp ?_
      rintro one _ less rfl
      exact Nat.lt_irrefl _ less
    rw [same] at shape distinct
    have absent := List.nodup_middle.mp distinct
    rw [List.nodup_cons, List.mem_append, not_or] at absent
    rcases (List.append_cons_inj_of_notMem absent.1.1 absent.1.2).mp shape with ⟨rfl, -, -⟩
    exact blockBehind_of_header is_header inside false
  · intro opened
    rcases exists_header_of_blockBehind opened with
      ⟨before, header, closings, between, rfl, is_header, inside⟩
    exact ⟨before, header, closings, between, numbered, back, shape, is_header, rfl, inside⟩

theorem postings_eq_collect (text : Text) :
    postings text = collect postingOf false (classify (Text.lines text)) :=
  postingsFrom_eq_collect false _

/-- No posting comes from a currency block. -/
theorem not_isInBlock_of_posting {text : Text} {written : Nat × Text} (member : written ∈ postings text) :
    ¬ IsInBlock text written.1 := by
  rw [postings_eq_collect, mem_collect_iff] at member
  rcases member with ⟨front, numbered, back, shape, found⟩
  rcases mem_postingOf_iff.mp found with ⟨closed, same, -⟩
  rw [same, isInBlock_iff shape, closed]
  exact Bool.false_ne_true

end Line

namespace Reading

def postingsOn (reading : Reading) (number : Nat) : List Posting :=
  (reading.bookings.flatMap (·.postings)).filter fun posting => posting.line = some number

def bookingsOn (reading : Reading) (number : Nat) : List Booking :=
  reading.bookings.filter fun booking => booking.line = some number

/-- What an indented line with content is in a reading: in a currency block a declaration, from
which no posting comes, and elsewhere exactly one posting that is what the line says. -/
inductive KeepsIndented (text : Text) (reading : Reading) (number : Nat) (raw : Text) : Prop
  | entry {declaration : Declaration} {column : Nat} (inside : Line.IsInBlock text number)
      (read : Declaration.ofEntry (Line.cutComment raw).1 (Line.cutComment raw).2 number =
        .ok (declaration, column))
      (declared : reading.registry.has declaration.currency.designator = true)
      (no_posting : reading.postingsOn number = [])
  | posting {posting : Posting} (outside : ¬ Line.IsInBlock text number)
      (only : reading.postingsOn number = [posting])
      (read : posting.ReadFrom number (Line.cutComment raw).1)

/-- What an unindented line with content is in a reading: a currency header or a day, from which no
booking comes, or exactly one booking that is what the line describes. -/
inductive KeepsUnindented (text : Text) (reading : Reading) (number : Nat) (raw : Text) : Prop
  | header {closings : Nat} (classified : ⟨number, .header closings⟩ ∈ Line.classify (Text.lines text))
      (words : Line.isHeader (Text.words (Text.stripEnd (Line.cutComment raw).1)) = true)
      (no_booking : reading.bookingsOn number = [])
  | day {line : Line} (classified : ⟨number, line⟩ ∈ Line.days (Line.classify (Text.lines text)))
      (shows : line.Of raw) (no_booking : reading.bookingsOn number = [])
  | booking {booking : Booking} (only : reading.bookingsOn number = [booking])
      (begun : booking.BegunBy (number, Text.stripEnd (Line.cutComment raw).1))

/-- Whether a reading accounts for all lines of a text.  Each day of the text begins one of the
chapters, in the order of the text, and the lines of days, bookings and postings, chapter by
chapter, stand in this order in the text.  Every booking has a posting and is in the chapter of the
nearest day above it. -/
structure AccountsFor (text : Text) (today : Option Date) (reading : Reading) : Prop where
  indented : ∀ raw number, (raw, number) ∈ (Text.lines text).zipIdx 1 → Line.HasContent raw →
    Line.BeginsBlank raw → KeepsIndented text reading number raw
  unindented : ∀ raw number, (raw, number) ∈ (Text.lines text).zipIdx 1 → Line.HasContent raw →
    ¬ Line.BeginsBlank raw → KeepsUnindented text reading number raw
  days : List.Forall₂ (Line.OpensOn today) (Line.days (Line.classify (Text.lines text)))
    (reading.chapters.map (·.date))
  outline : (Line.outline (Line.days (Line.classify (Text.lines text))) reading.chapters).Pairwise
    Line.IsAbove
  filled : ∀ booking ∈ reading.bookings, booking.postings ≠ []
  nearest : ∀ day chapter,
    (day, chapter) ∈ (Line.days (Line.classify (Text.lines text))).zip reading.chapters →
      ∀ booking ∈ chapter.bookings, ∃ number, booking.line = some number ∧ day.number < number ∧
        ∀ other ∈ Line.days (Line.classify (Text.lines text)), other.number < number →
          other.number ≤ day.number

variable {text : Text} {today : Option Date} {registry : Registry} {strict : Bool} {reading : Reading}

theorem exists_follows (ok : ofText text today registry strict = .ok reading) :
    Line.ToldBy today (Line.classify (Text.lines text)) reading.chapters ∧
      (∀ booking ∈ reading.bookings, booking.postings ≠ []) ∧
      ∀ entry ∈ Line.entries (Line.classify (Text.lines text)), ∃ declaration column,
        Declaration.ofEntry entry.2.1 entry.2.2 entry.1 = .ok (declaration, column) ∧
          reading.registry.has declaration.currency.designator = true := by
  unfold ofText at ok
  rcases Outcome.bind_eq_ok.mp ok with ⟨reader, run, finished⟩
  have follows := (Reader.follows_nil today _).steps run
  rw [List.nil_append] at follows
  rcases follows.finish finished with ⟨chapters, currencies, filled⟩
  have told := follows.told
  rw [Reader.today_of_steps run, ← chapters] at told
  exact ⟨told, filled, currencies ▸ follows.entries⟩

/-! ## Every line -/

/-- An indented line with content is accounted for. -/
theorem keepsIndented (ok : ofText text today registry strict = .ok reading) {raw : Text} {number : Nat}
    (member : (raw, number) ∈ (Text.lines text).zipIdx 1) (content : Line.HasContent raw)
    (blank : Line.BeginsBlank raw) : KeepsIndented text reading number raw := by
  rcases Line.exists_classified member content true with ⟨line, inside, shows, some_line⟩
  obtain rfl : line = .indented (Line.cutComment raw).1 (Line.cutComment raw).2 := by
    cases shows with
    | indented content blank => rfl
    | gap => exact absurd rfl some_line
    | header content unindented words => exact absurd blank unindented
    | date content unindented looks => exact absurd blank unindented
    | relative content unindented word => exact absurd blank unindented
    | description content unindented => exact absurd blank unindented
  rcases List.append_of_mem inside with ⟨front, back, shape⟩
  have in_block : Line.IsInBlock text number ↔ _ := Line.isInBlock_iff shape
  have postings := postings_of_ofText ok
  cases opened : Line.blockBehind false front with
  | true =>
      have listed : (number, (Line.cutComment raw).1, (Line.cutComment raw).2) ∈
          Line.entries (Line.classify (Text.lines text)) :=
        Line.mem_collect_iff.mpr ⟨front, _, back, shape, opened ▸ List.mem_singleton_self _⟩
      rcases (exists_follows ok).2.2 _ listed with ⟨declaration, column, read, declared⟩
      have among := in_block.mpr opened
      refine .entry among read declared
        (filter_line_eq_nil postings (fun _ _ read => read.line_eq) fun found => ?_)
      rcases List.mem_map.mp found with ⟨written, posting, rfl⟩
      exact Line.not_isInBlock_of_posting posting among
  | false =>
      have listed : (number, (Line.cutComment raw).1) ∈ Line.postings text := by
        rw [Line.postings_eq_collect]
        refine Line.mem_collect_iff.mpr ⟨front, _, back, shape, ?_⟩
        rw [opened]
        exact List.mem_singleton_self _
      rcases exists_filter_line postings (fun _ _ read => read.line_eq) (Line.nodup_postings text) listed with
        ⟨posting, only, read⟩
      exact .posting (Line.not_isInBlock_of_posting listed) only read

/-- An unindented line with content is accounted for. -/
theorem keepsUnindented (ok : ofText text today registry strict = .ok reading) {raw : Text} {number : Nat}
    (member : (raw, number) ∈ (Text.lines text).zipIdx 1) (content : Line.HasContent raw)
    (unindented : ¬ Line.BeginsBlank raw) : KeepsUnindented text reading number raw := by
  rcases Line.exists_classified member content true with ⟨line, inside, shows, some_line⟩
  have headings := List.forall₂_map_right_iff.mp (exists_follows ok).1.headings
  have line_eq : ∀ (heading : Nat × Text) (booking : Booking),
      booking.withoutPostings.BegunBy heading → booking.line = some heading.1 := by
    rintro heading booking ⟨annotated, -, same⟩
    exact congrArg (·.line) same
  -- A line that is no description has another number than all of them.
  have no_booking : Line.headingOf ⟨number, line⟩ = [] → reading.bookingsOn number = [] := by
    intro no_heading
    refine filter_line_eq_nil headings line_eq fun found => ?_
    rcases List.mem_map.mp found with ⟨heading, listed, same⟩
    rcases List.mem_flatMap.mp listed with ⟨⟨other, shown⟩, among, here⟩
    cases shown with
    | description described =>
        rcases List.mem_singleton.mp here with rfl
        rw [← Line.eq_of_number_eq among inside same] at no_heading
        cases no_heading
    | gap => cases here
    | header closings => cases here
    | date date => cases here
    | relative day => cases here
    | indented content comment => cases here
  cases shows with
  | gap => exact absurd rfl some_line
  | indented content blank => exact absurd blank unindented
  | header content unindented words => exact .header inside words (no_booking rfl)
  | date content unindented looks =>
      exact .day (List.mem_flatMap.mpr ⟨_, inside, List.mem_singleton_self _⟩)
        (.date content unindented looks) (no_booking rfl)
  | relative content unindented word =>
      exact .day (List.mem_flatMap.mpr ⟨_, inside, List.mem_singleton_self _⟩)
        (.relative content unindented word) (no_booking rfl)
  | description content unindented =>
      have listed : (number, Text.stripEnd (Line.cutComment raw).1) ∈
          Line.headings (Line.classify (Text.lines text)) :=
        List.mem_flatMap.mpr ⟨_, inside, List.mem_singleton_self _⟩
      have distinct : ((Line.headings (Line.classify (Text.lines text))).map (·.1)).Nodup :=
        Line.map_headings _ ▸ (Line.ascending_heads text).imp Nat.ne_of_lt
      rcases exists_filter_line headings line_eq distinct listed with ⟨booking, only, begun⟩
      exact .booking only begun

/-! ## The order of the lines -/

theorem isAbove_outline (ok : ofText text today registry strict = .ok reading) :
    (Line.outline (Line.days (Line.classify (Text.lines text))) reading.chapters).Pairwise Line.IsAbove := by
  rw [(exists_follows ok).1.outline]
  exact List.pairwise_map.mpr ((Line.ascending_marks text).imp fun less => ⟨_, _, rfl, rfl, less⟩)

/-- The day of its chapter is the nearest one above a booking. -/
theorem nearest_day {days : List NumberedLine} {chapters : List Chapter}
    (together : days.length = chapters.length) (ordered : (Line.outline days chapters).Pairwise Line.IsAbove)
    {day : NumberedLine} {chapter : Chapter} (member : (day, chapter) ∈ days.zip chapters) {booking : Booking}
    (inside : booking ∈ chapter.bookings) :
    ∃ number, booking.line = some number ∧ day.number < number ∧
      ∀ other ∈ days, other.number < number → other.number ≤ day.number := by
  have own : booking.line ∈ chapter.lines := List.mem_flatMap.mpr ⟨booking, inside, List.mem_cons_self⟩
  have all_days : (days.zip chapters).map (·.1) = days := List.map_fst_zip together.le
  rcases List.append_of_mem member with ⟨front, back, shape⟩
  rw [Line.outline, shape, List.flatMap_append, List.flatMap_cons, List.pairwise_append,
    List.pairwise_append] at ordered
  rcases ordered with ⟨-, ⟨here, -, before_back⟩, after_front⟩
  rcases List.rel_of_pairwise_cons here own with ⟨first, number, same_day, line, below⟩
  obtain rfl : day.number = first := Option.some.inj same_day
  refine ⟨number, line, below, fun other among less => ?_⟩
  rw [← all_days, shape, List.map_append, List.map_cons, List.mem_append, List.mem_cons] at among
  have mark {opened : NumberedLine × Chapter} {pairs : List (NumberedLine × Chapter)}
      (listed : opened ∈ pairs) :
      some opened.1.number ∈ pairs.flatMap fun opened => some opened.1.number :: opened.2.lines :=
    List.mem_flatMap.mpr ⟨opened, listed, List.mem_cons_self⟩
  rcases among with earlier | same | later
  · rcases List.mem_map.mp earlier with ⟨opened, listed, rfl⟩
    rcases after_front _ (mark listed) _ (List.mem_append_left _ List.mem_cons_self) with
      ⟨one, two, first, second, above⟩
    rcases Option.some.inj first with rfl
    rcases Option.some.inj second with rfl
    exact above.le
  · rw [same]
  · rcases List.mem_map.mp later with ⟨opened, listed, rfl⟩
    rcases before_back _ (List.mem_cons_of_mem _ own) _ (mark listed) with ⟨one, two, first, second, above⟩
    rcases Option.some.inj (line.symm.trans first) with rfl
    rcases Option.some.inj second with rfl
    exact absurd less above.le.not_gt

/-- A text that is accepted is accounted for line by line. -/
theorem lines_accounted_for (ok : ofText text today registry strict = .ok reading) :
    AccountsFor text today reading := by
  have told := (exists_follows ok).1
  exact
    { indented := fun raw number member content blank => keepsIndented ok member content blank
      unindented := fun raw number member content unindented => keepsUnindented ok member content unindented
      days := told.days
      outline := isAbove_outline ok
      filled := (exists_follows ok).2.1
      nearest := fun day chapter member booking inside =>
        nearest_day told.length_eq (isAbove_outline ok) member inside }

/-- The word for the present day as a description and, on another line, as a day. -/
def todayText : Text :=
  Text.ofLines ["currency ; of the house".toList, "    $  USD  ; dollar".toList, "2024-01-05".toList,
    "today".toList, "    food  $2.50 ; lunch".toList, "  ; paid".toList, "    cash".toList, [],
    "today".toList, "supper".toList, "    food  $5".toList, "    cash".toList]

theorem today_accounted_for :
    ∃ today reading, ofText todayText (some today) {} true = .ok reading ∧
      reading.chapters.map (·.lines) =
        [[some 4, some 5, some 7], [some 10, some 11, some 12]] ∧
      AccountsFor todayText (some today) reading := by
  let today : Date := ⟨2024, 1, 6, by decide⟩
  have chapters : (ofText todayText (some today) {} true).map
      (fun reading => reading.chapters.map (·.lines)) =
        .ok [[some 4, some 5, some 7], [some 10, some 11, some 12]] := by decide +kernel
  rcases Outcome.map_eq_ok.mp chapters with ⟨reading, accepted, lines⟩
  exact ⟨today, reading, accepted, lines, lines_accounted_for accepted⟩

end Reading
end Daybook
