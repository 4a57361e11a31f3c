import Daybook.Proofs.Ledger.Beside
import Daybook.Proofs.Ledger.Classified

namespace Daybook

/-!
# No line is dropped or misattributed

The bookings that are open while a text is read wait in the state until something ends them: a
gap, a header, a date, the next description or the end.  Which of these it is makes no
difference.  Seen together with what is open, the chapters only ever change at their end: a line
for a day adds a chapter, a description adds a booking to the last chapter, a line of a posting
adds a posting to the last booking, and every other line adds nothing.

So the lines that the chapters, their bookings and their postings come from are, one after the
other, the lines of these kinds in the order of the text.  Each such line is accounted for once,
and a booking is in the chapter of the nearest day above it.
-/

open Calendar

/-! ## What is read from a line -/

def Booking.withoutPostings (booking : Booking) : Booking := { booking with postings := [] }

/-- Whether a booking is what a description says, but for its postings. -/
def Booking.BegunBy (heading : Nat × Text) (booking : Booking) : Prop :=
  ∃ annotated, Annotated.ofText heading.2 (some heading.1) = .ok annotated ∧
    booking.withoutPostings =
      { description := annotated.description
        split := annotated.split
        dateOffset := annotated.dateOffset
        line := some heading.1 }

/-- The lines of a booking: that of its description, then those of its postings. -/
def Booking.lines (booking : Booking) : List (Option Nat) :=
  booking.line :: booking.postings.map (·.line)

def Chapter.lines (chapter : Chapter) : List (Option Nat) := chapter.bookings.flatMap (·.lines)

namespace Line

def OpensOn (today : Option Date) (numbered : NumberedLine) (date : Date) : Prop :=
  match numbered.line with
  | .date text => Reader.readDate text numbered.number = .ok date
  | .relative day => ∃ present, today = some present ∧ present.shift? day.days = some date
  | _ => False

def dayOf (numbered : NumberedLine) : List NumberedLine :=
  match numbered.line with
  | .date _ | .relative _ => [numbered]
  | _ => []

def days (lines : List NumberedLine) : List NumberedLine := lines.flatMap dayOf

/-- The description in a line, with its number. -/
def headingOf (numbered : NumberedLine) : List (Nat × Text) :=
  match numbered.line with
  | .description text => [(numbered.number, text)]
  | _ => []

/-- The descriptions, with their numbers. -/
def headings (lines : List NumberedLine) : List (Nat × Text) := lines.flatMap headingOf

theorem map_headings (lines : List NumberedLine) : (headings lines).map (·.1) = heads lines := by
  rw [headings, heads, List.map_flatMap]
  refine congrArg (List.flatMap · lines) (funext fun numbered => ?_)
  rcases numbered with ⟨number, line⟩
  cases line <;> rfl

/-- The currency entry in a line, with its number and its comment. -/
def entryOf (inBlock : Bool) (numbered : NumberedLine) : List (Nat × Text × Text) :=
  match numbered.line with
  | .indented content comment => if inBlock then [(numbered.number, content, comment)] else []
  | _ => []

/-- The number of a line that leaves a trace in the chapters. -/
def markOf (inBlock : Bool) (numbered : NumberedLine) : List Nat :=
  match numbered.line with
  | .date _ | .relative _ | .description _ => [numbered.number]
  | .indented _ _ => if inBlock then [] else [numbered.number]
  | .gap | .header _ => []

/-- What is collected from lines one by one, given whether a currency block is open. -/
def collect {α : Type} (of : Bool → NumberedLine → List α) : Bool → List NumberedLine → List α
  | _, [] => []
  | inBlock, numbered :: rest =>
    of inBlock numbered ++ collect of (numbered.line.blockAfter inBlock) rest

/-- Whether a currency block is open behind lines. -/
def blockBehind (inBlock : Bool) (lines : List NumberedLine) : Bool :=
  lines.foldl (fun inBlock numbered => numbered.line.blockAfter inBlock) inBlock

def entries (lines : List NumberedLine) : List (Nat × Text × Text) := collect entryOf false lines

/-- The numbers of the lines that leave a trace in the chapters. -/
def marks (lines : List NumberedLine) : List Nat := collect markOf false lines

/-- The lines of chapters in their order: for each the line of its day, then those of its
bookings. -/
def outline (days : List NumberedLine) (chapters : List Chapter) : List (Option Nat) :=
  (days.zip chapters).flatMap fun opened => some opened.1.number :: opened.2.lines

/-- Whether one line of a text stands above another one. -/
def IsAbove (first second : Option Nat) : Prop :=
  ∃ m n, first = some m ∧ second = some n ∧ m < n

/-! ## Collecting -/

theorem collect_append {α : Type} (of : Bool → NumberedLine → List α) (inBlock : Bool)
    (front back : List NumberedLine) :
    collect of inBlock (front ++ back) =
      collect of inBlock front ++ collect of (blockBehind inBlock front) back := by
  induction front generalizing inBlock with
  | nil => rfl
  | cons numbered rest ih =>
      rw [List.cons_append, collect, collect, ih, List.append_assoc]
      rfl

theorem postingsFrom_eq_collect (inBlock : Bool) (lines : List NumberedLine) :
    postingsFrom inBlock lines = collect postingOf inBlock lines := by
  induction lines generalizing inBlock with
  | nil => rfl
  | cons numbered rest ih => rw [postingsFrom, collect, ih]

theorem days_concat (front : List NumberedLine) (numbered : NumberedLine) :
    days (front ++ [numbered]) = days front ++ dayOf numbered := by
  rw [days, days, List.flatMap_append, List.flatMap_singleton]

theorem headings_concat (front : List NumberedLine) (numbered : NumberedLine) :
    headings (front ++ [numbered]) = headings front ++ headingOf numbered := by
  rw [headings, headings, List.flatMap_append, List.flatMap_singleton]

theorem marks_concat (front : List NumberedLine) (numbered : NumberedLine) :
    marks (front ++ [numbered]) = marks front ++ markOf (blockBehind false front) numbered := by
  rw [marks, marks, collect_append, collect, collect, List.append_nil]

/-- Something is collected from a line of the text, given whether a block is open in front of it. -/
theorem mem_collect_iff {α : Type} {of : Bool → NumberedLine → List α} {inBlock : Bool}
    {lines : List NumberedLine} {found : α} :
    found ∈ collect of inBlock lines ↔ ∃ front numbered back, lines = front ++ numbered :: back ∧
      found ∈ of (blockBehind inBlock front) numbered := by
  induction lines generalizing inBlock with
  | nil =>
      refine ⟨fun member => (by cases member), ?_⟩
      rintro ⟨front, numbered, back, shape, -⟩
      exact absurd shape.symm (by simp)
  | cons first rest ih =>
      rw [collect, List.mem_append, ih]
      constructor
      · rintro (here | ⟨front, numbered, back, rfl, there⟩)
        · exact ⟨[], first, rest, rfl, here⟩
        · exact ⟨first :: front, numbered, back, rfl, there⟩
      · rintro ⟨front, numbered, back, shape, there⟩
        cases front with
        | nil =>
            rcases List.cons.inj shape with ⟨rfl, rfl⟩
            exact Or.inl there
        | cons other front =>
            rcases List.cons.inj shape with ⟨rfl, rfl⟩
            exact Or.inr ⟨front, numbered, back, rfl, there⟩

theorem marks_sublist (inBlock : Bool) (lines : List NumberedLine) :
    (collect markOf inBlock lines).Sublist (lines.map (·.number)) := by
  induction lines generalizing inBlock with
  | nil => exact .slnil
  | cons numbered rest ih =>
      have later := ih (numbered.line.blockAfter inBlock)
      have here : markOf inBlock numbered = [numbered.number] ∨ markOf inBlock numbered = [] := by
        unfold markOf
        split
        · exact Or.inl rfl
        · exact Or.inl rfl
        · exact Or.inl rfl
        · cases inBlock
          · exact Or.inl rfl
          · exact Or.inr rfl
        · exact Or.inr rfl
        · exact Or.inr rfl
      rw [collect]
      rcases here with same | same
      · rw [same]
        exact later.cons_cons _
      · rw [same]
        exact later.cons _

/-- The lines that leave a trace are numbered as they follow each other. -/
theorem ascending_marks (text : Text) : (marks (classify (Text.lines text))).Pairwise (· < ·) :=
  (List.pairwise_map.mpr (numbers_of_classifyFrom true 1 _).2).sublist (marks_sublist _ _)

/-! ## The outline -/

/-- A new chapter adds the line of its day. -/
theorem outline_append {days : List NumberedLine} {chapters : List Chapter}
    (together : days.length = chapters.length) (day : NumberedLine) (date : Date) :
    outline (days ++ [day]) (chapters ++ [⟨date, []⟩]) = outline days chapters ++ [some day.number] := by
  rw [outline, List.zip_append together, List.flatMap_append]
  rfl

/-- What is added to the last chapter is added to the outline. -/
theorem outline_last {days : List NumberedLine} {front : List Chapter} {chapter longer : Chapter}
    {more : List (Option Nat)} (together : days.length = (front ++ [chapter]).length)
    (added : longer.lines = chapter.lines ++ more) :
    outline days (front ++ [longer]) = outline days (front ++ [chapter]) ++ more := by
  induction front generalizing days with
  | nil =>
      obtain ⟨day, rfl⟩ := List.length_eq_one_iff.mp together
      simp [outline, added]
  | cons first front ih =>
      cases days with
      | nil => cases together
      | cons day days =>
          have shorter : days.length = (front ++ [chapter]).length := Nat.succ.inj together
          have rest := ih shorter
          unfold outline at rest ⊢
          rw [List.cons_append, List.cons_append, List.zip_cons_cons, List.zip_cons_cons, List.flatMap_cons,
            List.flatMap_cons, rest, List.append_assoc]

end Line

/-! ## What a line does to the chapters -/

namespace Chapter

/-- What a line does to the chapters, given whether a currency block is open above it.  A gap, a
header or a currency entry adds nothing, a day a chapter, a description a booking to the last
chapter, and a posting is added to the last booking. -/
inductive Extended (today : Option Date) (inBlock : Bool) (numbered : NumberedLine)
    (chapters : List Chapter) : List Chapter → Prop
  | nothing (unmarked : Line.markOf inBlock numbered = []) : Extended today inBlock numbered chapters chapters
  | day {date : Date} (opens : Line.OpensOn today numbered date) :
      Extended today inBlock numbered chapters (chapters ++ [⟨date, []⟩])
  | heading {text : Text} {front : List Chapter} {chapter : Chapter} {booking : Booking}
      (line : numbered.line = .description text) (last : chapters = front ++ [chapter])
      (begun : booking.BegunBy (numbered.number, text)) (empty : booking.postings = []) :
      Extended today inBlock numbered chapters
        (front ++ [{ chapter with bookings := chapter.bookings ++ [booking] }])
  | posting {content comment : Text} {front : List Chapter} {chapter : Chapter} {booking : Booking}
      {posting : Posting} (line : numbered.line = .indented content comment) (outside : inBlock = false)
      (last : chapters = front ++ [{ chapter with bookings := chapter.bookings ++ [booking] }])
      (read : posting.ReadFrom numbered.number content) :
      Extended today inBlock numbered chapters
        (front ++ [{ chapter with
          bookings := chapter.bookings ++ [{ booking with postings := booking.postings ++ [posting] }] }])

theorem Extended.of_eq {today : Option Date} {inBlock : Bool} {numbered : NumberedLine}
    {chapters after : List Chapter} (unmarked : Line.markOf inBlock numbered = []) (same : after = chapters) :
    Extended today inBlock numbered chapters after :=
  same ▸ .nothing unmarked

end Chapter

/-- What the chapters have to do with the lines they were read from. -/
structure Line.ToldBy (today : Option Date) (lines : List NumberedLine) (chapters : List Chapter) : Prop where
  days : List.Forall₂ (Line.OpensOn today) (Line.days lines) (chapters.map (·.date))
  outline : Line.outline (Line.days lines) chapters = (Line.marks lines).map some
  headings : List.Forall₂ (fun heading booking => booking.BegunBy heading) (Line.headings lines)
    ((chapters.flatMap (·.bookings)).map (·.withoutPostings))

namespace Line.ToldBy

variable {today : Option Date} {lines : List NumberedLine} {chapters after : List Chapter}
  {numbered : NumberedLine}

theorem length_eq (told : ToldBy today lines chapters) : (Line.days lines).length = chapters.length := by
  rw [told.days.length_eq, List.length_map]

/-- A line that leaves no trace is no day and no description. -/
theorem nothing (told : ToldBy today lines chapters)
    (unmarked : markOf (blockBehind false lines) numbered = []) :
    ToldBy today (lines ++ [numbered]) chapters := by
  have plain : dayOf numbered = [] ∧ headingOf numbered = [] := by
    rcases numbered with ⟨number, line⟩
    cases line with
    | date text => cases unmarked
    | relative day => cases unmarked
    | description text => cases unmarked
    | gap => exact ⟨rfl, rfl⟩
    | header closings => exact ⟨rfl, rfl⟩
    | indented content comment => exact ⟨rfl, rfl⟩
  have days_same : Line.days (lines ++ [numbered]) = Line.days lines := by
    rw [days_concat, plain.1, List.append_nil]
  refine ⟨days_same ▸ told.days, ?_, ?_⟩
  · rw [days_same, marks_concat, unmarked, List.append_nil, told.outline]
  · rw [headings_concat, plain.2, List.append_nil]
    exact told.headings

/-- A day opens a chapter. -/
theorem day (told : ToldBy today lines chapters) {date : Date} (opens : OpensOn today numbered date) :
    ToldBy today (lines ++ [numbered]) (chapters ++ [⟨date, []⟩]) := by
  obtain ⟨own_day, no_heading, own_mark⟩ : dayOf numbered = [numbered] ∧ headingOf numbered = [] ∧
      markOf (blockBehind false lines) numbered = [numbered.number] := by
    rcases numbered with ⟨number, line⟩
    cases line with
    | date text => exact ⟨rfl, rfl, rfl⟩
    | relative day => exact ⟨rfl, rfl, rfl⟩
    | description text => cases opens
    | gap => cases opens
    | header closings => cases opens
    | indented content comment => cases opens
  have days_more : Line.days (lines ++ [numbered]) = Line.days lines ++ [numbered] := by
    rw [days_concat, own_day]
  refine ⟨?_, ?_, ?_⟩
  · rw [days_more, List.map_append]
    exact List.rel_append told.days (.cons opens .nil)
  · rw [days_more, outline_append told.length_eq, told.outline, marks_concat, own_mark, List.map_append]
    rfl
  · rw [headings_concat, no_heading, List.append_nil, List.flatMap_append]
    simpa using told.headings

variable {number : Nat} {front : List Chapter} {chapter : Chapter} {booking : Booking}

/-- A description begins a booking of the last chapter. -/
theorem heading (told : ToldBy today lines (front ++ [chapter])) {text : Text}
    (begun : booking.BegunBy (number, text)) (empty : booking.postings = []) :
    ToldBy today (lines ++ [⟨number, .description text⟩])
      (front ++ [{ chapter with bookings := chapter.bookings ++ [booking] }]) := by
  have begun_line : booking.line = some number := by
    rcases begun with ⟨annotated, -, same⟩
    exact congrArg (·.line) same
  have days_same : Line.days (lines ++ [⟨number, .description text⟩]) = Line.days lines := by
    rw [days_concat]
    exact List.append_nil _
  refine ⟨?_, ?_, ?_⟩
  · rw [days_same]
    simpa using told.days
  · rw [days_same, marks_concat, List.map_append, ← told.outline]
    refine outline_last told.length_eq ?_
    simp [Chapter.lines, Booking.lines, begun_line, empty, markOf]
  · have whole := List.rel_append told.headings
      (List.Forall₂.cons (R := fun heading (booking : Booking) => booking.BegunBy heading) begun .nil)
    have same : booking.withoutPostings = booking := by
      rw [Booking.withoutPostings, ← empty]
    rw [headings_concat]
    simpa [same, headingOf] using whole

/-- A posting goes to the last booking of the last chapter. -/
theorem posting {content comment : Text} {posting : Posting}
    (told : ToldBy today lines
      (front ++ [{ chapter with bookings := chapter.bookings ++ [booking] }]))
    (outside : blockBehind false lines = false) (read : posting.ReadFrom number content) :
    ToldBy today (lines ++ [⟨number, .indented content comment⟩])
      (front ++ [{ chapter with
        bookings := chapter.bookings ++ [{ booking with postings := booking.postings ++ [posting] }] }]) := by
  have days_same : Line.days (lines ++ [⟨number, .indented content comment⟩]) = Line.days lines := by
    rw [days_concat]
    exact List.append_nil _
  refine ⟨?_, ?_, ?_⟩
  · rw [days_same]
    simpa using told.days
  · rw [days_same, marks_concat, List.map_append, ← told.outline]
    refine outline_last told.length_eq ?_
    simp [Chapter.lines, Booking.lines, read.line_eq, markOf, outside]
  · rw [headings_concat]
    simpa [headingOf, Booking.withoutPostings] using told.headings

/-- A line goes on telling what it does to the chapters. -/
theorem extend (told : ToldBy today lines chapters)
    (extended : Chapter.Extended today (blockBehind false lines) numbered chapters after) :
    ToldBy today (lines ++ [numbered]) after := by
  rcases numbered with ⟨number, line⟩
  cases extended with
  | nothing unmarked => exact told.nothing unmarked
  | day opens => exact told.day opens
  | @heading text front chapter booking is_heading last begun empty =>
      obtain rfl : line = .description text := is_heading
      subst last
      exact told.heading begun empty
  | @posting content comment front chapter booking posting is_posting outside last read =>
      obtain rfl : line = .indented content comment := is_posting
      subst last
      exact told.posting outside read

end Line.ToldBy

/-! ## The state of reading -/

namespace Reader

variable {reader closed after : Reader}

/-- The chapters that were begun, with what is open at their end. -/
def begunChapters (reader : Reader) : List Chapter :=
  reader.closedChapters ++ (reader.chapter.map fun chapter =>
    { chapter with bookings := chapter.bookings ++ reader.booking.toList }).toList

theorem begunChapters_of_closeBooking (ok : reader.closeBooking = .ok closed) :
    closed.begunChapters = reader.begunChapters := by
  rcases closeBooking_eq_ok ok with ⟨-, rfl⟩ | ⟨booking, opened, -, rfl⟩
  · rfl
  · cases chapter : reader.chapter <;> simp [begunChapters, withClosed, chapter, opened]

theorem begunChapters_openChapter (nothing_open : reader.booking = none) (date : Date) :
    (reader.openChapter date).begunChapters = reader.begunChapters ++ [⟨date, []⟩] := by
  cases chapter : reader.chapter <;>
    simp [begunChapters, openChapter, closeChapter, chapter, nothing_open]

theorem extended_posting {number : Nat} {content comment : Text} {booking : Booking} {posting : Posting}
    {registry : Registry} {amountColumns : Table Nat Nat} (dated : reader.IsDated)
    (outside : reader.inBlock = false) (opened : reader.booking = some booking)
    (read : Posting.ReadFrom number content posting) :
    Chapter.Extended reader.today reader.inBlock ⟨number, .indented content comment⟩ reader.begunChapters
      ({ reader with registry, amountColumns }.withPosting booking posting).begunChapters := by
  obtain ⟨chapter, current⟩ : ∃ chapter, reader.chapter = some chapter :=
    Option.ne_none_iff_exists'.mp (dated (by rw [opened]; exact Option.some_ne_none _))
  have last : reader.begunChapters =
      reader.closedChapters ++ [{ chapter with bookings := chapter.bookings ++ [booking] }] := by
    rw [begunChapters, current, opened]
    rfl
  have longer : ({ reader with registry, amountColumns }.withPosting booking posting).begunChapters =
      reader.closedChapters ++ [{ chapter with
        bookings := chapter.bookings ++ [{ booking with postings := booking.postings ++ [posting] }] }] := by
    rw [begunChapters, withPosting]
    dsimp only
    rw [current]
    rfl
  rw [longer]
  exact .posting rfl outside last read

/-- What a line does to the chapters that were begun. -/
theorem Stepped.extended {number : Nat} {line : Line} (dated : reader.IsDated)
    (stepped : Stepped reader number line after) :
    Chapter.Extended reader.today reader.inBlock ⟨number, line⟩ reader.begunChapters after.begunChapters := by
  have kept : ∀ {closed}, { reader with inBlock := false }.closeBooking = .ok closed →
      closed.begunChapters = reader.begunChapters := fun ended =>
    (@begunChapters_of_closeBooking { reader with inBlock := false } _ ended :)
  cases stepped with
  | gap ended => exact .of_eq rfl (begunChapters_of_closeBooking ended :)
  | header few ended => exact .of_eq rfl (kept ended :)
  | date read ended =>
      rw [begunChapters_openChapter (booking_of_closeBooking ended), kept ended]
      exact .day read
  | relative known beside ended =>
      rw [begunChapters_openChapter (booking_of_closeBooking ended), kept ended]
      exact .day ⟨_, known, beside⟩
  | @description text annotated closed ended placed read named =>
      obtain ⟨chapter, current⟩ : ∃ chapter, closed.chapter = some chapter :=
        Option.ne_none_iff_exists'.mp placed
      have last : reader.begunChapters = closed.closedChapters ++ [chapter] := by
        rw [← kept ended, begunChapters, current, booking_of_closeBooking ended]
        simp
      have longer : Reader.begunChapters { closed with
            booking := some
              { description := annotated.description
                split := annotated.split
                dateOffset := annotated.dateOffset
                line := some number } } =
          closed.closedChapters ++ [{ chapter with
            bookings := chapter.bookings ++
              [{ description := annotated.description
                 split := annotated.split
                 dateOffset := annotated.dateOffset
                 line := some number }] }] := by
        rw [begunChapters]
        dsimp only
        rw [current]
        rfl
      rw [longer]
      exact .heading rfl last ⟨annotated, read, rfl⟩ rfl
  | entry inside read declared =>
      refine .nothing ?_
      rw [Line.markOf, inside]
      rfl
  | bare outside opened read omitted => exact extended_posting dated outside opened (.bare read omitted)
  | posting outside opened read written amount =>
      exact extended_posting dated outside opened (.amount read written amount)

/-- What holds when some lines have been read. -/
structure Follows (reader : Reader) (lines : List NumberedLine) : Prop where
  dated : reader.IsDated
  block : reader.inBlock = Line.blockBehind false lines
  told : Line.ToldBy reader.today lines reader.begunChapters
  filled : ∀ booking ∈ reader.bookings, booking.postings ≠ []
  entries : ∀ entry ∈ Line.entries lines, ∃ declaration column,
    Declaration.ofEntry entry.2.1 entry.2.2 entry.1 = .ok (declaration, column) ∧
      reader.registry.has declaration.currency.designator = true

/-- Nothing has been read yet. -/
theorem follows_nil (today : Option Date) (registry : Registry) : Follows { today, registry } [] where
  dated := fun opened => absurd rfl opened
  block := rfl
  told := ⟨.nil, rfl, .nil⟩
  filled := fun booking member => by cases member
  entries := fun entry member => by cases member

theorem filled_of_closeBooking (filled : ∀ booking ∈ reader.bookings, booking.postings ≠ [])
    (ok : reader.closeBooking = .ok closed) : ∀ booking ∈ closed.bookings, booking.postings ≠ [] := by
  rcases closeBooking_eq_ok ok with ⟨-, rfl⟩ | ⟨booking, -, some_posting, rfl⟩
  · exact filled
  · intro other member
    cases chapter : reader.chapter with
    | none => exact filled other (by simpa [bookings, withClosed, chapter] using member)
    | some current =>
        have either : other ∈ reader.bookings ∨ other = booking := by
          simpa [bookings, withClosed, chapter, or_assoc] using member
        rcases either with inside | rfl
        · exact filled other inside
        · exact some_posting

/-- Whatever a line does, only bookings with postings are put into their chapters. -/
theorem Stepped.filled {number : Nat} {line : Line} (stepped : Stepped reader number line after)
    (filled : ∀ booking ∈ reader.bookings, booking.postings ≠ []) :
    ∀ booking ∈ after.bookings, booking.postings ≠ [] := by
  have kept : ∀ {closed}, { reader with inBlock := false }.closeBooking = .ok closed →
      ∀ booking ∈ closed.bookings, booking.postings ≠ [] := fun ended =>
    (@filled_of_closeBooking { reader with inBlock := false } _ filled ended :)
  have opened : ∀ {closed : Reader} {date : Date}, (∀ booking ∈ closed.bookings, booking.postings ≠ []) →
      ∀ booking ∈ (closed.openChapter date).bookings, booking.postings ≠ [] := by
    intro closed date before booking member
    exact before booking (by simpa [bookings, openChapter, closeChapter] using member)
  cases stepped with
  | gap ended => exact (filled_of_closeBooking filled ended :)
  | header few ended => exact (kept ended :)
  | date read ended => exact opened (kept ended)
  | relative known beside ended => exact opened (kept ended)
  | description ended placed read named => exact (kept ended :)
  | entry inside read declared => exact filled
  | bare outside opened read omitted => exact filled
  | posting outside opened read written amount => exact filled

theorem Stepped.declared {number : Nat} {line : Line} (stepped : Stepped reader number line after) :
    ∀ entry ∈ Line.entryOf reader.inBlock ⟨number, line⟩, ∃ declaration column,
      Declaration.ofEntry entry.2.1 entry.2.2 entry.1 = .ok (declaration, column) ∧
        after.registry.has declaration.currency.designator = true := by
  intro entry member
  cases stepped with
  | gap ended => cases member
  | header few ended => cases member
  | date read ended => cases member
  | relative known beside ended => cases member
  | description ended placed read named => cases member
  | entry inside read declared =>
      rw [Line.entryOf, inside] at member
      rcases List.mem_singleton.mp member with rfl
      exact ⟨_, _, read, Registry.has_declared declared⟩
  | bare outside opened read omitted =>
      rw [Line.entryOf, outside] at member
      cases member
  | posting outside opened read written amount =>
      rw [Line.entryOf, outside] at member
      cases member

variable {lines more : List NumberedLine}

/-- What holds goes on holding behind a line. -/
theorem Follows.step {numbered : NumberedLine} (follows : reader.Follows lines)
    (ok : reader.step numbered = .ok after) : after.Follows (lines ++ [numbered]) := by
  have stepped := stepped_of_step ok
  have adds := stepped.adds follows.dated
  refine ⟨adds.dated, ?_, ?_, stepped.filled follows.filled, ?_⟩
  · rw [adds.block, follows.block, Line.blockBehind, Line.blockBehind, List.foldl_append]
    rfl
  · rw [stepped.today]
    exact follows.told.extend (follows.block ▸ stepped.extended follows.dated)
  · intro entry member
    rw [Line.entries, Line.collect_append, Line.collect, Line.collect, List.append_nil,
      ← follows.block] at member
    rcases List.mem_append.mp member with before | here
    · rcases follows.entries entry before with ⟨declaration, column, read, present⟩
      exact ⟨declaration, column, read, stepped.grows.has _ present⟩
    · exact stepped.declared entry here

/-- What holds goes on holding behind all lines. -/
theorem Follows.steps (follows : reader.Follows lines) (ok : reader.steps more = .ok after) :
    after.Follows (lines ++ more) := by
  induction more generalizing reader lines with
  | nil =>
      rcases Except.ok.inj ok with rfl
      rwa [List.append_nil]
  | cons numbered rest ih =>
      rcases Outcome.bind_eq_ok.mp ok with ⟨next, here, later⟩
      have whole := ih (follows.step here) later
      rwa [List.append_assoc, List.singleton_append] at whole

/-- The chapters of a reading are those that were begun, and none of their bookings is empty. -/
theorem Follows.finish {reading : Reading} (follows : reader.Follows lines)
    (ok : reader.finish = .ok reading) :
    reading.chapters = reader.begunChapters ∧ reading.registry = reader.registry ∧
      ∀ booking ∈ reading.bookings, booking.postings ≠ [] := by
  unfold Reader.finish at ok
  rcases Outcome.bind_eq_ok.mp ok with ⟨closed, ended, ok⟩
  rcases Outcome.bind_eq_ok.mp ok with ⟨⟨⟩, -, ok⟩
  rcases Except.ok.inj ok with rfl
  refine ⟨?_, (registry_of_closeBooking ended :), ?_⟩
  · rw [← begunChapters_of_closeBooking ended, begunChapters, booking_of_closeBooking ended]
    cases chapter : closed.chapter <;> simp [closeChapter, chapter]
  · exact filled_of_closeBooking follows.filled ended

end Reader

end Daybook
