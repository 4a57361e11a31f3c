import Daybook.Proofs.Ledger.Reader
import Mathlib.Data.List.Forall2

namespace Daybook

/-!
# What becomes of the lines

Reading moves bookings from the open one to the open chapter and from there to the closed
ones.  Seen from the text nothing moves: every description adds a booking behind the others,
every line of a posting adds a posting to the last booking, and no other line adds or changes
anything.  So the bookings that were read are those of the descriptions, in the order of the
text, and their postings are those of the indented lines outside of currency blocks.  Which
lines these are shows from the lines alone.
-/

/-! ## Lines -/

namespace Line

def headOf (numbered : NumberedLine) : List Nat :=
  match numbered.line with
  | .description _ => [numbered.number]
  | _ => []

def heads (lines : List NumberedLine) : List Nat := lines.flatMap headOf

/-- Whether a currency block is open behind a line. -/
def blockAfter (inBlock : Bool) : Line → Bool
  | .header _ => true
  | .indented _ _ => inBlock
  | _ => false

/-- The posting in a line, with its number. -/
def postingOf (inBlock : Bool) (numbered : NumberedLine) : List (Nat × Text) :=
  match numbered.line with
  | .indented content _ => if inBlock then [] else [(numbered.number, content)]
  | _ => []

/-- Only an indented line outside a currency block is a posting. -/
theorem mem_postingOf_iff {inBlock : Bool} {numbered : NumberedLine} {written : Nat × Text} :
    written ∈ postingOf inBlock numbered ↔ inBlock = false ∧ written.1 = numbered.number ∧
      ∃ comment, numbered.line = .indented written.2 comment := by
  rcases numbered with ⟨number, line⟩
  cases line with
  | indented content comment =>
      cases inBlock with
      | true => simp [postingOf]
      | false => simp [postingOf, Prod.ext_iff, eq_comm]
  | gap => simp [postingOf]
  | header closings => simp [postingOf]
  | date text => simp [postingOf]
  | relative day => simp [postingOf]
  | description text => simp [postingOf]

/-- The lines of postings, with their numbers. -/
def postingsFrom : Bool → List NumberedLine → List (Nat × Text)
  | _, [] => []
  | inBlock, numbered :: rest =>
    postingOf inBlock numbered ++ postingsFrom (numbered.line.blockAfter inBlock) rest

/-- The lines of postings of a text, with their numbers. -/
def postings (text : Text) : List (Nat × Text) := postingsFrom false (classify (Text.lines text))

/-! ## Numbers of lines -/

theorem numbers_of_cons {number : Nat} {line : Line} {later : List NumberedLine}
    (behind : ∀ numbered ∈ later, number + 1 ≤ numbered.number)
    (ascending : later.Pairwise fun first second => first.number < second.number) :
    (∀ numbered ∈ (⟨number, line⟩ :: later : List NumberedLine), number ≤ numbered.number) ∧
      (⟨number, line⟩ :: later : List NumberedLine).Pairwise
        fun first second => first.number < second.number := by
  refine ⟨fun numbered member => ?_, List.pairwise_cons.mpr ⟨behind, ascending⟩⟩
  rcases List.mem_cons.mp member with rfl | inside
  · exact le_rfl
  · exact Nat.le_of_succ_le (behind numbered inside)

/-- Lines are numbered as they follow each other. -/
theorem numbers_of_classifyFrom (afterGap : Bool) (number : Nat) (raws : List Text) :
    (∀ numbered ∈ classifyFrom afterGap number raws, number ≤ numbered.number) ∧
      (classifyFrom afterGap number raws).Pairwise fun first second => first.number < second.number := by
  induction raws generalizing afterGap number with
  | nil => exact ⟨fun _ member => (by cases member), List.Pairwise.nil⟩
  | cons raw rest ih =>
      have later (gap : Bool) := ih gap (number + 1)
      unfold classifyFrom
      dsimp only
      split
      · exact numbers_of_cons (later true).1 (later true).2
      · split
        · exact ⟨fun numbered member => Nat.le_of_succ_le ((later afterGap).1 numbered member),
            (later afterGap).2⟩
        · exact numbers_of_cons (later false).1 (later false).2

theorem heads_sublist (lines : List NumberedLine) : (heads lines).Sublist (lines.map (·.number)) := by
  induction lines with
  | nil => exact .slnil
  | cons numbered rest ih =>
      rcases numbered with ⟨number, line⟩
      cases line with
      | description text => exact ih.cons_cons number
      | gap => exact ih.cons number
      | header closings => exact ih.cons number
      | date text => exact ih.cons number
      | relative day => exact ih.cons number
      | indented content comment => exact ih.cons number

theorem postingsFrom_sublist (inBlock : Bool) (lines : List NumberedLine) :
    ((postingsFrom inBlock lines).map (·.1)).Sublist (lines.map (·.number)) := by
  induction lines generalizing inBlock with
  | nil => exact .slnil
  | cons numbered rest ih =>
      rcases numbered with ⟨number, line⟩
      have later := ih (line.blockAfter inBlock)
      cases line with
      | indented content comment =>
          cases inBlock with
          | false => exact later.cons_cons number
          | true => exact later.cons number
      | gap => exact later.cons number
      | header closings => exact later.cons number
      | date text => exact later.cons number
      | relative day => exact later.cons number
      | description text => exact later.cons number

/-- Descriptions are numbered as they follow each other. -/
theorem ascending_heads (text : Text) : (heads (classify (Text.lines text))).Pairwise (· < ·) :=
  (List.pairwise_map.mpr (numbers_of_classifyFrom true 1 _).2).sublist (heads_sublist _)

/-- No two lines of postings have one number. -/
theorem nodup_postings (text : Text) : ((postings text).map (·.1)).Nodup :=
  ((List.pairwise_map.mpr (numbers_of_classifyFrom true 1 _).2).sublist
    (postingsFrom_sublist _ _)).imp Nat.ne_of_lt

end Line

/-! ## Steps -/

/-- Whether a posting is what a line says, given a state of the currencies. -/
inductive Posting.ReadFrom (number : Nat) (content : Text) : Posting → Prop
  | bare {account : Account} {column : Nat}
      (read : Account.ofText (PostingText.ofText (Text.strip content)).account (some number) column =
        .ok account)
      (omitted : (PostingText.ofText (Text.strip content)).money = none) :
      ReadFrom number content { account, money := none, line := some number }
  | amount {account : Account} {column : Nat} {text : Text} {money : Money} {registry after : Registry}
      (read : Account.ofText (PostingText.ofText (Text.strip content)).account (some number) column =
        .ok account)
      (written : (PostingText.ofText (Text.strip content)).money = some text)
      (amount : Money.ofText text registry = (.ok money, after)) :
      ReadFrom number content { account, money := some money, line := some number }

theorem Posting.ReadFrom.line_eq {number : Nat} {content : Text} {posting : Posting}
    (read : ReadFrom number content posting) : posting.line = some number := by
  cases read with
  | bare read omitted => rfl
  | amount read written amount => rfl

namespace Reader

variable {reader after closed : Reader}

/-- The bookings that were begun, the open one last. -/
def begun (reader : Reader) : List Booking := reader.bookings ++ reader.booking.toList

def postings (reader : Reader) : List Posting := reader.begun.flatMap (·.postings)

/-- Whether an open booking is in a chapter. -/
def IsDated (reader : Reader) : Prop := reader.booking ≠ none → reader.chapter ≠ none

/-- What a line adds to what was read. -/
structure Adds (reader : Reader) (numbered : NumberedLine) (after : Reader) : Prop where
  dated : after.IsDated
  block : after.inBlock = numbered.line.blockAfter reader.inBlock
  heads : after.begun.map (·.line) = reader.begun.map (·.line) ++ (Line.headOf numbered).map some
  postings : ∃ added, after.postings = reader.postings ++ added ∧
    List.Forall₂ (fun line posting => Posting.ReadFrom line.1 line.2 posting)
      (Line.postingOf reader.inBlock numbered) added

/-- Closing a booking moves it only. -/
theorem begun_of_closeBooking (dated : reader.IsDated) (ok : reader.closeBooking = .ok closed) :
    closed.begun = reader.begun := by
  rcases closeBooking_eq_ok ok with ⟨-, rfl⟩ | ⟨booking, opened, -, rfl⟩
  · rfl
  · cases chapter : reader.chapter with
    | none => exact absurd chapter (dated (by rw [opened]; exact Option.some_ne_none _))
    | some current => simp [begun, bookings, withClosed, chapter, opened]

theorem begun_openChapter (reader : Reader) (date : Calendar.Date) :
    (reader.openChapter date).begun = reader.begun := by
  simp [begun, bookings, openChapter, closeChapter]

/-- A line that begins nothing and holds no posting. -/
theorem adds_nothing {numbered : NumberedLine} (dated : after.IsDated)
    (block : after.inBlock = numbered.line.blockAfter reader.inBlock)
    (same : after.begun = reader.begun) (no_head : Line.headOf numbered = [])
    (no_posting : Line.postingOf reader.inBlock numbered = []) : Adds reader numbered after := by
  refine ⟨dated, block, ?_, [], ?_, ?_⟩
  · rw [same, no_head, List.map_nil, List.append_nil]
  · rw [Reader.postings, same, List.append_nil]
    rfl
  · rw [no_posting]
    exact .nil

/-- A line of a posting adds it to the open booking. -/
theorem adds_posting {number : Nat} {content comment : Text} {booking : Booking} {posting : Posting}
    {registry : Registry} {amountColumns : Table Nat Nat} (dated : reader.IsDated)
    (outside : reader.inBlock = false) (opened : reader.booking = some booking)
    (read : Posting.ReadFrom number content posting) :
    Adds reader ⟨number, .indented content comment⟩
      ({ reader with registry, amountColumns }.withPosting booking posting) := by
  refine ⟨fun _ => dated (by rw [opened]; exact Option.some_ne_none _), rfl, ?_, [posting], ?_, ?_⟩
  · simp [begun, bookings, withPosting, opened, Line.headOf]
  · simp [Reader.postings, begun, bookings, withPosting, opened]
  · rw [outside]
    exact .cons read .nil

/-- What every kind of line adds. -/
theorem Stepped.adds {number : Nat} {line : Line} (dated : reader.IsDated)
    (stepped : Stepped reader number line after) : Adds reader ⟨number, line⟩ after := by
  have kept : ∀ {closed}, { reader with inBlock := false }.closeBooking = .ok closed →
      closed.begun = reader.begun := fun ended =>
    (@begun_of_closeBooking { reader with inBlock := false } _ dated ended :)
  cases stepped with
  | gap ended =>
      exact adds_nothing (fun opened => absurd (booking_of_closeBooking ended) opened) rfl
        (begun_of_closeBooking dated ended :) rfl rfl
  | header few ended =>
      exact adds_nothing (fun opened => absurd (booking_of_closeBooking ended) opened) rfl
        (kept ended :) rfl rfl
  | date read ended =>
      exact adds_nothing (fun _ => Option.some_ne_none _) (inBlock_of_closeBooking ended :)
        ((begun_openChapter _ _).trans (kept ended)) rfl rfl
  | relative known beside ended =>
      exact adds_nothing (fun _ => Option.some_ne_none _) (inBlock_of_closeBooking ended :)
        ((begun_openChapter _ _).trans (kept ended)) rfl rfl
  | description ended placed read named =>
      have before := kept ended
      rw [begun, booking_of_closeBooking ended, Option.toList_none, List.append_nil] at before
      refine ⟨fun _ => placed, (inBlock_of_closeBooking ended :), ?_, [], ?_, .nil⟩
      · rw [begun, ← before, List.map_append]
        rfl
      · rw [Reader.postings, Reader.postings, begun, ← before, List.flatMap_append]
        rfl
  | entry inside read declared =>
      refine adds_nothing dated rfl rfl rfl ?_
      rw [Line.postingOf, inside]
      rfl
  | bare outside opened read omitted => exact adds_posting dated outside opened (.bare read omitted)
  | posting outside opened read written amount =>
      exact adds_posting dated outside opened (.amount read written amount)

/-- What lines add, one after the other. -/
theorem adds_of_steps {lines : List NumberedLine} (dated : reader.IsDated)
    (ok : reader.steps lines = .ok after) :
    after.IsDated ∧ after.begun.map (·.line) = reader.begun.map (·.line) ++ (Line.heads lines).map some ∧
      ∃ added, after.postings = reader.postings ++ added ∧
        List.Forall₂ (fun line posting => Posting.ReadFrom line.1 line.2 posting)
          (Line.postingsFrom reader.inBlock lines) added := by
  induction lines generalizing reader with
  | nil =>
      rcases Except.ok.inj ok with rfl
      exact ⟨dated, (List.append_nil _).symm, [], (List.append_nil _).symm, .nil⟩
  | cons numbered rest ih =>
      rcases Outcome.bind_eq_ok.mp ok with ⟨next, stepped, later⟩
      have first := (stepped_of_step stepped).adds dated
      rcases first.postings with ⟨here, joined, read⟩
      rcases ih first.dated later with ⟨last, heads, added, postings, others⟩
      refine ⟨last, ?_, here ++ added, ?_, ?_⟩
      · rw [heads, first.heads, List.append_assoc, ← List.map_append]
        rfl
      · rw [postings, joined, List.append_assoc]
      · rw [first.block] at others
        exact List.rel_append read others

/-- The chapters of a reading hold what was begun. -/
theorem bookings_of_finish {reading : Reading} (dated : reader.IsDated)
    (ok : reader.finish = .ok reading) : reading.bookings = reader.begun := by
  unfold finish at ok
  rcases Outcome.bind_eq_ok.mp ok with ⟨closed, ended, ok⟩
  rcases Outcome.bind_eq_ok.mp ok with ⟨⟨⟩, -, ok⟩
  rcases Except.ok.inj ok with rfl
  rw [← begun_of_closeBooking dated ended, begun, booking_of_closeBooking ended]
  simp [Reading.bookings, bookings, closeChapter]

end Reader

/-! ## The whole text -/

namespace Reading

variable {text : Text} {today : Option Calendar.Date} {registry : Registry} {strict : Bool}
  {reading : Reading}

/-- The bookings of a reading are those of the descriptions, in the order of the text. -/
theorem heads_of_ofText (ok : ofText text today registry strict = .ok reading) :
    reading.bookings.map (·.line) = (Line.heads (Line.classify (Text.lines text))).map some := by
  unfold ofText at ok
  rcases Outcome.bind_eq_ok.mp ok with ⟨reader, run, finished⟩
  rcases Reader.adds_of_steps (fun opened => absurd rfl opened) run with ⟨dated, heads, -⟩
  rw [Reader.bookings_of_finish dated finished, heads]
  rfl

/-- The postings of a reading are those of the lines of postings, in the order of the text. -/
theorem postings_of_ofText (ok : ofText text today registry strict = .ok reading) :
    List.Forall₂ (fun line posting => Posting.ReadFrom line.1 line.2 posting) (Line.postings text)
      (reading.bookings.flatMap (·.postings)) := by
  unfold ofText at ok
  rcases Outcome.bind_eq_ok.mp ok with ⟨reader, run, finished⟩
  rcases Reader.adds_of_steps (fun opened => absurd rfl opened) run with ⟨dated, -, added, postings, read⟩
  rw [Reader.bookings_of_finish dated finished, ← Reader.postings, postings]
  exact read

/-- No two postings of a reading have one line. -/
theorem nodup_lines_of_ofText (ok : ofText text today registry strict = .ok reading) :
    ((reading.bookings.flatMap (·.postings)).map (·.line)).Nodup := by
  have lines : ∀ {written : List (Nat × Text)} {postings : List Posting},
      List.Forall₂ (fun line posting => Posting.ReadFrom line.1 line.2 posting) written postings →
        postings.map (·.line) = (written.map (·.1)).map some := by
    intro written postings read
    induction read with
    | nil => rfl
    | cons first _ ih => rw [List.map_cons, ih, first.line_eq, List.map_cons, List.map_cons]
  rw [lines (postings_of_ofText ok)]
  exact (Line.nodup_postings text).map (Option.some_injective Nat)

end Reading
end Daybook
