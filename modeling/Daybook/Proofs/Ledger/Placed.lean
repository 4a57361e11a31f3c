import Daybook.Proofs.Ledger.LoadFailure
import Daybook.Proofs.Ledger.Outline
import Daybook.Proofs.Ledger.Pointed

namespace Daybook

/-!
# Every fault points at the right place

A text can be refused long after the line at fault has been read: a booking without postings is
noticed when something else begins, the decimals of an amount are checked when all currencies are
known, and splits and omitted amounts are looked at after everything else.  The place is then
taken from what was kept of the line, its number with the booking or the posting, and the column
of an amount in a table.  Each of these leads back to the line, so that every fault of a text
that is loaded points at a line of the text and, in it, at what it is about, apart from an alias
that is taken.
-/

open Unicode Calendar

/-! ## Lines -/

namespace Reader

variable {reader after : Reader} {fault : LedgerFault} {number : Nat} {raw : Text}

/-- Whether a fault is that the open booking has no postings. -/
def LeavesEmpty (reader : Reader) (fault : LedgerFault) : Prop :=
  ∃ booking, reader.booking = some booking ∧
    fault =
      { cause := .missingPostings booking.description
        line := booking.line
        column := some 1 }

theorem leavesEmpty_of_closeBooking (failed : reader.closeBooking = .error (.ledger fault)) :
    reader.LeavesEmpty fault := by
  rcases closeBooking_eq_error failed with ⟨booking, opened, -, same⟩
  exact ⟨booking, opened, Failure.ledger.inj same⟩

theorem pointsAt_of_readDate {text : Text} (failed : readDate text number = .error (.ledger fault)) :
    fault.PointsAt number raw := by
  unfold readDate at failed
  split at failed
  · split at failed
    · cases failed
    · cases failed
      exact LedgerFault.pointsAt_first fun _ _ => trivial
  · cases failed
    exact LedgerFault.pointsAt_first fun _ _ => trivial

/-- The column of the amount in what precedes the comment of a posting. -/
def columnOf (content : Text) : Nat :=
  (content.takeWhile isBlank).length + (PostingText.ofText (Text.strip content)).offset + 1

/-- The account of a posting stands in its line. -/
theorem account_stands (raw : Text) :
    (PostingText.ofText (Text.strip (Line.cutComment raw).1)).account.StandsAt raw
      ((Line.cutComment raw).1.takeWhile isBlank).length := by
  have stands := ((Text.StandsAt.ofPrefix (PostingText.isPrefix_account _)).trans
    (Text.standsAt_strip (Line.cutComment raw).1)).trans (.ofPrefix (Line.isPrefix_cutComment raw))
  rwa [Nat.zero_add, Nat.add_zero] at stands

/-- What is wrong with the amount of a posting is placed at the amount. -/
theorem pointsAt_of_amount {text : Text} {registry left : Registry} {failure : Failure}
    (written : Line.amountOf? raw = some text)
    (refused : Money.ofText text registry = (.error failure, left))
    (placed : failure.placedAt number (columnOf (Line.cutComment raw).1) = .ledger fault) :
    fault.PointsAt number raw := by
  have stands := Line.amount_stands (Line.isPrefix_cutComment raw) written
  cases failure
  case ledger known =>
    rcases known with ⟨cause, line, old⟩
    rcases Money.foundAt_of_ofText refused written ⟨_, rfl, stands⟩ with ⟨unplaced, shown⟩
    obtain rfl : line = none := unplaced
    cases placed
    exact LedgerFault.pointsAt_offset stands.inside shown
  all_goals cases placed

/-- A fault of a line points into the line, unless it is that the booking above has no
postings. -/
theorem pointsAt_of_step {line : Line} (shows : line.Of raw)
    (failed : reader.step ⟨number, line⟩ = .error (.ledger fault)) :
    fault.PointsAt number raw ∨ reader.LeavesEmpty fault := by
  have begins := Line.isPrefix_cutComment raw
  generalize same : Failure.ledger fault = failure at failed
  cases refused_of_step failed with
  | unfilled opened bare => exact Or.inr ⟨_, opened, Failure.ledger.inj same⟩
  | header many =>
      cases same
      exact Or.inl (LedgerFault.pointsAt_first fun _ _ => trivial)
  | date refused =>
      cases same
      exact Or.inl (pointsAt_of_readDate refused)
  | unknown unknown =>
      cases same
      exact Or.inl (LedgerFault.pointsAt_first fun _ _ => trivial)
  | outside known outside => cases same
  | undated ended undated =>
      cases same
      exact Or.inl (LedgerFault.pointsAt_first fun _ _ => trivial)
  | tags refused =>
      cases same
      cases shows with
      | description content unindented =>
          have inside := ((Text.isPrefix_stripEnd _).trans begins).length_le
          exact Or.inl (Annotated.pointsAt_of_ofText inside refused)
  | unnamed read unnamed =>
      cases same
      exact Or.inl (LedgerFault.pointsAt_first fun _ _ => trivial)
  | entry inside refused =>
      cases same
      cases shows with
      | indented content blank => exact Or.inl (Declaration.pointsAt_of_ofEntry begins refused)
  | conflict inside read declared =>
      cases same
      cases shows with
      | indented content blank =>
          rcases Declaration.exists_of_ofEntry begins read with ⟨offset, rfl, stands, aliased⟩
          exact Or.inl (LedgerFault.pointsAt_passage stands fun here =>
            Registry.foundAt_of_declare declared here aliased)
  | alone outside unopened =>
      cases same
      cases shows with
      | indented content blank =>
          refine Or.inl (LedgerFault.pointsAt_offset ?_ trivial)
          exact Nat.le_trans (List.takeWhile_sublist _).length_le begins.length_le
  | account outside opened refused =>
      cases same
      cases shows with
      | indented content blank => exact Or.inl (Account.pointsAt_of_ofText (account_stands raw) refused)
  | amount outside opened written refused =>
      cases shows with
      | indented content blank => exact Or.inl (pointsAt_of_amount written refused same.symm)

/-- Lines are refused at one of them. -/
theorem exists_step_of_steps {lines : List NumberedLine} {failure : Failure}
    (failed : reader.steps lines = .error failure) :
    ∃ front numbered back middle, lines = front ++ numbered :: back ∧ reader.steps front = .ok middle ∧
      middle.step numbered = .error failure := by
  induction lines generalizing reader with
  | nil => cases failed
  | cons numbered rest ih =>
      rcases Outcome.bind_eq_error.mp failed with refused | ⟨next, stepped, later⟩
      · exact ⟨[], numbered, rest, reader, rfl, rfl, refused⟩
      · rcases ih later with ⟨front, other, back, middle, rfl, run, refused⟩
        exact ⟨numbered :: front, other, back, middle, rfl,
          Outcome.bind_eq_ok.mpr ⟨next, stepped, run⟩, refused⟩

/-! ## The columns of amounts -/

def WritesAmount (lines : List NumberedLine) (number : Nat) (content text : Text) : Prop :=
  (∃ comment, ⟨number, .indented content comment⟩ ∈ lines) ∧
    (PostingText.ofText (Text.strip content)).money = some text

/-- What is kept of the lines of amounts: a column that is kept is the one of the amount in its
line, and for every amount that was read the column is kept. -/
structure KeepsColumns (lines : List NumberedLine) (reader : Reader) : Prop where
  sound : ∀ number column, reader.amountColumns.get? number = some column →
    ∃ content text, WritesAmount lines number content text ∧ column = columnOf content
  complete : ∀ posting ∈ reader.postings, ∀ money, posting.money = some money →
    ∃ number content text, posting.line = some number ∧ WritesAmount lines number content text ∧
      (∃ registry after, Money.ofText text registry = (.ok money, after)) ∧
      ∃ column, reader.amountColumns.get? number = some column

theorem amountColumns_of_closeBooking (ok : reader.closeBooking = .ok after) :
    after.amountColumns = reader.amountColumns := by
  rcases closeBooking_eq_ok ok with ⟨-, rfl⟩ | ⟨booking, -, -, rfl⟩
  · rfl
  · rfl

theorem amountColumns_of_readPosting {booking : Booking} {content text : Text}
    (written : (PostingText.ofText (Text.strip content)).money = some text)
    (ok : reader.readPosting booking content number = .ok after) :
    after.amountColumns = reader.amountColumns.put number (columnOf content) := by
  unfold readPosting at ok
  dsimp only at ok
  rw [written] at ok
  split at ok
  · cases ok
  · rcases Outcome.bind_eq_ok.mp ok with ⟨⟨money, next⟩, taken, ok⟩
    cases ok
    rcases Outcome.map_eq_ok.mp taken with ⟨⟨found, later⟩, amount, same⟩
    rcases Prod.mk.inj same with ⟨-, rfl⟩
    unfold readMoney at amount
    split at amount
    · cases amount
      rfl
    · cases amount

/-- A line keeps the columns as they are, or it is a posting with an amount and adds the column
of the amount. -/
theorem columns_of_step {line : Line} (ok : reader.step ⟨number, line⟩ = .ok after) :
    (after.amountColumns = reader.amountColumns ∧ ∀ content text,
        (number, content) ∈ Line.postingOf reader.inBlock ⟨number, line⟩ →
          (PostingText.ofText (Text.strip content)).money ≠ some text) ∨
      ∃ content comment text, line = .indented content comment ∧
        (PostingText.ofText (Text.strip content)).money = some text ∧
        after.amountColumns = reader.amountColumns.put number (columnOf content) := by
  cases stepped_of_step ok with
  | gap ended => exact Or.inl ⟨(amountColumns_of_closeBooking ended :), fun _ _ member => by cases member⟩
  | header few ended =>
      exact Or.inl ⟨(amountColumns_of_closeBooking ended :), fun _ _ member => by cases member⟩
  | date read ended =>
      exact Or.inl ⟨(amountColumns_of_closeBooking ended :), fun _ _ member => by cases member⟩
  | relative known beside ended =>
      exact Or.inl ⟨(amountColumns_of_closeBooking ended :), fun _ _ member => by cases member⟩
  | description ended dated read named =>
      exact Or.inl ⟨(amountColumns_of_closeBooking ended :), fun _ _ member => by cases member⟩
  | entry inside read declared =>
      refine Or.inl ⟨rfl, fun _ _ member => ?_⟩
      rw [(Line.mem_postingOf_iff.mp member).1] at inside
      cases inside
  | bare outside opened read omitted =>
      refine Or.inl ⟨rfl, fun content text member => ?_⟩
      rcases Line.mem_postingOf_iff.mp member with ⟨-, -, _, ⟨⟩⟩
      rw [omitted]
      exact Option.some_ne_none _ ∘ Eq.symm
  | @posting content comment text booking account money registry amountColumns column outside opened read
      written amount =>
      have posts : reader.readIndented content comment number =
          reader.readPosting booking content number := by
        rw [readIndented, outside, opened]
        rfl
      exact Or.inr ⟨content, comment, text, rfl, written,
        amountColumns_of_readPosting written (posts.symm.trans ok)⟩

/-- A column that was kept is kept, if perhaps with another value. -/
theorem exists_column_of_step {line : Line} (ok : reader.step ⟨number, line⟩ = .ok after) {other column : Nat}
    (found : reader.amountColumns.get? other = some column) :
    ∃ column, after.amountColumns.get? other = some column := by
  rcases columns_of_step ok with ⟨same, -⟩ | ⟨content, comment, text, -, -, same⟩
  · exact ⟨column, same ▸ found⟩
  · rw [same, Table.get?_put]
    split
    · exact ⟨_, rfl⟩
    · exact ⟨column, found⟩

/-- A column that is found was kept before, or it is the one of the amount in the line. -/
theorem column_cases_of_step {line : Line} (ok : reader.step ⟨number, line⟩ = .ok after) {other column : Nat}
    (found : after.amountColumns.get? other = some column) :
    reader.amountColumns.get? other = some column ∨
      ∃ content text, WritesAmount [⟨number, line⟩] other content text ∧ column = columnOf content := by
  rcases columns_of_step ok with ⟨same, -⟩ | ⟨content, comment, text, rfl, written, same⟩
  · exact Or.inl (same ▸ found)
  · rw [same, Table.get?_put] at found
    split at found
    · rename_i equal
      subst equal
      exact Or.inr ⟨content, text, ⟨⟨comment, List.mem_cons_self⟩, written⟩, (Option.some.inj found).symm⟩
    · exact Or.inl found

/-- The column of an amount is noted with the number of its line. -/
theorem column_of_posting {line : Line} (ok : reader.step ⟨number, line⟩ = .ok after) {content text : Text}
    (posted : (number, content) ∈ Line.postingOf reader.inBlock ⟨number, line⟩)
    (written : (PostingText.ofText (Text.strip content)).money = some text) :
    after.amountColumns.get? number = some (columnOf content) := by
  rcases columns_of_step ok with ⟨-, none_written⟩ | ⟨other, _, _, rfl, -, put⟩
  · exact absurd written (none_written content text posted)
  · rcases Line.mem_postingOf_iff.mp posted with ⟨-, -, _, ⟨⟩⟩
    rw [put, Table.get?_put, if_pos rfl]

variable {lines more : List NumberedLine}

theorem WritesAmount.mono {content text : Text} (writes : WritesAmount lines number content text)
    (inside : lines ⊆ more) : WritesAmount more number content text :=
  ⟨writes.1.imp fun _ member => inside member, writes.2⟩

theorem KeepsColumns.step {numbered : NumberedLine} (keeps : reader.KeepsColumns lines)
    (dated : reader.IsDated) (ok : reader.step numbered = .ok after) :
    after.KeepsColumns (lines ++ [numbered]) := by
  rcases numbered with ⟨number, line⟩
  have before : lines ⊆ lines ++ [⟨number, line⟩] := List.subset_append_left _ _
  have here : [⟨number, line⟩] ⊆ lines ++ [⟨number, line⟩] := List.subset_append_right _ _
  constructor
  · intro other column found
    rcases column_cases_of_step ok found with known | ⟨content, text, writes, same⟩
    · rcases keeps.sound other column known with ⟨content, text, writes, same⟩
      exact ⟨content, text, writes.mono before, same⟩
    · exact ⟨content, text, writes.mono here, same⟩
  · intro posting member money given
    rcases ((stepped_of_step ok).adds dated).postings with ⟨added, whole, read⟩
    rw [whole, List.mem_append] at member
    rcases member with old | new
    · rcases keeps.complete posting old money given with
        ⟨other, content, text, own_line, writes, amount, column, found⟩
      exact ⟨other, content, text, own_line, writes.mono before, amount, exists_column_of_step ok found⟩
    · rcases exists_of_forall₂ read new with ⟨⟨other, content⟩, posted, from_it⟩
      obtain ⟨-, rfl, comment, rfl⟩ := Line.mem_postingOf_iff.mp posted
      cases from_it with
      | bare read omitted => cases given
      | @amount account column text money registry left read written amount =>
          cases given
          exact ⟨_, content, text, rfl, ⟨⟨comment, here List.mem_cons_self⟩, written⟩,
            ⟨registry, left, amount⟩, _, column_of_posting ok posted written⟩

theorem KeepsColumns.steps (keeps : reader.KeepsColumns lines) (dated : reader.IsDated)
    (ok : reader.steps more = .ok after) : after.KeepsColumns (lines ++ more) := by
  induction more generalizing reader lines with
  | nil =>
      rcases Except.ok.inj ok with rfl
      rwa [List.append_nil]
  | cons numbered rest ih =>
      rcases Outcome.bind_eq_ok.mp ok with ⟨next, stepped, later⟩
      have whole := ih (keeps.step dated stepped) ((stepped_of_step stepped).adds dated).dated later
      rwa [List.append_assoc, List.singleton_append] at whole

/-! ## The final check -/

/-- An amount with too many decimals is placed at its column. -/
theorem exists_of_checkPostings {postings : List Posting}
    (failed : reader.checkPostings postings = .error (.ledger fault)) :
    ∃ posting ∈ postings, ∃ money, posting.money = some money ∧
      ∃ refusal, money.checkPrecision reader.registry = .error refusal ∧
        ∀ line, posting.line = some line →
          Failure.ledger fault = refusal.placedAt line ((reader.amountColumns.get? line).getD 1) := by
  induction postings with
  | nil => cases failed
  | cons posting rest ih =>
      rcases Outcome.bind_eq_error.mp failed with refused | ⟨_, -, later⟩
      · refine ⟨posting, List.mem_cons_self, ?_⟩
        unfold checkPosting at refused
        split at refused
        · cases refused
        · rename_i money given
          split at refused
          · cases refused
          · rename_i refusal too_fine
            refine ⟨money, given, refusal, too_fine, fun line own_line => ?_⟩
            rw [own_line] at refused
            exact (Except.error.inj refused).symm
      · rcases ih later with ⟨other, member, found⟩
        exact ⟨other, List.mem_cons_of_mem _ member, found⟩

end Reader

/-- An amount is refused by its currency for its decimals only. -/
theorem Money.excess_of_checkPrecision {money : Money} {registry : Registry} (proper : registry.Proper)
    {fault : LedgerFault} (failed : money.checkPrecision registry = .error (.ledger fault)) :
    ∃ precision, fault = { cause := .excessDecimals money.amount precision money.currency } := by
  have designator : (registry.currencyFor money.currency).designator = money.currency := by
    unfold Registry.currencyFor
    cases found : registry.currencies.get? money.currency with
    | none => rfl
    | some currency => exact (proper.listed money.currency currency found).1
  unfold checkPrecision at failed
  rcases Outcome.bind_eq_error.mp failed with no_unit | ⟨unit, -, failed⟩
  · exact absurd (Outcome.map_eq_error.mp no_unit) Outcome.ofNumbers_ne_fault
  · rcases Outcome.bind_eq_error.mp failed with not_shown | ⟨shown, -, failed⟩
    · exact absurd not_shown Outcome.ofNumbers_ne_fault
    · split at failed
      · cases failed
      · cases failed
        exact ⟨_, by rw [designator]⟩

/-! ## Reading -/

/-- Whether a fault points into one of the lines of a text. -/
def LedgerFault.PointsInto (fault : LedgerFault) (text : Text) : Prop :=
  ∃ raw number, (raw, number) ∈ (Text.lines text).zipIdx 1 ∧ fault.PointsAt number raw

def Text.HasLine (text : Text) (number : Nat) : Prop := ∃ raw, (raw, number) ∈ (Text.lines text).zipIdx 1

namespace Line

variable {text : Text} {number : Nat}

theorem hasLine_of_mem {numbered : NumberedLine} (member : numbered ∈ classify (Text.lines text)) :
    text.HasLine numbered.number :=
  (exists_raw member).imp fun _ => And.left

theorem hasLine_of_heads {front : List NumberedLine} (inside : front ⊆ classify (Text.lines text))
    (member : number ∈ heads front) : text.HasLine number := by
  rcases List.mem_map.mp ((heads_sublist front).subset member) with ⟨numbered, among, rfl⟩
  exact hasLine_of_mem (inside among)

theorem hasLine_of_postings {written : Nat × Text} (member : written ∈ postings text) :
    text.HasLine written.1 := by
  have listed := (postingsFrom_sublist false (classify (Text.lines text))).subset
    (List.mem_map_of_mem (f := fun line => line.1) member)
  rcases List.mem_map.mp listed with ⟨numbered, among, same⟩
  exact same ▸ hasLine_of_mem among

end Line

/-- A fault at the beginning of a line that is about no passage of it. -/
theorem LedgerFault.pointsInto_line {text : Text} {number : Nat} (line : text.HasLine number) {cause : Cause}
    (plain : cause.IsPlain) {column : Option Nat} (first : column = none ∨ column = some 1) :
    PointsInto { cause, line := some number, column } text := by
  rcases line with ⟨raw, member⟩
  refine ⟨raw, number, member, ?_⟩
  rcases first with rfl | rfl
  · exact pointsAt_line plain
  · exact pointsAt_first plain

namespace Reader

variable {text : Text} {today : Option Date} {registry : Registry} {reader : Reader}
  {front : List NumberedLine} {fault : LedgerFault}

/-- A booking without postings is the one of a line of the text. -/
theorem pointsInto_of_leavesEmpty (inside : front ⊆ Line.classify (Text.lines text))
    (run : Reader.steps { today, registry } front = .ok reader) (empty : reader.LeavesEmpty fault) :
    fault.PointsInto text := by
  rcases empty with ⟨booking, opened, rfl⟩
  rcases adds_of_steps (fun opened => absurd rfl opened) run with ⟨-, heads, -⟩
  have begun : booking.line ∈ reader.begun.map (·.line) := by
    refine List.mem_map_of_mem (List.mem_append_right _ ?_)
    rw [opened]
    exact List.mem_singleton_self _
  rw [heads] at begun
  rcases List.mem_map.mp begun with ⟨number, among, same⟩
  have plain : (Cause.missingPostings booking.description).IsPlain := fun _ _ => trivial
  rw [← same]
  exact LedgerFault.pointsInto_line (Line.hasLine_of_heads inside among) plain (Or.inr rfl)

/-- An amount with too many decimals is the one of its line. -/
theorem pointsInto_of_checkPostings {checker : Reader} (proper : checker.registry.Proper)
    (keeps : reader.KeepsColumns (Line.classify (Text.lines text)))
    (columns : checker.amountColumns = reader.amountColumns)
    (failed : checker.checkPostings reader.postings = .error (.ledger fault)) : fault.PointsInto text := by
  rcases exists_of_checkPostings failed with ⟨posting, member, money, given, refusal, too_fine, placed⟩
  rcases keeps.complete posting member money given with
    ⟨number, content, amount, own_line, ⟨⟨comment, among⟩, written⟩, ⟨before, after, read⟩, column, noted⟩
  -- The column is the one of some line with this number, and there is only one.
  rcases keeps.sound number column noted with ⟨other, _, ⟨⟨_, also⟩, -⟩, rfl⟩
  cases Line.eq_of_number_eq among also rfl
  rcases Line.exists_raw among with ⟨raw, listed, shows⟩
  have placed := placed number own_line
  rw [columns, noted, Option.getD_some] at placed
  cases refusal
  case ledger known =>
    rcases Money.excess_of_checkPrecision proper too_fine with ⟨precision, rfl⟩
    cases placed
    refine ⟨raw, number, listed, ?_⟩
    cases shows with
    | indented with_content blank =>
        refine LedgerFault.pointsAt_passage (Line.amount_stands (Line.isPrefix_cutComment raw) written) ?_
        exact fun begins => ⟨amount, before, after, written, read, begins⟩
  all_goals cases placed

/-- The postings that are checked in the end are those that were read. -/
theorem postings_of_closeBooking {closed : Reader} (dated : reader.IsDated)
    (ended : reader.closeBooking = .ok closed) :
    (closed.closeChapter.closedChapters.flatMap (·.bookings)).flatMap (·.postings) = reader.postings := by
  have nothing_open := booking_of_closeBooking ended
  have chapters : closed.closeChapter.closedChapters.flatMap (·.bookings) = closed.begun := by
    simp [begun, bookings, closeChapter, nothing_open]
  rw [chapters, begun_of_closeBooking dated ended, postings]

/-- What is wrong in the end is so for a line of the text. -/
theorem pointsInto_of_finish
    (run : Reader.steps { today, registry } (Line.classify (Text.lines text)) = .ok reader)
    (proper : reader.Proper) (failed : reader.finish = .error (.ledger fault)) : fault.PointsInto text := by
  have undated : Reader.IsDated { today, registry } := fun opened => absurd rfl opened
  have dated : reader.IsDated := (adds_of_steps undated run).1
  have nothing : Reader.KeepsColumns [] { today, registry } := by
    constructor
    · rintro _ _ ⟨⟩
    · rintro _ ⟨⟩
  have keeps : reader.KeepsColumns (Line.classify (Text.lines text)) := nothing.steps undated run
  unfold finish at failed
  rcases Outcome.bind_eq_error.mp failed with refused | ⟨closed, ended, failed⟩
  · exact pointsInto_of_leavesEmpty (List.Subset.refl _) run (leavesEmpty_of_closeBooking refused)
  · rcases Outcome.bind_eq_error.mp failed with refused | ⟨_, -, done⟩
    · rw [postings_of_closeBooking dated ended] at refused
      exact pointsInto_of_checkPostings (proper.closeBooking ended).1.closeChapter.registry keeps
        (amountColumns_of_closeBooking ended :) refused
    · cases done

end Reader

namespace Reading

variable {text : Text} {today : Option Date} {strict : Bool} {fault : LedgerFault}

/-- A text that is refused while it is read is so for something in one of its lines. -/
theorem fault_pointsInto (failed : ofText text today {} strict = .error (.ledger fault)) :
    fault.PointsInto text := by
  unfold ofText at failed
  rcases Outcome.bind_eq_error.mp failed with refused | ⟨reader, run, failed⟩
  · rcases Reader.exists_step_of_steps refused with ⟨front, numbered, back, middle, shape, run, refused⟩
    have member : numbered ∈ Line.classify (Text.lines text) := by rw [shape]; simp
    have inside : front ⊆ Line.classify (Text.lines text) := by rw [shape]; simp
    rcases Line.exists_raw member with ⟨raw, listed, shows⟩
    rcases Reader.pointsAt_of_step shows refused with points | empty
    · exact ⟨raw, numbered.number, listed, points⟩
    · exact Reader.pointsInto_of_leavesEmpty inside run empty
  · exact Reader.pointsInto_of_finish run (Reader.proper_of_text run) failed

end Reading
end Daybook
